import Cmp50Unlock.IdleGovernor.Lemmas.View
import Cmp50Unlock.IdleGovernor.Status

/-!
# A host that can be computed

A host whose answers are fixed beforehand: the requests that the panel writes, the readings, the commands that are
refused and the order of the ticks. Its runs are runs of the governor.
-/

namespace Cmp50Unlock.IdleGovernor

open Lib

/-! ## Files -/

def enoent : GoError := .ext "no such file or directory" true

/-- System calls that succeed whenever they can, with `request` in `control.json`. -/
def fileRun (request : Option Control) : (o : FileOp) → Dir → o.Ans × Dir
  | .openDirectory, d | .sync _, d | .close _, d => (none, d)
  | .openControl, d => (if request.isSome then none else some enoent, d)
  | .stat, d => (.ok ⟨true, 0⟩, d)
  | .readAll, d | .randRead, d => (.ok [], d)
  | .decode _, d => (request.elim (.error enoent) .ok, d)
  | .decodeNext _, d => (true, d)
  | .create name, d => if d name = none then (none, d.set name (some [])) else (some (.ext "file exists" false), d)
  | .writeString name content, d => (none, d.set name ((d name).map (· ++ content)))
  | .renameat name newName, d =>
      if (d name).isSome then (none, (d.set newName (d name)).set name none) else (some enoent, d)
  | .unlinkat name, d => if (d name).isSome then (none, d.set name none) else (some enoent, d)

theorem fileRun_step (request : Option Control) (o : FileOp) (d : Dir) :
    FileStep o d (fileRun request o d).1 (fileRun request o d).2 := by
  cases o with
  | create name =>
      simp only [fileRun]
      split
      next h => exact ⟨h, rfl⟩
      next h => exact rfl
  | renameat name newName =>
      simp only [fileRun]
      split
      next h => exact ⟨h, rfl⟩
      next h => exact rfl
  | unlinkat name =>
      simp only [fileRun]
      split
      next h => exact ⟨h, rfl⟩
      next h => exact ⟨fun _ => by simpa using h, rfl⟩
  | openControl =>
      simp only [fileRun]
      split <;> rfl
  | _ => rfl

def succeeds : (o : FileOp) → o.Ans → Bool
  | .openDirectory, err | .create _, err | .writeString _ _, err | .sync _, err | .close _, err
  | .renameat _ _, err => err.isNone
  | .randRead, r => r.isOk
  | .unlinkat _, err => err.all GoError.isNotExist
  | _, _ => true

theorem succeeds_of_true {o : FileOp} {a : o.Ans} (h : succeeds o a = true) : Succeeds o a := by
  cases o with
  | randRead =>
      obtain _ | random := a
      · cases h
      · exact ⟨random, rfl⟩
  | unlinkat name =>
      rintro err rfl
      exact h
  | stat | readAll | decode data | decodeNext data | openControl => trivial
  | _ => exact Option.isNone_iff_eq_none.mp h

/-- The call succeeds in this directory. -/
def fileCheck (o : FileOp) (d : Dir) : Bool := succeeds o (fileRun none o d).1

/-- Every call of the program succeeds. -/
def allSucceed {α : Type} (p : Files α) (d : Dir) : Bool :=
  (p.interp (Prog.checked (fileRun none) fileCheck) (d, true)).2.2

theorem exec_allSucceed {α : Type} {p : Files α} {d : Dir} (h : allSucceed p d = true) :
    p.Exec FileOk d (p.interp (fileRun none) d).1 (p.interp (fileRun none) d).2 :=
  (Prog.exec_checked id (fun o d hcheck => ⟨fileRun_step none o d, succeeds_of_true hcheck⟩) p (d, true) h).2

/-! ## The host -/

/-- What is left of the fixed answers. `keys` lists the entries of `g.states`. -/
structure Bench where
  world : World
  keys : List Int
  wakes : List Wake
  requests : List (Option Control)
  utilizations : List (BitVec 32)
  temperature : BitVec 32
  nodup : keys.Nodup
  entries : ∀ i, i ∈ keys ↔ (world.gov.states i).isSome

namespace Bench

variable (refuses : Call → Bool)

/-- The host after an operation. -/
def after (b : Bench) (o : Op) (a : o.Ans) (d : Dir) : Bench :=
  { b with
    world := b.world.after o a d
    entries := fun i => (b.entries i).trans (by rw [isSome_states_after]) }

/-- The answer to a command. -/
def refusal (cmd : Call) : Option GoError := if refuses cmd then some (.ext "refused" false) else none

/-- Answer an operation. -/
def run : (o : Op) → Bench → o.Ans × Bench
  | .utilization i, b =>
      (.ok (b.utilizations.headD 0), { b.after (.utilization i) (.ok (b.utilizations.headD 0)) b.world.dir with
        utilizations := b.utilizations.tail })
  | .temperature i, b => (.ok b.temperature, b.after (.temperature i) (.ok b.temperature) b.world.dir)
  | .call cmd, b => (refusal refuses cmd, b.after (.call cmd) (refusal refuses cmd) b.world.dir)
  | .loadControl, b =>
      let x := loadControl.interp (fileRun (b.requests.headD none)) b.world.dir
      (x.1, { b.after .loadControl x.1 x.2 with requests := b.requests.tail })
  | .statusActive control, b =>
      let x := (statusActive control).interp (fileRun none) b.world.dir
      (x.1, b.after (.statusActive control) x.1 x.2)
  | .statusInactive, b =>
      let x := statusInactive.interp (fileRun none) b.world.dir
      (x.1, b.after .statusInactive x.1 x.2)
  | .statusError err, b =>
      let x := (statusError err).interp (fileRun none) b.world.dir
      ((), b.after (.statusError err) () x.2)
  | .getGov, b => (b.world.gov, b.after .getGov b.world.gov b.world.dir)
  | .assign a, b => ((), b.after (.assign a) () b.world.dir)
  | .rangeStates, b => (b.keys, b.after .rangeStates b.keys b.world.dir)
  | .select, b =>
      (b.wakes.headD .done, { b.after .select (b.wakes.headD .done) b.world.dir with wakes := b.wakes.tail })

/-- The answers of a host that refuses these commands are among `A`. -/
structure Permits (A : Answers) : Prop where
  call : ∀ cmd, A (.call cmd) (refusal refuses cmd)
  other : ∀ o (a : o.Ans), (∀ cmd, o ≠ .call cmd) → A o a

theorem permits_anyAnswer : Permits refuses anyAnswer := ⟨fun _ => trivial, fun _ _ _ => trivial⟩

theorem permits_settersSucceed : Permits (fun _ => false) settersSucceed where
  call _ := rfl
  other o a h := by
    cases o with
    | call cmd => exact absurd rfl (h cmd)
    | _ => trivial

variable {refuses} {A : Answers}

theorem run_step (hA : Permits refuses A) (o : Op) (b : Bench) :
    Step A o b.world (run refuses o b).1 (run refuses o b).2.world := by
  have hfile : ∀ {α : Type} (p : Files α) (request : Option Control), p.Exec FileStep b.world.dir
      (p.interp (fileRun request) b.world.dir).1 (p.interp (fileRun request) b.world.dir).2 :=
    fun p request => Prog.exec_interp id (fileRun_step request) p b.world.dir
  cases o with
  | call cmd => exact ⟨hA.call cmd, _, rfl, rfl⟩
  | loadControl => exact ⟨hA.other _ _ nofun, _, hfile _ _, rfl⟩
  | statusActive control => exact ⟨hA.other _ _ nofun, _, hfile _ _, rfl⟩
  | statusInactive => exact ⟨hA.other _ _ nofun, _, hfile _ _, rfl⟩
  | statusError err => exact ⟨hA.other _ _ nofun, _, hfile _ _, rfl⟩
  | getGov => exact ⟨hA.other _ _ nofun, _, ⟨rfl, rfl⟩, rfl⟩
  | rangeStates => exact ⟨hA.other _ _ nofun, _, ⟨⟨b.nodup, b.entries⟩, rfl⟩, rfl⟩
  | _ => exact ⟨hA.other _ _ nofun, _, rfl, rfl⟩

variable {c : Config} {b : Bench} {cards : Int → Card} {dir : Dir} {l : Label} {n : Nat}

/-- What a host computes in `n` jumps, a run of the governor comes to. -/
theorem comesTo (hA : Permits refuses A) (hb : b.world = start c cards dir) {P : World → Bool}
    (h : (Goto.jump (run refuses) (IdleGovernor.run c) n .entry b).any fun x => x.1 == l && P x.2.world) :
    ∃ w, ComesTo c A cards dir l w ∧ P w := by
  cases hjump : Goto.jump (run refuses) (IdleGovernor.run c) n .entry b with
  | none =>
      rw [hjump] at h
      cases h
  | some x =>
      rw [hjump, Option.any_some, Bool.and_eq_true] at h
      have hreach := Goto.reaches_jump world (run_step hA) hjump
      rw [hb, eq_of_beq h.1] at hreach
      exact ⟨x.2.world, hreach, h.2⟩

/-- The calls of an operation on the status files succeed. -/
def reliable : Op → Bench → Bool
  | .statusActive control, b => allSucceed (statusActive control) b.world.dir
  | .statusInactive, b => allSucceed statusInactive b.world.dir
  | .statusError err, b => allSucceed (statusError err) b.world.dir
  | _, _ => true

theorem run_statusStep (o : Op) (b : Bench) (h : reliable o b = true) :
    StatusStep o b.world (run refuses o b).1 (run refuses o b).2.world := by
  refine ⟨run_step (permits_anyAnswer refuses) o b, ?_⟩
  cases o with
  | statusActive control | statusInactive | statusError err => exact exec_allSucceed h
  | _ => trivial

/-- What a host whose status files can be written computes in `n` jumps. -/
theorem statusComesTo (refuses : Call → Bool) (hb : b.world = start c cards dir) {P : World → Bool}
    (h : (Goto.jump (Prog.checked (run refuses) reliable) (IdleGovernor.run c) n .entry (b, true)).any fun x =>
      x.1 == l && x.2.2 && P x.2.1.world) : ∃ w, StatusComesTo c cards dir l w ∧ P w := by
  cases hjump : Goto.jump (Prog.checked (run refuses) reliable) (IdleGovernor.run c) n .entry (b, true) with
  | none =>
      rw [hjump] at h
      cases h
  | some x =>
      rw [hjump, Option.any_some, Bool.and_eq_true, Bool.and_eq_true] at h
      have hreach := (Goto.reaches_checked world run_statusStep hjump h.1.2).2
      rw [hb, eq_of_beq h.1.1] at hreach
      exact ⟨x.2.1.world, hreach, h.2⟩

/-- The next readings are these. -/
def shows (shown : Readings) : Op → Bench → Bool
  | .utilization _, b => b.utilizations.headD 0 == shown.utilization
  | .temperature _, b => b.temperature == shown.temperature
  | _, _ => true

theorem run_shownStep {S : Int → Prop} {shown : Readings} (o : Op) (b : Bench) (h : shows shown o b = true) :
    ShownStep S (fun _ _ => shown) o b.world (run (fun _ => false) o b).1 (run (fun _ => false) o b).2.world := by
  refine ⟨⟨?_, (run_step (permits_anyAnswer fun _ => false) o b).2⟩, ?_⟩
  · cases o <;> trivial
  · cases o with
    | utilization i | temperature i => exact fun _ => congrArg Except.ok (eq_of_beq h)
    | _ => trivial

/-- What a host whose cards show the same all the time computes in `n` jumps. -/
theorem shownComesTo {S : Int → Prop} {shown : Readings} (hb : b.world = start c cards dir) {P : World → Bool}
    (h : (Goto.jump (Prog.checked (run fun _ => false) (shows shown)) (IdleGovernor.run c) n .entry (b, true)).any
      fun x => x.1 == l && x.2.2 && P x.2.1.world) :
    ∃ w, ShownComesTo c S (fun _ _ => shown) cards dir l w ∧ P w := by
  cases hjump : Goto.jump (Prog.checked (run fun _ => false) (shows shown)) (IdleGovernor.run c) n .entry (b, true) with
  | none =>
      rw [hjump] at h
      cases h
  | some x =>
      rw [hjump, Option.any_some, Bool.and_eq_true, Bool.and_eq_true] at h
      have hreach := (Goto.reaches_checked world (run_shownStep (S := S)) hjump h.1.2).2
      rw [hb, eq_of_beq h.1.1] at hreach
      exact ⟨x.2.1.world, hreach, h.2⟩

/-- What a host computes for a GPU tick after `n` jumps. -/
theorem comesTo_gpuTick (hA : Permits refuses A) (hb : b.world = start c cards dir) {P : World → Bool}
    (h : (Goto.jump (run refuses) (IdleGovernor.run c) n .entry b).any fun x =>
      x.1 == .wait && x.2.wakes.headD .done == .gpuTicker &&
        P ((gpuTick c).interp (run refuses) (run refuses .select x.2).2).2.world) :
    ∃ w w', ComesTo c A cards dir .wait w ∧ (gpuTick c).Exec (Step A) (w.next .select .gpuTicker) () w' ∧ P w' := by
  cases hjump : Goto.jump (run refuses) (IdleGovernor.run c) n .entry b with
  | none =>
      rw [hjump] at h
      cases h
  | some x =>
      rw [hjump, Option.any_some, Bool.and_eq_true, Bool.and_eq_true] at h
      have hreach := Goto.reaches_jump world (run_step hA) hjump
      rw [hb, eq_of_beq h.1.1] at hreach
      have hexec := Prog.exec_interp world (run_step hA) (gpuTick c) (run refuses .select x.2).2
      have hworld : (run refuses .select x.2).2.world = x.2.world.next .select .gpuTicker := by
        rw [← eq_of_beq h.1.2]
        rfl
      rw [hworld] at hexec
      exact ⟨x.2.world, _, hreach, hexec, h.2⟩

/-- What a host computes up to an operation after `n` jumps. -/
theorem issues (hA : Permits refuses A) (hb : b.world = start c cards dir) (o : Op) {P : World → Bool}
    (h : (Goto.jump (run refuses) (IdleGovernor.run c) n .entry b).any fun x =>
      ((IdleGovernor.run c x.1).interpUpTo (run refuses) (· == o) x.2).any fun y => P y.2.world) :
    ∃ w, Issues c A cards dir o w ∧ P w := by
  cases hjump : Goto.jump (run refuses) (IdleGovernor.run c) n .entry b with
  | none =>
      rw [hjump] at h
      cases h
  | some x =>
      rw [hjump, Option.any_some] at h
      have hreach := Goto.reaches_jump world (run_step hA) hjump
      rw [hb] at hreach
      cases hupTo : (IdleGovernor.run c x.1).interpUpTo (run refuses) (· == o) x.2 with
      | none =>
          rw [hupTo] at h
          cases h
      | some y =>
          rw [hupTo] at h
          obtain ⟨ho, hissued⟩ := Prog.issued_interpUpTo world (run_step hA) hupTo
          rw [eq_of_beq ho] at hissued
          exact ⟨y.2.world, ⟨x.1, x.2.world, hreach, hissued⟩, h⟩

end Bench

end Cmp50Unlock.IdleGovernor
