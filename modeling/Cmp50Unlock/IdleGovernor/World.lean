import Cmp50Unlock.IdleGovernor.Files

/-!
# What an operation does

The state of a run: the memory of the governor, what the cards are set to, the control directory, and the log of
the operations issued so far with their answers, the newest first. Readings and errors may be anything;
`A` restricts the answers where a theorem is about some runs only.
-/

namespace Cmp50Unlock.IdleGovernor

open Lib

/-- The assignments to the fields of a `Governor`. -/
inductive Assign where
  | idlePolls (index polls : Int)
  | lowPower (index : Int)
  | manualFan (index : Int) (b : Bool)
  /-- `state.lowPower, state.manualFan, state.idlePolls = false, false, 0` -/
  | clear (index : Int)
  /-- `g.control, g.active = control, true` -/
  | activate (control : Control)
  /-- `g.active = false` -/
  | deactivate
  deriving DecidableEq

/-- What `Run` waits for. -/
inductive Wake where
  | done
  | controlTicker
  | gpuTicker
  deriving DecidableEq

/-- The operations of the governor. The request and the status files are one operation each: what they do is
said by the programs of `Files.lean`. -/
inductive Op where
  | utilization (index : Int)
  | temperature (index : Int)
  | call (call : Call)
  | loadControl
  | statusActive (control : Control)
  | statusInactive
  | statusError (err : GoError)
  | getGov
  | assign (a : Assign)
  | rangeStates
  | select
  deriving DecidableEq

/-- The answer to an operation. `rangeStates` answers the keys of `g.states`, in the order of the iteration. -/
@[reducible] def Op.Ans : Op → Type
  | .utilization _ | .temperature _ => Except GoError (BitVec 32)
  | .call _ | .statusActive _ | .statusInactive => Option GoError
  | .loadControl => Except GoError Control
  | .getGov => Governor
  | .rangeStates => List Int
  | .select => Wake
  | .statusError _ | .assign _ => Unit

/-- An operation with its answer. -/
abbrev Event := (o : Op) × o.Ans

structure World where
  gov : Governor
  cards : Int → Card
  dir : Dir
  log : List Event

/-! ## Steps -/

/-- The effect of an assignment. -/
def Governor.assign (g : Governor) : Assign → Governor
  | .idlePolls index polls => g.update index fun s => { s with idlePolls := polls }
  | .lowPower index => g.update index fun s => { s with lowPower := true }
  | .manualFan index b => g.update index fun s => { s with manualFan := b }
  | .clear index => g.update index fun _ => .zero
  | .activate control => { g with control := control, active := true }
  | .deactivate => { g with active := false }

/-- The effect of an operation on the memory. -/
def Governor.step (g : Governor) : Op → Governor
  | .assign a => g.assign a
  | _ => g

/-- The effect of an operation on the cards. -/
def cardsStep (cards : Int → Card) : (o : Op) → o.Ans → Int → Card
  | .call call, err => fun i => if call.index = i then (cards i).step call err else cards i
  | _, _ => cards

namespace World

variable (w : World)

/-- Reads of memory return what is there, the request and the status files follow their programs, and every other
answer is possible. -/
def Admits (d : Dir) : (o : Op) → o.Ans → Prop
  | .getGov, g => g = w.gov ∧ d = w.dir
  | .rangeStates, (keys : List Int) => (keys.Nodup ∧ ∀ i, i ∈ keys ↔ (w.gov.states i).isSome) ∧ d = w.dir
  | .loadControl, r => IdleGovernor.loadControl.Exec FileStep w.dir r d
  | .statusActive control, err => (IdleGovernor.statusActive control).Exec FileStep w.dir err d
  | .statusInactive, err => IdleGovernor.statusInactive.Exec FileStep w.dir err d
  | .statusError err, _ => (IdleGovernor.statusError err).Exec FileStep w.dir () d
  | _, _ => d = w.dir

def after (o : Op) (a : o.Ans) (d : Dir) : World :=
  ⟨w.gov.step o, cardsStep w.cards o a, d, ⟨o, a⟩ :: w.log⟩

/-- After an operation that leaves the directory as it is. -/
abbrev next (o : Op) (a : o.Ans) : World := w.after o a w.dir

end World

/-- A restriction of the answers. -/
abbrev Answers := (o : Op) → o.Ans → Prop

/-- Every answer. -/
def anyAnswer : Answers := fun _ _ => True

/-- Every setter of the hardware succeeds. -/
def settersSucceed : Answers
  | .call _, err => err = none
  | _, _ => True

/-- One operation of the governor, with an answer of `A`. -/
def Step (A : Answers) (o : Op) (w : World) (a : o.Ans) (w' : World) : Prop :=
  A o a ∧ ∃ d, w.Admits d o a ∧ w' = w.after o a d

theorem Step.log {A : Answers} {o : Op} {w w' : World} {a : o.Ans} (h : Step A o w a w') :
    w'.log = ⟨o, a⟩ :: w.log := by
  obtain ⟨-, d, -, rfl⟩ := h
  rfl

/-! ## The operations as programs -/

abbrev Gov := Prog Op Op.Ans

def utilization (index : Int) : Gov (Except GoError (BitVec 32)) := Prog.lift (Op.utilization index)

def temperature (index : Int) : Gov (Except GoError (BitVec 32)) := Prog.lift (Op.temperature index)

def call (c : Call) : Gov (Option GoError) := Prog.lift (Op.call c)

def load : Gov (Except GoError Control) := Prog.lift Op.loadControl

def publishActive (control : Control) : Gov (Option GoError) := Prog.lift (Op.statusActive control)

def publishInactive : Gov (Option GoError) := Prog.lift Op.statusInactive

def publishError (err : GoError) : Gov Unit := Prog.lift (Op.statusError err)

def getGov : Gov Governor := Prog.lift Op.getGov

def assign (a : Assign) : Gov Unit := Prog.lift (Op.assign a)

def rangeStates : Gov (List Int) := Prog.lift Op.rangeStates

def select : Gov Wake := Prog.lift Op.select

/-! ## Footprints and preconditions of the operations -/

section
variable {S : Op → Prop}

@[simp] theorem within_utilization {i} {Q : Except GoError (BitVec 32) → Prop} :
    (utilization i).Within S Q ↔ S (.utilization i) ∧ ∀ a, Q a := Prog.within_lift

@[simp] theorem within_temperature {i} {Q : Except GoError (BitVec 32) → Prop} :
    (temperature i).Within S Q ↔ S (.temperature i) ∧ ∀ a, Q a := Prog.within_lift

@[simp] theorem within_call {c} {Q : Option GoError → Prop} :
    (call c).Within S Q ↔ S (.call c) ∧ ∀ a, Q a := Prog.within_lift

@[simp] theorem within_getGov {Q : Governor → Prop} :
    getGov.Within S Q ↔ S .getGov ∧ ∀ a, Q a := Prog.within_lift

@[simp] theorem within_load {Q : Except GoError Control → Prop} :
    load.Within S Q ↔ S .loadControl ∧ ∀ a, Q a := Prog.within_lift

@[simp] theorem within_publishActive {control} {Q : Option GoError → Prop} :
    (publishActive control).Within S Q ↔ S (.statusActive control) ∧ ∀ a, Q a := Prog.within_lift

@[simp] theorem within_publishInactive {Q : Option GoError → Prop} :
    publishInactive.Within S Q ↔ S .statusInactive ∧ ∀ a, Q a := Prog.within_lift

@[simp] theorem within_publishError {err} {Q : Unit → Prop} :
    (publishError err).Within S Q ↔ S (.statusError err) ∧ Q () :=
  ⟨fun h => ⟨h.1, h.2 ()⟩, fun h => ⟨h.1, fun _ => h.2⟩⟩

@[simp] theorem within_select {Q : Wake → Prop} : select.Within S Q ↔ S .select ∧ ∀ a, Q a := Prog.within_lift

@[simp] theorem within_assign {a} {Q : Unit → Prop} :
    (assign a).Within S Q ↔ S (.assign a) ∧ Q () := ⟨fun h => ⟨h.1, h.2 ()⟩, fun h => ⟨h.1, fun _ => h.2⟩⟩

end

section
variable {A : Answers} {w : World} {G : World → Op → Prop}

/-- The precondition of an operation whose answer says nothing of the state. -/
theorem wp_free {o : Op} {Q : o.Ans → World → Prop} (hfree : ∀ a d, w.Admits d o a ↔ d = w.dir) :
    (Prog.lift o : Gov o.Ans).wp (Step A) G w Q ↔ G w o ∧ ∀ a, A o a → Q a (w.next o a) := by
  rw [Prog.wp_lift]
  refine and_congr_right fun _ => forall_congr' fun a => ⟨?_, ?_⟩
  · intro h hA; exact h _ ⟨hA, w.dir, (hfree a _).mpr rfl, rfl⟩
  · rintro h w' ⟨hA, d, hd, rfl⟩
    obtain rfl := (hfree a d).mp hd
    exact h hA

@[simp] theorem wp_utilization {i} {Q : Except GoError (BitVec 32) → World → Prop} :
    (utilization i).wp (Step A) G w Q ↔
      G w (.utilization i) ∧ ∀ a : Except GoError (BitVec 32), A (.utilization i) a → Q a (w.next (.utilization i) a) :=
  wp_free fun _ _ => Iff.rfl

@[simp] theorem wp_temperature {i} {Q : Except GoError (BitVec 32) → World → Prop} :
    (temperature i).wp (Step A) G w Q ↔
      G w (.temperature i) ∧ ∀ a : Except GoError (BitVec 32), A (.temperature i) a → Q a (w.next (.temperature i) a) :=
  wp_free fun _ _ => Iff.rfl

@[simp] theorem wp_call {c} {Q : Option GoError → World → Prop} :
    (call c).wp (Step A) G w Q ↔ G w (.call c) ∧ ∀ err : Option GoError, A (.call c) err →
    Q err (w.next (.call c) err) :=
  wp_free fun _ _ => Iff.rfl

@[simp] theorem wp_select {Q : Wake → World → Prop} :
    select.wp (Step A) G w Q ↔ G w .select ∧ ∀ a : Wake, A .select a → Q a (w.next .select a) :=
  wp_free fun _ _ => Iff.rfl

@[simp] theorem wp_assign {a} {Q : Unit → World → Prop} : (assign a).wp (Step A) G w Q ↔
    G w (.assign a) ∧ (A (.assign a) () → Q () (w.next (.assign a) ())) :=
  (wp_free fun _ _ => Iff.rfl).trans (and_congr_right fun _ => ⟨fun h => h (), fun h _ => h⟩)

@[simp] theorem wp_getGov {Q : Governor → World → Prop} : getGov.wp (Step A) G w Q ↔
    G w .getGov ∧ (A .getGov w.gov → Q w.gov (w.next .getGov w.gov)) := by
  refine Prog.wp_lift.trans (and_congr_right fun _ => ⟨?_, ?_⟩)
  · intro h hA; exact h _ _ ⟨hA, w.dir, ⟨rfl, rfl⟩, rfl⟩
  · rintro h a w' ⟨hA, d, ⟨rfl, rfl⟩, rfl⟩; exact h hA

@[simp] theorem wp_rangeStates {Q : List Int → World → Prop} : rangeStates.wp (Step A) G w Q ↔
    G w .rangeStates ∧ ∀ keys : List Int, A .rangeStates keys → keys.Nodup →
      (∀ i, i ∈ keys ↔ (w.gov.states i).isSome) → Q keys (w.next .rangeStates keys) := by
  refine Prog.wp_lift.trans (and_congr_right fun _ => ⟨?_, ?_⟩)
  · intro h keys hA hnodup hkeys; exact h keys _ ⟨hA, w.dir, ⟨⟨hnodup, hkeys⟩, rfl⟩, rfl⟩
  · rintro h keys w' ⟨hA, d, ⟨⟨hnodup, hkeys⟩, rfl⟩, rfl⟩; exact h keys hA hnodup hkeys

@[simp] theorem wp_load {Q : Except GoError Control → World → Prop} : load.wp (Step A) G w Q ↔
    G w .loadControl ∧ ∀ (r : Except GoError Control) (d : Dir), A .loadControl r →
    loadControl.Exec FileStep w.dir r d →
      Q r (w.after .loadControl r d) := by
  refine Prog.wp_lift.trans (and_congr_right fun _ => ⟨?_, ?_⟩)
  · intro h r d hA he; exact h r _ ⟨hA, d, he, rfl⟩
  · rintro h r w' ⟨hA, d, he, rfl⟩; exact h r d hA he

@[simp] theorem wp_publishActive {control} {Q : Option GoError → World → Prop} :
    (publishActive control).wp (Step A) G w Q ↔ G w (.statusActive control) ∧
      ∀ (err : Option GoError) (d : Dir), A (.statusActive control) err →
      (statusActive control).Exec FileStep w.dir err d →
        Q err (w.after (.statusActive control) err d) := by
  refine Prog.wp_lift.trans (and_congr_right fun _ => ⟨?_, ?_⟩)
  · intro h r d hA he; exact h r _ ⟨hA, d, he, rfl⟩
  · rintro h r w' ⟨hA, d, he, rfl⟩; exact h r d hA he

@[simp] theorem wp_publishInactive {Q : Option GoError → World → Prop} :
    publishInactive.wp (Step A) G w Q ↔ G w .statusInactive ∧
      ∀ (err : Option GoError) (d : Dir), A .statusInactive err → statusInactive.Exec FileStep w.dir err d →
        Q err (w.after .statusInactive err d) := by
  refine Prog.wp_lift.trans (and_congr_right fun _ => ⟨?_, ?_⟩)
  · intro h r d hA he; exact h r _ ⟨hA, d, he, rfl⟩
  · rintro h r w' ⟨hA, d, he, rfl⟩; exact h r d hA he

@[simp] theorem wp_publishError {err} {Q : Unit → World → Prop} :
    (publishError err).wp (Step A) G w Q ↔ G w (.statusError err) ∧
      ∀ d, A (.statusError err) () → (statusError err).Exec FileStep w.dir () d →
        Q () (w.after (.statusError err) () d) := by
  refine Prog.wp_lift.trans (and_congr_right fun _ => ⟨?_, ?_⟩)
  · intro h d hA he; exact h () _ ⟨hA, d, he, rfl⟩
  · rintro h r w' ⟨hA, d, he, rfl⟩; exact h d hA he

end

end Cmp50Unlock.IdleGovernor
