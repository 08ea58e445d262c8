import Cmp50Unlock.CudaSmoke.Lemmas.Main

/-!
# The CUDA smoke test

The kernel is right for every launch and every order of its threads. The test succeeds exactly on hosts whose cards add
as they should, and gives back what it has taken from the driver.
-/

namespace Cmp50Unlock.CudaSmoke

open Lib Ptx

/-! ## The kernel -/

section
variable {F : Type} {l : Launch F} {m : Memory F} {r₀ : l.Id → Regs F}

/-- Whatever the grid is and in whatever order the threads take their steps: no thread is at fault, nothing but the
result changes, and an element of the result is as before or the sum. No run goes on forever, and where it ends all
threads have exited and the elements that have a thread are the sums. -/
theorem vector_add_correct (hb : l.Buffers m) :
    (∀ s, Runs l (start r₀ m) s → (∀ t, s.own t ≠ .faulted) ∧ l.Between m s.shared ∧
      (Ended l s → (∀ t, s.own t = .exited) ∧
        ∀ i < l.count, i.toNat < l.grid * l.block → s.shared (element l.out i) = l.sum m i)) ∧
      WellFounded fun s' s : Pool l.Id (Memory F) (Thread F) => Pool.Step (Ptx.Step vectorAdd l.env) s s' := by
  refine ⟨fun s hr => ⟨fun t hfault => ?_, (runs_spec hb hr).1, fun hend => ⟨exited_of_ended hb hr hend, ?_⟩⟩,
    Pool.wellFounded_step fun _ _ _ _ _ => forward_vectorAdd.size⟩
  · have hknows := (runs_spec hb hr).2 t
    rw [hfault] at hknows
    exact hknows
  · exact fun i hi hthread => result_of_ended hb hr hend hi hthread

end

/-- Two blocks of two threads, and vectors of three elements: one of the threads has nothing to add. -/
def sampleLaunch : Launch Nat := ⟨2, 2, 0, 16, 32, 3, Nat.add⟩

def sampleMemory : Memory Nat := fun x =>
  [(0, 1), (4, 2), (8, 3), (16, 10), (20, 20), (24, 30), (32, 0), (36, 0), (40, 0)].lookup x

def sampleStart : Pool sampleLaunch.Id (Memory Nat) (Thread Nat) :=
  start (fun _ => ⟨fun _ => false, fun _ => 0, fun _ => 0, fun _ => 0⟩) sampleMemory

theorem sample_index {i : BitVec 32} (hi : i < sampleLaunch.count) : i = 0 ∨ i = 1 ∨ i = 2 := by
  change i < 3 at hi
  bv_omega

theorem sample_buffers : sampleLaunch.Buffers sampleMemory := by
  constructor
  · intro i hi
    rcases sample_index hi with rfl | rfl | rfl <;> exact ⟨_, rfl⟩
  · intro i hi
    rcases sample_index hi with rfl | rfl | rfl <;> exact ⟨_, rfl⟩
  · intro i hi
    rcases sample_index hi with rfl | rfl | rfl <;> exact ⟨_, rfl⟩
  · intro i hi j hj
    rcases sample_index hi with rfl | rfl | rfl <;> rcases sample_index hj with rfl | rfl | rfl <;> decide
  · intro i hi j hj
    rcases sample_index hi with rfl | rfl | rfl <;> rcases sample_index hj with rfl | rfl | rfl <;> decide

/-- In whatever order the four threads take their steps, they come to an end, and there with the three sums. -/
theorem vector_add_correct_example : (∃ s, Runs sampleLaunch sampleStart s ∧ Ended sampleLaunch s) ∧
    ∀ s, Runs sampleLaunch sampleStart s → Ended sampleLaunch s →
      s.shared 32 = some 11 ∧ s.shared 36 = some 22 ∧ s.shared 40 = some 33 := by
  refine ⟨exists_ended sampleStart, fun s hr hend => ?_⟩
  have hresult := (((vector_add_correct sample_buffers).1 s hr).2.2 hend).2
  exact ⟨hresult 0 (by decide) (by decide), hresult 1 (by decide) (by decide), hresult 2 (by decide) (by decide)⟩

/-! ## The test -/

variable {H : Host} {seconds : Int} {n : Nat} {w w' : World} {o : Op}

theorem smoke_exec (h : (smoke seconds).Exec H.Step .start n w) :
    ∃ r v, ((main seconds).run.run {}).Exec H.Step .start (r, v) w ∧ n = status r := by
  obtain ⟨⟨r, v⟩, s₁, hmain, rfl, rfl⟩ := Prog.exec_bind.mp h
  exact ⟨r, v, hmain, rfl⟩

theorem main_usage (hseconds : ¬(0 ≤ seconds ∧ seconds ≤ 30)) :
    main seconds = throw (.usage "--load-seconds must be 0..30") := if_neg hseconds

/-- On every host and whatever calls fail, the test succeeds if and only if its option is accepted, no call has failed,
there is a CMP 50HX, and all of these have a supported subsystem and add all the pairs of numbers. It has then printed a
line for each of them. -/
theorem smoke_verdict (h : (smoke seconds).Exec H.Step .start n w) :
    (n = 0 ↔ (0 ≤ seconds ∧ seconds ≤ 30) ∧ w.failed = false ∧ H.Sound) ∧ (n = 0 → w.printed = H.lines seconds) := by
  obtain ⟨r, v, hmain, rfl⟩ := smoke_exec h
  by_cases hseconds : 0 ≤ seconds ∧ seconds ≤ 30
  · have houtcome := (does_main (H := H) hseconds).exec hmain
    cases r with
    | ok _ =>
        obtain ⟨-, hfailed, hsound, hprinted⟩ := houtcome
        exact ⟨⟨fun _ => ⟨hseconds, hfailed, hsound⟩, fun _ => rfl⟩, fun _ => hprinted⟩
    | error x =>
        have hne : status (.error x) ≠ 0 := by cases x <;> exact Nat.succ_ne_zero _
        refine ⟨⟨fun hzero => absurd hzero hne, fun hall => ?_⟩, fun hzero => absurd hzero hne⟩
        rcases houtcome.2 with hfailed | hsound
        · exact absurd (hall.2.1.symm.trans hfailed) Bool.false_ne_true
        · exact absurd hall.2.2 hsound
  · rw [main_usage hseconds] at hmain
    obtain ⟨heq, rfl⟩ := hmain
    cases heq
    exact ⟨⟨fun hzero => absurd hzero (by decide), fun hall => absurd hall.1 hseconds⟩,
      fun hzero => absurd hzero (by decide)⟩

/-! ### A host with one card -/

/-- The sum of two numbers that are not negative. -/
def exactAdd (x y : Word) : Word :=
  match units x, units y with
  | some x, some y => float ((x + y) / 2 ^ 149).toNat
  | _, _ => 0

def sampleIds : Field → Int
  | .vendor => 0x10de
  | .device => 0x1e09
  | .subsystemVendor => 0x1462
  | .subsystemDevice => 0x371f

def sampleHost : Host where
  count := 1
  bus := fun _ => "0000:01:00.0"
  ids := fun _ => sampleIds
  add := fun _ => exactAdd
  address := fun _ k => BitVec.ofNat 64 (k * 2 ^ 21)
  apart := by
    rintro _ j k ⟨hj, hk, hne⟩ x hx hx'
    obtain ⟨-, hx⟩ := hx
    obtain ⟨-, hx'⟩ := hx'
    have hsize : size = 262144 := rfl
    rw [hsize] at hx hx'
    bv_omega

theorem units_float {n : Nat} (hn : n < 187) : units (float n) = some ((n : Int) * 2 ^ 149) := by
  have hall : ∀ n < 187, units (float n) = some ((n : Int) * 2 ^ 149) := by decide +kernel
  exact hall n hn

theorem exactAdd_float {i j : Nat} (hi : i < 127) (hj : j < 61) : exactAdd (float i) (float j) = float (i + j) := by
  rw [exactAdd, units_float (by omega), units_float (by omega)]
  have hsum : ((i : Int) * 2 ^ 149 + (j : Int) * 2 ^ 149) / 2 ^ 149 = ((i + j : Nat) : Int) := by omega
  simp only [hsum, Int.toNat_natCast]

theorem sampleHost_sound : sampleHost.Sound where
  some := ⟨0, by decide, by decide⟩
  all := by
    intro ordinal _ _
    refine ⟨.tail _ (.head _), fun i hi j hj => ?_⟩
    change differ (float i) (float j) (exactAdd (float i) (float j)) = false
    rw [exactAdd_float hi hj, differ, units_float (by omega), units_float (by omega), units_float (by omega)]
    exact decide_eq_false (by omega)

/-- Every call can work. -/
theorem Host.exists_step (H : Host) (o : Op) (w : World) (hw : w.failed = false) :
    ∃ a w', H.Step o w a w' ∧ w'.failed = false := by
  cases o with
  | init => exact ⟨(0 : Int), w, .inl ⟨rfl, rfl⟩, hw⟩
  | deviceCount => exact ⟨((0 : Int), (H.count : Int)), w, .inl ⟨rfl, rfl, rfl⟩, hw⟩
  | pciBusId ordinal => exact ⟨((0 : Int), H.bus ordinal), w, .inl ⟨rfl, rfl, rfl⟩, hw⟩
  | readId bdf field => exact ⟨some (H.ids bdf field), w, .inl ⟨rfl, rfl⟩, hw⟩
  | ctxCreate ordinal =>
      exact ⟨((0 : Int), (1 : Nat)), { w with card := ordinal, allocated := 0, held := .context 1 :: w.held },
        ⟨fun h => absurd rfl h, .inl ⟨rfl, Nat.one_ne_zero, w.mem, rfl⟩⟩, hw⟩
  | moduleLoadData =>
      exact ⟨((0 : Int), (1 : Nat)), { w with held := .module 1 :: w.held },
        ⟨fun h => absurd rfl h, .inl ⟨rfl, Nat.one_ne_zero, rfl⟩⟩, hw⟩
  | moduleGetFunction module => exact ⟨((0 : Int), (1 : Nat)), w, .inl ⟨rfl, rfl⟩, hw⟩
  | memAlloc bytes =>
      exact ⟨((0 : Int), H.address w.card w.allocated), _, .inl ⟨rfl, rfl, fun _ => 0, rfl⟩, hw⟩
  | copyHtoD target count data => exact ⟨(0 : Int), _, .inl ⟨rfl, rfl⟩, hw⟩
  | launchKernel function grid block a b out count =>
      obtain ⟨s, hr, hend⟩ :=
        exists_ended (start (fun _ => ⟨fun _ => false, fun _ => 0, fun _ => 0, fun _ => 0⟩) w.mem :
        Pool (H.launch w grid block a b out count).Id _ _)
      exact ⟨(0 : Int), { w with mem := s.shared }, .inl ⟨rfl, _, s, hr, hend, rfl⟩, hw⟩
  | synchronize => exact ⟨(0 : Int), w, .inl ⟨rfl, rfl⟩, hw⟩
  | loadTurns seconds => exact ⟨(0 : Nat), w, rfl, hw⟩
  | copyDtoH source count =>
      refine ⟨((0 : Int), fun i => (w.mem (element source (BitVec.ofNat 32 i))).getD 0), w, .inl ⟨rfl, ?_, rfl⟩, hw⟩
      intro i _ y hy
      exact (congrArg (Option.getD · 0) hy : _)
  | memFree address => exact ⟨(0 : Int), _, .inl ⟨w.mem, rfl, rfl⟩, hw⟩
  | moduleUnload module => exact ⟨(0 : Int), _, .inl ⟨w.mem, rfl, rfl⟩, hw⟩
  | ctxDestroy context => exact ⟨(0 : Int), _, .inl ⟨w.mem, rfl, rfl⟩, hw⟩
  | getErrorName result => exact ⟨"", w, rfl, hw⟩
  | print line => exact ⟨(), _, rfl, hw⟩

theorem smoke_verdict_example : ∃ w, (smoke 0).Exec sampleHost.Step .start 0 w ∧ w.printed = sampleHost.lines 0 := by
  obtain ⟨n, w, he, hfailed⟩ := Prog.exists_exec sampleHost.exists_step (smoke 0) .start rfl
  obtain ⟨hiff, hprinted⟩ := smoke_verdict he
  obtain rfl : n = 0 := hiff.mpr ⟨by decide, hfailed, sampleHost_sound⟩
  exact ⟨w, he, hprinted rfl⟩

/-- In every run an operation works only on what is held, and what is given back is the latest; at the end nothing is
held unless a call that gives something back has failed. -/
theorem smoke_releases (seconds : Int) (H : Host) :
    (∀ o w', (smoke seconds).Issued H.Step .start o w' → Uses w' o) ∧
      ∀ n w, (smoke seconds).Exec H.Step .start n w → w.held = [] ∨ w.leaked = true := by
  have hmain : ((main seconds).run.run {}).wp H.Step Uses .start (fun _ w => w.held = [] ∨ w.leaked = true) := by
    by_cases hseconds : 0 ≤ seconds ∧ seconds ≤ 30
    · refine Prog.wp.mono (does_main (H := H) hseconds) fun r w hr => ?_
      obtain ⟨r, v⟩ := r
      cases r with
      | ok _ => exact .inl hr.1
      | error x => exact hr.1
    · rw [main_usage hseconds]
      exact .inl rfl
  have hsmoke : (smoke seconds).wp H.Step Uses .start fun _ w => w.held = [] ∨ w.leaked = true := by
    rw [smoke, Prog.wp_bind]
    exact hmain
  exact ⟨fun _ _ => hsmoke.issued, fun _ _ => hsmoke.exec⟩

end Cmp50Unlock.CudaSmoke
