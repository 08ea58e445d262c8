import Cmp50Unlock.CudaSmoke.Lemmas.Kernel
import Cmp50Unlock.CudaSmoke.World
import Mathlib.Data.Nat.ModEq

/-!
# The parts of a smoke test

What holds before and after each part of the test of one card, whether its calls work or not.
-/

namespace Cmp50Unlock.CudaSmoke

open Lib Ptx

variable {H : Host} {v : Vars} {w : World} {α : Type} {Q : α → Vars → World → Prop} {E : Raised → Vars → World → Prop}

/-- The part `p` of a test on the host `H`. -/
abbrev Does (H : Host) (p : Smoke α) (v : Vars) (w : World) (Q : α → Vars → World → Prop)
    (E : Raised → Vars → World → Prop) : Prop := Code.Meets H.Step Uses p v w Q E

/-! ## Calls -/

theorem does_check {Q : Unit → Vars → World → Prop} {result : Int} {operation : String} (hok : result = 0 → Q () v w)
    (hfail : result ≠ 0 → ∀ x, E x v w) : Does H (check result operation) v w Q E := by
  rw [Does, check, Code.meets_ite]
  refine ⟨fun h => Code.meets_pure.mpr (hok h), fun h => ?_⟩
  rw [Code.meets_bind, Code.meets_call]
  refine ⟨trivial, ?_⟩
  rintro name _ rfl
  exact Code.meets_throw.mpr (hfail h _)

theorem does_readId {Q : Int → Vars → World → Prop} {bdf : String} {field : Field} (hok : Q (H.ids bdf field) v w)
    (hfail : ∀ x, E x v { w with failed := true }) : Does H (readId bdf field) v w Q E := by
  rw [Does, readId, Code.meets_bind, Code.meets_call]
  refine ⟨trivial, ?_⟩
  rintro answer _ (⟨rfl, rfl⟩ | ⟨rfl, rfl⟩)
  · exact hok
  · exact hfail _

/-! ## What is held -/

/-- What the variables say is held, the latest first. -/
def Vars.held (v : Vars) : List Resource :=
  v.allocations.reverse.map .memory ++ ((if v.module = 0 then [] else [.module v.module]) ++
    if v.context = 0 then [] else [.context v.context])

/-- The variables know what is held, and everything given back so far has been. -/
structure Known (v : Vars) (w : World) : Prop where
  held : w.held = v.held
  leaked : w.leaked = false

/-- The test of a card ends with an exception, and rightly so. -/
def Broken (H : Host) (v : Vars) (w : World) : Prop := Known v w ∧ (w.failed = true ∨ ¬H.Sound)

theorem Known.failed (hk : Known v w) {mem : Memory Word} : Broken H v { w with mem, failed := true } :=
  ⟨⟨hk.held, hk.leaked⟩, .inl rfl⟩

theorem does_free {addresses : List (BitVec 64)} {rest : List Resource}
    (hheld : w.held = addresses.map .memory ++ rest) (hleaked : w.leaked = false) :
    Does H (addresses.forM fun address => do check (← call (.memFree address)) "cuMemFree") v w
      (fun _ v' w' => v' = v ∧ w'.held = rest ∧ w'.leaked = false ∧ w'.failed = w.failed ∧ w'.printed = w.printed)
      fun _ _ w' => w'.leaked = true ∧ w'.failed = true := by
  induction addresses generalizing w with
  | nil => exact Code.meets_pure.mpr ⟨rfl, hheld, hleaked, rfl, rfl⟩
  | cons address addresses ih =>
      rw [Does, List.forM, Code.meets_bind, Code.meets_bind, Code.meets_call]
      refine ⟨by rw [Uses, hheld]; rfl, ?_⟩
      rintro result w' (⟨mem, rfl, rfl⟩ | ⟨hresult, rfl⟩)
      · refine does_check (fun _ => ?_) fun h => absurd rfl h
        refine ih ?_ hleaked
        rw [hheld]
        exact List.erase_cons_head ..
      · exact does_check (fun h => absurd h hresult) fun _ _ => ⟨rfl, rfl⟩

theorem does_unload {module : Nat} {rest : List Resource}
    (hheld : w.held = (if module = 0 then [] else [.module module]) ++ rest) (hleaked : w.leaked = false) :
    Does H (unload module) v w
      (fun _ v' w' => v' = v ∧ w'.held = rest ∧ w'.leaked = false ∧ w'.failed = w.failed ∧ w'.printed = w.printed)
      fun _ _ w' => w'.leaked = true ∧ w'.failed = true := by
  rw [Does, unload, Code.meets_ite]
  constructor
  · intro hzero
    rw [if_pos hzero] at hheld
    exact Code.meets_pure.mpr ⟨rfl, hheld, hleaked, rfl, rfl⟩
  · intro hmodule
    rw [if_neg hmodule] at hheld
    rw [Code.meets_bind, Code.meets_call]
    refine ⟨by rw [Uses, hheld]; rfl, ?_⟩
    rintro result w' (⟨mem, rfl, rfl⟩ | ⟨hresult, rfl⟩)
    · refine does_check (fun _ => ⟨rfl, ?_, hleaked, rfl, rfl⟩) fun h => absurd rfl h
      rw [hheld]
      exact List.erase_cons_head ..
    · exact does_check (fun h => absurd h hresult) fun _ _ => ⟨rfl, rfl⟩

theorem does_destroy {context : Nat} (hheld : w.held = if context = 0 then [] else [.context context])
    (hleaked : w.leaked = false) :
    Does H (destroy context) v w
      (fun _ v' w' => v' = v ∧ w'.held = [] ∧ w'.leaked = false ∧ w'.failed = w.failed ∧ w'.printed = w.printed)
      fun _ _ w' => w'.leaked = true ∧ w'.failed = true := by
  rw [Does, destroy, Code.meets_ite]
  constructor
  · intro hzero
    rw [if_pos hzero] at hheld
    exact Code.meets_pure.mpr ⟨rfl, hheld, hleaked, rfl, rfl⟩
  · intro hcontext
    rw [if_neg hcontext] at hheld
    rw [Code.meets_bind, Code.meets_call]
    refine ⟨by rw [Uses, hheld]; rfl, ?_⟩
    rintro result w' (⟨mem, rfl, rfl⟩ | ⟨hresult, rfl⟩)
    · refine does_check (fun _ => ⟨rfl, ?_, hleaked, rfl, rfl⟩) fun h => absurd rfl h
      rw [hheld]
      exact List.erase_cons_head ..
    · exact does_check (fun h => absurd h hresult) fun _ _ => ⟨rfl, rfl⟩

/-- Everything that is held is given back, up to the first call that fails. -/
theorem does_release (hk : Known v w) :
    Does H release v w
      (fun _ v' w' => v' = v ∧ w'.held = [] ∧ w'.leaked = false ∧ w'.failed = w.failed ∧ w'.printed = w.printed)
      fun _ _ w' => w'.leaked = true ∧ w'.failed = true := by
  rw [Does, release, Code.meets_bind, Code.meets_get, Code.meets_bind]
  refine (does_free hk.held hk.leaked).mono ?_ fun _ _ _ => id
  rintro _ v w₁ ⟨rfl, hheld, hleaked, hfailed, hprinted⟩
  rw [Code.meets_bind]
  refine (does_unload hheld hleaked).mono ?_ fun _ _ _ => id
  rintro _ v w₂ ⟨rfl, hheld₂, hleaked₂, hfailed₂, hprinted₂⟩
  refine (does_destroy hheld₂ hleaked₂).mono ?_ fun _ _ _ => id
  rintro _ v w₃ ⟨rfl, hheld₃, hleaked₃, hfailed₃, hprinted₃⟩
  exact ⟨rfl, hheld₃, hleaked₃, hfailed₃.trans (hfailed₂.trans hfailed), hprinted₃.trans (hprinted₂.trans hprinted)⟩

/-! ## The memory -/

/-- The words of a vector are mapped. -/
def Mapped (m : Memory Word) (base : BitVec 64) : Prop := ∀ x, Within base size x → ∃ y, m x = some y

/-- An array is in the memory. -/
def Holds (m : Memory Word) (base : BitVec 64) (data : Array) : Prop :=
  ∀ i < size, m (element base (BitVec.ofNat 32 i)) = some (data i)

theorem element_sub {base : BitVec 64} {i : Nat} (hi : i < size) :
    (element base (BitVec.ofNat 32 i) - base).toNat = i * 4 := by
  have hsize : size < 2 ^ 31 := by decide
  generalize size = n at hi hsize
  rw [element, BitVec.add_comm, BitVec.add_sub_cancel]
  simp only [BitVec.toNat_mul, BitVec.toNat_setWidth, BitVec.toNat_ofNat]
  rw [show (4 : BitVec 64).toNat = 4 from rfl]
  omega

theorem within_element {base : BitVec 64} {i : Nat} (hi : i < size) :
    Within base size (element base (BitVec.ofNat 32 i)) := by
  rw [Within, element_sub hi]
  omega

theorem element_of_within {base x : BitVec 64} (hx : Within base size x) :
    ∃ i, i < size ∧ x = element base (BitVec.ofNat 32 i) := by
  refine ⟨_, hx.2, ?_⟩
  have hback : (element base (BitVec.ofNat 32 ((x - base).toNat / 4)) - base).toNat = (x - base).toNat / 4 * 4 :=
    element_sub hx.2
  have hsame : (element base (BitVec.ofNat 32 ((x - base).toNat / 4)) - base).toNat = (x - base).toNat := by
    rw [hback, Nat.div_mul_cancel (Nat.dvd_of_mod_eq_zero hx.1)]
  have heq := BitVec.eq_of_toNat_eq hsame
  bv_omega

theorem copied_of_not_within {m : Memory Word} {base x : BitVec 64} {data : Array} (hx : ¬Within base size x) :
    copied m base size data x = m x := if_neg hx

theorem holds_copied {m : Memory Word} {base : BitVec 64} {data : Array} :
    Holds (copied m base size data) base data := by
  intro i hi
  rw [copied, if_pos (within_element hi), element_sub hi, Nat.mul_div_cancel i (by decide)]

theorem Holds.mapped {m : Memory Word} {base : BitVec 64} {data : Array} (h : Holds m base data) : Mapped m base := by
  intro x hx
  obtain ⟨i, hi, rfl⟩ := element_of_within hx
  exact ⟨_, h i hi⟩

theorem Holds.keeps {m m' : Memory Word} {base other : BitVec 64} {data : Array} (h : Holds m base data)
    (hm : ∀ x, ¬Within other size x → m' x = m x) (hother : ∀ x, Within base size x → ¬Within other size x) :
    Holds m' base data := by
  intro i hi
  rw [hm _ (hother _ (within_element hi))]
  exact h i hi

theorem Mapped.keeps {m m' : Memory Word} {base other : BitVec 64} (h : Mapped m base)
    (hm : ∀ x, ¬Within other size x → m' x = m x) (hother : ∀ x, Within base size x → ¬Within other size x) :
    Mapped m' base := by
  intro x hx
  rw [hm x (hother x hx)]
  exact h x hx

/-! ## Getting ready -/

/-- All goes well so far. -/
structure Going (tested : Nat) (printed : List String) (v : Vars) (w : World) : Prop extends Known v w where
  failed : w.failed = false
  tested : v.tested = tested
  printed : w.printed = printed

variable {tested ordinal : Nat} {printed : List String} {operation : String}

/-- The context is there, with its first `n` allocations. -/
structure Prepared (H : Host) (ordinal n : Nat) (v : Vars) (w : World) : Prop where
  card : w.card = ordinal
  allocated : w.allocated = n
  allocations : v.allocations = (List.range n).map (H.address ordinal)

theorem Prepared.mem {n k : Nat} (hp : Prepared H ordinal n v w) (hk : k < n) :
    H.address ordinal k ∈ v.allocations := by
  rw [hp.allocations]
  exact List.mem_map_of_mem (List.mem_range.mpr hk)

theorem does_allocate {Q : BitVec 64 → Vars → World → Prop} {n : Nat} (hg : Going tested printed v w)
    (hp : Prepared H ordinal n v w)
    (hok : ∀ v' w', Going tested printed v' w' → Prepared H ordinal (n + 1) v' w' →
      Mapped w'.mem (H.address ordinal n) →
      Q (H.address ordinal n) v' w') :
    Does H allocate v w Q fun _ => Broken H := by
  rw [Does, allocate, Code.meets_bind, Code.meets_call]
  refine ⟨trivial, ?_⟩
  rintro ⟨result, address⟩ w' (⟨rfl, haddress, rubbish, rfl⟩ | ⟨hresult, mem, rfl⟩)
  · obtain rfl : address = H.address ordinal n := by
      rw [← hp.card, ← hp.allocated]
      exact haddress
    rw [Code.meets_bind]
    refine does_check (fun _ => ?_) fun h => absurd rfl h
    rw [Code.meets_bind, Code.meets_modify]
    refine hok _ _ ⟨⟨?_, hg.leaked⟩, hg.failed, hg.tested, hg.printed⟩ ⟨hp.card, ?_, ?_⟩ holds_copied.mapped
    · simp [Vars.held, hg.held]
    · simp [hp.allocated]
    · simp [hp.allocations, List.range_succ]
  · rw [Code.meets_bind]
    exact does_check (fun h => absurd h hresult) fun _ _ => hg.toKnown.failed

/-- The inputs are on the card, and there is room for the result. -/
structure Loaded (H : Host) (ordinal : Nat) (v : Vars) (w : World) : Prop where
  prepared : Prepared H ordinal 3 v w
  holds_a : Holds w.mem (H.address ordinal 0) a
  holds_b : Holds w.mem (H.address ordinal 1) b
  mapped : Mapped w.mem (H.address ordinal 2)

theorem Known.mem_held {address : BitVec 64} (hk : Known v w) (h : address ∈ v.allocations) :
    .memory address ∈ w.held := by
  rw [hk.held, Vars.held]
  exact List.mem_append_left _ (List.mem_map.mpr ⟨address, List.mem_reverse.mpr h, rfl⟩)

theorem does_copyIn {Q : Unit → Vars → World → Prop} {address : BitVec 64} {data : Array}
    (hg : Going tested printed v w)
    (hmem : address ∈ v.allocations)
    (hok : ∀ w', Going tested printed v w' → w'.card = w.card → w'.allocated = w.allocated →
      Holds w'.mem address data → (∀ x, ¬Within address size x → w'.mem x = w.mem x) → Q () v w') :
    Does H (copyIn address data operation) v w Q fun _ => Broken H := by
  rw [Does, copyIn, Code.meets_bind, Code.meets_call]
  refine ⟨hg.toKnown.mem_held hmem, ?_⟩
  rintro result w' (⟨rfl, rfl⟩ | ⟨hresult, mem, rfl⟩)
  · refine does_check (fun _ => ?_) fun h => absurd rfl h
    refine hok _ ⟨⟨hg.held, hg.leaked⟩, hg.failed, hg.tested, hg.printed⟩ rfl rfl holds_copied ?_
    exact fun x => copied_of_not_within
  · exact does_check (fun h => absurd h hresult) fun _ _ => hg.toKnown.failed

/-! ## The kernel on the card -/

theorem toNat_ofNat_size {i : Nat} (hi : i ≤ size) : (BitVec.ofNat 32 i).toNat = i := by
  rw [BitVec.toNat_ofNat]
  exact Nat.mod_eq_of_lt (Nat.lt_of_le_of_lt hi (by decide))

theorem lt_size {i : BitVec 32} (hi : i < BitVec.ofNat 32 size) : i.toNat < size := by
  rw [BitVec.lt_def, toNat_ofNat_size (Nat.le_refl size)] at hi
  exact hi

theorem within_index {i : BitVec 32} {base : BitVec 64} (hi : i < BitVec.ofNat 32 size) :
    Within base size (element base i) := by
  have hx : Within base size _ := within_element (lt_size hi)
  rwa [BitVec.ofNat_toNat, BitVec.setWidth_eq] at hx

theorem Holds.index {m : Memory Word} {base : BitVec 64} {data : Array} {i : BitVec 32} (h : Holds m base data)
    (hi : i < BitVec.ofNat 32 size) : m (element base i) = some (data i.toNat) := by
  have hdata := h i.toNat (lt_size hi)
  rwa [BitVec.ofNat_toNat, BitVec.setWidth_eq] at hdata

/-- What the card makes of the inputs. -/
def Host.sums (H : Host) (ordinal : Nat) : Array := fun i => H.add ordinal (a i) (b i)

/-- The launches of the test. -/
def Host.testLaunch (H : Host) (ordinal : Nat) (w : World) : Launch Word :=
  H.launch w ((size + 255) / 256) 256 (H.address ordinal 0) (H.address ordinal 1) (H.address ordinal 2)
    (BitVec.ofNat 32 size)

theorem Loaded.buffers (hl : Loaded H ordinal v w) : (H.testLaunch ordinal w).Buffers w.mem where
  mapped_a := fun _ hi => ⟨_, hl.holds_a.index hi⟩
  mapped_b := fun _ hi => ⟨_, hl.holds_b.index hi⟩
  mapped_out := fun _ hi => hl.mapped _ (within_index hi)
  apart_a := fun i hi j hj heq => by
    refine H.apart ordinal 2 0 (by decide) _ (within_index hi) ?_
    rw [show element (H.address ordinal 2) i = element (H.address ordinal 0) j from heq]
    exact within_index hj
  apart_b := fun i hi j hj heq => by
    refine H.apart ordinal 2 1 (by decide) _ (within_index hi) ?_
    rw [show element (H.address ordinal 2) i = element (H.address ordinal 1) j from heq]
    exact within_index hj

/-- The result is on the card. -/
structure Computed (H : Host) (ordinal : Nat) (v : Vars) (w : World) : Prop extends Loaded H ordinal v w where
  holds_sums : Holds w.mem (H.address ordinal 2) (H.sums ordinal)

theorem Loaded.computed (hl : Loaded H ordinal v w) {r₀ : (H.testLaunch ordinal w).Id → Regs Word}
    {s : Pool (H.testLaunch ordinal w).Id (Memory Word) (Thread Word)}
    (hr : Runs (H.testLaunch ordinal w) (start r₀ w.mem) s) (hend : Ended (H.testLaunch ordinal w) s) :
    Computed H ordinal v { w with mem := s.shared } := by
  have hbetween := (runs_spec hl.buffers hr).1
  have hframe : ∀ x, ¬Within (H.address ordinal 2) size x → s.shared x = w.mem x := by
    intro x hx
    refine hbetween.frame x fun i hi heq => hx ?_
    rw [heq]
    exact within_index hi
  have hsums : Holds s.shared (H.address ordinal 2) (H.sums ordinal) := by
    intro i hi
    have htoNat : (BitVec.ofNat 32 i).toNat = i := toNat_ofNat_size (Nat.le_of_lt hi)
    have hcount : BitVec.ofNat 32 i < BitVec.ofNat 32 size := by
      rw [BitVec.lt_def, htoNat, toNat_ofNat_size (Nat.le_refl size)]
      exact hi
    have hthreads : (size + 255) / 256 * 256 = size := by decide
    have hthread : (BitVec.ofNat 32 i).toNat < (H.testLaunch ordinal w).grid * (H.testLaunch ordinal w).block := by
      rw [htoNat]
      exact Nat.lt_of_lt_of_eq hi hthreads.symm
    refine (result_of_ended hl.buffers hr hend hcount hthread).trans ?_
    have ha := hl.holds_a.index hcount
    have hb := hl.holds_b.index hcount
    rw [htoNat] at ha hb
    change (do
      let x ← w.mem (element (H.address ordinal 0) (BitVec.ofNat 32 i))
      let y ← w.mem (element (H.address ordinal 1) (BitVec.ofNat 32 i))
      return H.add w.card x y) = _
    rw [ha, hb, hl.prepared.card]
    rfl
  exact {
    prepared := ⟨hl.prepared.card, hl.prepared.allocated, hl.prepared.allocations⟩
    holds_a := hl.holds_a.keeps hframe (H.apart ordinal 0 2 (by decide))
    holds_b := hl.holds_b.keeps hframe (H.apart ordinal 1 2 (by decide))
    mapped := hsums.mapped
    holds_sums := hsums }

theorem does_launch {Q : Unit → Vars → World → Prop} (hg : Going tested printed v w) (hl : Loaded H ordinal v w)
    (hok : ∀ w', Going tested printed v w' → Computed H ordinal v w' → Q () v w') :
    Does H (launch (H.address ordinal 0) (H.address ordinal 1) (H.address ordinal 2) operation) v w Q
    fun _ => Broken H := by
  rw [Does, launch, Code.meets_bind, Code.meets_get, Code.meets_bind, Code.meets_call]
  have hheld : ∀ k < 3, .memory (H.address ordinal k) ∈ w.held := fun _ hk => hg.toKnown.mem_held (hl.prepared.mem hk)
  refine ⟨⟨hheld 0 (by decide), hheld 1 (by decide), hheld 2 (by decide)⟩, ?_⟩
  rintro result w' (⟨rfl, r₀, s, hr, hend, rfl⟩ | ⟨hresult, mem, rfl⟩)
  · refine does_check (fun _ => ?_) fun h => absurd rfl h
    exact hok _ ⟨⟨hg.held, hg.leaked⟩, hg.failed, hg.tested, hg.printed⟩ (hl.computed hr hend)
  · exact does_check (fun h => absurd h hresult) fun _ _ => hg.toKnown.failed

theorem does_synchronize {Q : Unit → Vars → World → Prop} (hg : Going tested printed v w) (hok : Q () v w) :
    Does H (synchronize operation) v w Q fun _ => Broken H := by
  rw [Does, synchronize, Code.meets_bind, Code.meets_call]
  refine ⟨trivial, ?_⟩
  rintro result w' (⟨rfl, rfl⟩ | ⟨hresult, mem, rfl⟩)
  · exact does_check (fun _ => hok) fun h => absurd rfl h
  · exact does_check (fun h => absurd h hresult) fun _ _ => hg.toKnown.failed

theorem does_copyBack {Q : Array → Vars → World → Prop} {address : BitVec 64} {count : Nat}
    (hg : Going tested printed v w)
    (hmem : address ∈ v.allocations)
    (hok : ∀ out, (∀ i < count, ∀ y, w.mem (element address (BitVec.ofNat 32 i)) = some y → out i = y) → Q out v w) :
    Does H (copyBack address count) v w Q fun _ => Broken H := by
  rw [Does, copyBack, Code.meets_bind, Code.meets_call]
  refine ⟨hg.toKnown.mem_held hmem, ?_⟩
  rintro ⟨result, out⟩ w' (⟨rfl, hout, rfl⟩ | ⟨hresult, mem, rfl⟩)
  · rw [Code.meets_bind]
    exact does_check (fun _ => hok out hout) fun h => absurd rfl h
  · rw [Code.meets_bind]
    exact does_check (fun h => absurd h hresult) fun _ _ => hg.toKnown.failed

/-! ## One card -/

theorem Going.print (hg : Going tested printed v w) (line : String) :
    Going tested (printed ++ [line]) v { w with printed := w.printed ++ [line] } :=
  ⟨⟨hg.held, hg.leaked⟩, hg.failed, hg.tested, by rw [hg.printed]⟩

theorem Computed.print (hc : Computed H ordinal v w) (line : String) :
    Computed H ordinal v { w with printed := w.printed ++ [line] } :=
  ⟨⟨⟨hc.prepared.card, hc.prepared.allocated, hc.prepared.allocations⟩, hc.holds_a, hc.holds_b, hc.mapped⟩,
    hc.holds_sums⟩

/-- Before and after each launch of the load. -/
def Loading (H : Host) (tested ordinal : Nat) (printed : List String) (v₀ v : Vars) (w : World) : Prop :=
  v = v₀ ∧ Going tested printed v₀ w ∧ Computed H ordinal v₀ w

theorem does_turn {v₀ : Vars} (hl : Loading H tested ordinal printed v₀ v w) :
    Does H (do
      (List.range 32).forM fun _ =>
        launch (H.address ordinal 0) (H.address ordinal 1) (H.address ordinal 2) "load cuLaunchKernel"
      synchronize "load cuCtxSynchronize") v w (fun _ => Loading H tested ordinal printed v₀) fun _ => Broken H := by
  rw [Does, Code.meets_bind]
  refine Code.Meets.mono (Code.meets_forM (fun _ _ v w hl => ?_) hl) ?_ fun _ _ _ => id
  · obtain ⟨rfl, hg, hc⟩ := hl
    exact does_launch hg hc.toLoaded fun w' hg' hc' => ⟨rfl, hg', hc'⟩
  · intro _ v w hl
    obtain ⟨rfl, hg, hc⟩ := hl
    exact does_synchronize hg ⟨rfl, hg, hc⟩

theorem does_load {Q : Unit → Vars → World → Prop} {seconds : Int} (hg : Going tested printed v w)
    (hc : Computed H ordinal v w)
    (hok : ∀ w', Going tested (printed ++ loadLines seconds ordinal) v w' → Computed H ordinal v w' → Q () v w') :
    Does H (load seconds ordinal (H.address ordinal 0) (H.address ordinal 1) (H.address ordinal 2)) v w Q
      fun _ => Broken H := by
  rw [Does, load, Code.meets_ite]
  constructor
  · intro hseconds
    rw [loadLines, if_pos hseconds, List.append_nil] at hok
    exact hok w hg hc
  · intro hseconds
    rw [loadLines, if_neg hseconds] at hok
    rw [Code.meets_bind, Code.meets_call]
    refine ⟨trivial, ?_⟩
    rintro _ _ rfl
    rw [Code.meets_bind, Code.meets_call]
    refine ⟨trivial, ?_⟩
    rintro turns _ rfl
    refine Code.Meets.mono (Code.meets_forM (fun _ _ v w hl => does_turn hl) ⟨rfl, hg.print _, hc.print _⟩) ?_
      fun _ _ _ => id
    intro _ v' w' hl
    obtain ⟨rfl, hg', hc'⟩ := hl
    exact hok w' hg' hc'

/-- The test looks at every pair of numbers. -/
theorem all_pairs {p : Nat → Nat → Prop} : (∀ i < size, p (i % 127) (i % 61)) ↔ ∀ i < 127, ∀ j < 61, p i j := by
  constructor
  · intro h i hi j hj
    have hcoprime : Nat.Coprime 127 61 := by decide
    obtain ⟨k, hk⟩ : ∃ k, k = Nat.chineseRemainder hcoprime i j := ⟨_, rfl⟩
    have hlt := Nat.chineseRemainder_lt_mul hcoprime i j (by decide) (by decide)
    have hki : k % 127 = i % 127 := by rw [hk]; exact (Nat.chineseRemainder hcoprime i j).2.1
    have hkj : k % 61 = j % 61 := by rw [hk]; exact (Nat.chineseRemainder hcoprime i j).2.2
    rw [← hk] at hlt
    have hp := h k (hlt.trans (by decide))
    rwa [hki, hkj, Nat.mod_eq_of_lt hi, Nat.mod_eq_of_lt hj] at hp
  · exact fun h i _ => h _ (Nat.mod_lt _ (by decide)) _ (Nat.mod_lt _ (by decide))

theorem any_differ_iff {out : Array} (hout : ∀ i < size, out i = H.sums ordinal i) :
    ((List.range size).any fun i => differ (a i) (b i) (out i)) = false ↔ H.Adds ordinal := by
  rw [List.any_eq_false]
  refine Iff.trans ?_ (all_pairs (p := fun i j =>
    differ (float i) (float j) (H.add ordinal (float i) (float j)) = false))
  constructor
  · intro h i hi
    have hsame := h i (List.mem_range.mpr hi)
    rw [hout i hi] at hsame
    exact Bool.eq_false_iff.mpr hsame
  · intro h i hi
    have hlt := List.mem_range.mp hi
    rw [hout i hlt]
    exact Bool.eq_false_iff.mp (h i hlt)

/-- The variables before the test of a card. -/
def Vars.fresh (v : Vars) : Vars := { v with context := 0, module := 0, function := 0, allocations := [] }

/-- What the test says when it has the inputs on the card. -/
theorem does_compute {seconds : Int} {bdf : String} (hg : Going tested printed v w) (hl : Loaded H ordinal v w)
    (hsound : H.Sound → H.Adds ordinal) (hbdf : bdf = (H.bus ordinal).toLower) :
    Does H (do
      launch (H.address ordinal 0) (H.address ordinal 1) (H.address ordinal 2) "cuLaunchKernel"
      synchronize "cuCtxSynchronize"
      load seconds ordinal (H.address ordinal 0) (H.address ordinal 1) (H.address ordinal 2)
      let out ← copyBack (H.address ordinal 2) size
      if (List.range size).any fun i => differ (a i) (b i) (out i) then
        throw (.runtimeError s!"Vector-add correctness failed on {bdf}")
      else do
        call (.print s!"PASS_CMP50_CUDA: ordinal={ordinal} pci={bdf} elements={size}")
        modify fun vars => { vars with tested := vars.tested + 1 }) v w
      (fun _ v' w' => Going (tested + 1) (printed ++ H.cardLines seconds ordinal) v' w' ∧ H.Adds ordinal)
      fun _ => Broken H := by
  subst hbdf
  rw [Does, Code.meets_bind]
  refine does_launch hg hl fun w₁ hg₁ hc₁ => ?_
  rw [Code.meets_bind]
  refine does_synchronize hg₁ ?_
  rw [Code.meets_bind]
  refine does_load hg₁ hc₁ fun w₂ hg₂ hc₂ => ?_
  rw [Code.meets_bind]
  refine does_copyBack hg₂ (hc₂.prepared.mem (by decide)) fun out hout => ?_
  have hout : ∀ i < size, out i = H.sums ordinal i := fun i hi => hout i hi _ (hc₂.holds_sums i hi)
  rw [Code.meets_ite]
  refine ⟨fun hany => ?_, fun hany => ?_⟩
  · refine ⟨hg₂.toKnown, .inr fun hs => ?_⟩
    rw [(any_differ_iff hout).mpr (hsound hs)] at hany
    cases hany
  · rw [Code.meets_bind, Code.meets_call]
    refine ⟨trivial, ?_⟩
    rintro _ _ rfl
    refine ⟨⟨⟨hg₂.held, hg₂.leaked⟩, hg₂.failed, congrArg (· + 1) hg₂.tested, ?_⟩, ?_⟩
    · rw [Host.cardLines, ← List.append_assoc, ← hg₂.printed]
    · exact (any_differ_iff hout).mp (Bool.eq_false_iff.mpr hany)

theorem Going.context {context : Nat} (hg : Going tested printed v.fresh w) (ordinal : Nat) (mem : Memory Word)
    (hcontext : context ≠ 0) :
    Going tested printed { v.fresh with context }
      { w with card := ordinal, allocated := 0, mem, held := .context context :: w.held } :=
  ⟨⟨by simp [Vars.held, Vars.fresh, hcontext, hg.held], hg.leaked⟩, hg.failed, hg.tested, hg.printed⟩

theorem Going.module {module : Nat} (hg : Going tested printed v w) (hmodule : module ≠ 0) (hnull : v.module = 0)
    (hnone : v.allocations = []) :
    Going tested printed { v with module } { w with held := .module module :: w.held } :=
  ⟨⟨by simp [Vars.held, hmodule, hnull, hnone, hg.held], hg.leaked⟩, hg.failed, hg.tested, hg.printed⟩

/-- The vectors are put on the card, and the test goes on with them. -/
theorem does_vectors {seconds : Int} {bdf : String} (hg : Going tested printed v w) (hp : Prepared H ordinal 0 v w)
    (hsound : H.Sound → H.Adds ordinal) (hbdf : bdf = (H.bus ordinal).toLower) :
    Does H (do
      let d₀ ← allocate
      let d₁ ← allocate
      let d₂ ← allocate
      copyIn d₀ a "copy a"
      copyIn d₁ b "copy b"
      launch d₀ d₁ d₂ "cuLaunchKernel"
      synchronize "cuCtxSynchronize"
      load seconds ordinal d₀ d₁ d₂
      let out ← copyBack d₂ size
      if (List.range size).any fun i => differ (a i) (b i) (out i) then
        throw (.runtimeError s!"Vector-add correctness failed on {bdf}")
      else do
        call (.print s!"PASS_CMP50_CUDA: ordinal={ordinal} pci={bdf} elements={size}")
        modify fun vars => { vars with tested := vars.tested + 1 }) v w
      (fun _ v' w' => Going (tested + 1) (printed ++ H.cardLines seconds ordinal) v' w' ∧ H.Adds ordinal)
      fun _ => Broken H := by
  rw [Does, Code.meets_bind]
  refine does_allocate hg hp fun v₁ w₁ hg₁ hp₁ _ => ?_
  rw [Code.meets_bind]
  refine does_allocate hg₁ hp₁ fun v₂ w₂ hg₂ hp₂ _ => ?_
  rw [Code.meets_bind]
  refine does_allocate hg₂ hp₂ fun v₃ w₃ hg₃ hp₃ hmaps => ?_
  rw [Code.meets_bind]
  refine does_copyIn hg₃ (hp₃.mem (by decide)) fun w₄ hg₄ hcard₄ hallocated₄ hholds_a hother₄ => ?_
  rw [Code.meets_bind]
  refine does_copyIn hg₄ (hp₃.mem (by decide)) fun w₅ hg₅ hcard₅ hallocated₅ hholds_b hother₅ => ?_
  refine does_compute hg₅ ?_ hsound hbdf
  exact {
    prepared := ⟨hcard₅.trans (hcard₄.trans hp₃.card), hallocated₅.trans (hallocated₄.trans hp₃.allocated),
      hp₃.allocations⟩
    holds_a := hholds_a.keeps hother₅ (H.apart ordinal 0 1 (by decide))
    holds_b := hholds_b
    mapped := (hmaps.keeps hother₄ (H.apart ordinal 2 0 (by decide))).keeps hother₅
      (H.apart ordinal 2 1 (by decide)) }

theorem does_testCard {seconds : Int} {bdf : String} (hg : Going tested printed v.fresh w)
    (hsound : H.Sound → H.Adds ordinal)
    (hbdf : bdf = (H.bus ordinal).toLower) :
    Does H (testCard seconds ordinal bdf) v.fresh w
      (fun _ v' w' => Going (tested + 1) (printed ++ H.cardLines seconds ordinal) v' w' ∧ H.Adds ordinal)
      fun _ => Broken H := by
  rw [Does, testCard, Code.meets_bind, Code.meets_call]
  refine ⟨trivial, ?_⟩
  rintro ⟨result, context⟩ w₁ ⟨hnull, ⟨rfl, hcontext, mem, rfl⟩ | ⟨hresult, mem, rfl⟩⟩
  · have hg₁ := hg.context ordinal mem hcontext
    rw [Code.meets_bind, Code.meets_modify, Code.meets_bind]
    refine does_check (fun _ => ?_) fun h => absurd rfl h
    rw [Code.meets_bind, Code.meets_call]
    refine ⟨trivial, ?_⟩
    rintro ⟨result, module⟩ w₂ ⟨hnull, ⟨rfl, hmodule, rfl⟩ | ⟨hresult, mem', rfl⟩⟩
    · have hg₂ := hg₁.module hmodule rfl rfl
      rw [Code.meets_bind, Code.meets_modify, Code.meets_bind]
      refine does_check (fun _ => ?_) fun h => absurd rfl h
      rw [Code.meets_bind, Code.meets_call]
      refine ⟨.head _, ?_⟩
      rintro ⟨result, function⟩ w₃ (⟨rfl, rfl⟩ | ⟨hresult, mem', rfl⟩)
      · rw [Code.meets_bind, Code.meets_modify, Code.meets_bind]
        refine does_check (fun _ => ?_) fun h => absurd rfl h
        exact does_vectors ⟨⟨hg₂.held, hg₂.leaked⟩, hg₂.failed, hg₂.tested, hg₂.printed⟩ ⟨rfl, rfl, rfl⟩ hsound hbdf
      · rw [Code.meets_bind, Code.meets_modify, Code.meets_bind]
        exact does_check (fun h => absurd h hresult) fun _ _ => ⟨⟨hg₂.held, hg₂.leaked⟩, .inl rfl⟩
    · rw [Code.meets_bind, Code.meets_modify, Code.meets_bind]
      refine does_check (fun h => absurd h hresult) fun _ _ => ⟨⟨?_, hg₁.leaked⟩, .inl rfl⟩
      rw [show module = 0 from hnull hresult]
      exact hg₁.held
  · rw [Code.meets_bind, Code.meets_modify, Code.meets_bind]
    refine does_check (fun h => absurd h hresult) fun _ _ => ⟨⟨?_, hg.leaked⟩, .inl rfl⟩
    rw [show context = 0 from hnull hresult]
    exact hg.held

/-! ## All cards -/

/-- Nothing is held between two cards, and the first `n` of them are all right. -/
structure Passed (H : Host) (seconds : Int) (n : Nat) (v : Vars) (w : World) : Prop where
  held : w.held = []
  leaked : w.leaked = false
  failed : w.failed = false
  tested : v.tested = (H.cmps n).length
  printed : w.printed = (H.cmps n).flatMap (H.cardLines seconds)
  all : ∀ ordinal < n, H.Cmp ordinal → H.Supported ordinal ∧ H.Adds ordinal

/-- The test ends with an exception, and rightly so; what it held is given back unless a call for this has failed. -/
def Stopped (H : Host) (w : World) : Prop := (w.held = [] ∨ w.leaked = true) ∧ (w.failed = true ∨ ¬H.Sound)

theorem cmps_succ_of_cmp {n : Nat} (hn : H.Cmp n) : H.cmps (n + 1) = H.cmps n ++ [n] := by
  simp [Host.cmps, List.range_succ, hn]

theorem cmps_succ_of_not_cmp {n : Nat} (hn : ¬H.Cmp n) : H.cmps (n + 1) = H.cmps n := by
  simp [Host.cmps, List.range_succ, hn]

theorem does_card {seconds : Int} {n : Nat} (hn : n < H.count) (hp : Passed H seconds n v w) :
    Does H (card seconds n) v w (fun _ => Passed H seconds (n + 1)) fun _ _ => Stopped H := by
  have hfail : ∀ {mem : Memory Word}, Stopped H { w with mem, failed := true } := ⟨.inl hp.held, .inl rfl⟩
  rw [Does, card, Code.meets_bind, Code.meets_call]
  refine ⟨trivial, ?_⟩
  rintro ⟨result, bus⟩ w₁ (⟨rfl, hbus, rfl⟩ | ⟨hresult, mem, rfl⟩)
  · obtain rfl : bus = H.bus n := hbus
    rw [Code.meets_bind]
    refine does_check (fun _ => ?_) fun h => absurd rfl h
    rw [Code.meets_bind]
    refine does_readId ?_ fun _ => hfail
    rw [Code.meets_bind]
    refine does_readId ?_ fun _ => hfail
    rw [Code.meets_bind]
    refine does_readId ?_ fun _ => hfail
    rw [Code.meets_bind]
    refine does_readId ?_ fun _ => hfail
    rw [Code.meets_ite]
    refine ⟨fun hcmp => ?_, fun hcmp => ?_⟩
    · have hcmp : ¬H.Cmp n := hcmp
      refine Code.meets_pure.mpr ⟨hp.held, hp.leaked, hp.failed, ?_, ?_, fun k hk hk' => ?_⟩
      · rw [cmps_succ_of_not_cmp hcmp]
        exact hp.tested
      · rw [cmps_succ_of_not_cmp hcmp]
        exact hp.printed
      · rcases Nat.lt_succ_iff_lt_or_eq.mp hk with hk | rfl
        · exact hp.all k hk hk'
        · exact absurd hk' hcmp
    · have hcmp : H.Cmp n := Classical.not_not.mp hcmp
      rw [Code.meets_ite]
      refine ⟨fun hsupported => ⟨.inl hp.held, .inr fun hs => hsupported (hs.all n hn hcmp).1⟩, fun hsupported => ?_⟩
      have hsupported : H.Supported n := Classical.not_not.mp hsupported
      rw [Code.meets_bind, Code.meets_modify, Code.meets_tryFinally]
      have hg : Going v.tested w₁.printed v.fresh w₁ := ⟨⟨hp.held, hp.leaked⟩, hp.failed, rfl, rfl⟩
      refine (does_testCard hg (fun hs => (hs.all n hn hcmp).2) rfl).mono ?_ ?_
      · rintro _ v₁ w₂ ⟨hg₁, hadds⟩
        refine (does_release hg₁.toKnown).mono ?_ fun _ _ _ h => ⟨.inr h.1, .inl h.2⟩
        rintro _ v₂ w₃ ⟨rfl, hheld, hleaked, hfailed, hprinted⟩
        refine ⟨hheld, hleaked, hfailed.trans hg₁.failed, ?_, ?_, fun k hk hk' => ?_⟩
        · rw [cmps_succ_of_cmp hcmp, hg₁.tested, hp.tested, List.length_append]
          rfl
        · rw [cmps_succ_of_cmp hcmp, List.flatMap_append, List.flatMap_singleton, ← hp.printed]
          exact hprinted.trans hg₁.printed
        · rcases Nat.lt_succ_iff_lt_or_eq.mp hk with hk | rfl
          · exact hp.all k hk hk'
          · exact ⟨hsupported, hadds⟩
      · rintro x v₁ w₂ ⟨hk, hwhy⟩
        refine (does_release hk).mono ?_ fun _ _ _ h => ⟨.inr h.1, .inl h.2⟩
        rintro _ v₂ w₃ ⟨rfl, hheld, -, hfailed, -⟩
        rw [← hfailed] at hwhy
        exact ⟨.inl hheld, hwhy⟩
  · rw [Code.meets_bind]
    exact does_check (fun h => absurd h hresult) fun _ _ => hfail

/-- The whole of a test with an option that is accepted. -/
theorem does_main {seconds : Int} (hseconds : 0 ≤ seconds ∧ seconds ≤ 30) :
    Does H (main seconds) {} .start
      (fun _ _ w => w.held = [] ∧ w.failed = false ∧ H.Sound ∧ w.printed = H.lines seconds) fun _ _ => Stopped H := by
  rw [Does, main, if_pos hseconds, Code.meets_bind, Code.meets_call]
  refine ⟨trivial, ?_⟩
  rintro result w₁ (⟨rfl, rfl⟩ | ⟨hresult, mem, rfl⟩)
  · rw [Code.meets_bind]
    refine does_check (fun _ => ?_) fun h => absurd rfl h
    rw [Code.meets_bind, Code.meets_call]
    refine ⟨trivial, ?_⟩
    rintro ⟨result, count⟩ w₂ (⟨rfl, hcount, rfl⟩ | ⟨hresult, mem, rfl⟩)
    · obtain rfl : count = H.count := hcount
      rw [Code.meets_bind]
      refine does_check (fun _ => ?_) fun h => absurd rfl h
      rw [Code.meets_bind, Int.toNat_natCast]
      refine (Code.meets_forM_range (fun n hn _ _ hp => does_card hn hp) ?_).mono ?_ fun _ _ _ => id
      · exact ⟨rfl, rfl, rfl, rfl, rfl, fun k hk => absurd hk (Nat.not_lt_zero k)⟩
      · intro _ v w hp
        rw [passAll, Code.meets_bind, Code.meets_get, Code.meets_ite]
        refine ⟨fun hnone => ?_, fun hsome => ?_⟩
        · refine ⟨.inl hp.held, .inr fun hs => ?_⟩
          obtain ⟨ordinal, hordinal, hcmp⟩ := hs.some
          have hmem : ordinal ∈ H.cmps H.count := List.mem_filter.mpr ⟨List.mem_range.mpr hordinal, decide_eq_true hcmp⟩
          rw [hp.tested] at hnone
          rw [List.eq_nil_of_length_eq_zero hnone] at hmem
          cases hmem
        · rw [Code.meets_call]
          refine ⟨trivial, ?_⟩
          rintro _ _ rfl
          refine ⟨hp.held, hp.failed, ⟨?_, hp.all⟩, ?_⟩
          · rw [hp.tested] at hsome
            obtain ⟨ordinal, hmem⟩ := List.exists_mem_of_length_pos (Nat.pos_of_ne_zero hsome)
            obtain ⟨hordinal, hcmp⟩ := List.mem_filter.mp hmem
            exact ⟨ordinal, List.mem_range.mp hordinal, of_decide_eq_true hcmp⟩
          · rw [Host.lines, ← hp.printed, ← hp.tested]
    · rw [Code.meets_bind]
      exact does_check (fun h => absurd h hresult) fun _ _ => ⟨.inl rfl, .inl rfl⟩
  · rw [Code.meets_bind]
    exact does_check (fun h => absurd h hresult) fun _ _ => ⟨.inl rfl, .inl rfl⟩

end Cmp50Unlock.CudaSmoke
