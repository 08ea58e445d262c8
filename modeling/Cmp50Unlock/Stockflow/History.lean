import Cmp50Unlock.Lib.Wp
import Cmp50Unlock.Stockflow.Bootstrap
import Mathlib.Tactic.MkIffOfInductiveProp

/-!
# Histories of boot attempts

The per-slot arrays outlive a boot attempt, so what an attempt may do depends on the attempts before it. A
history is any sequence of calls of `kgspBootstrap_TU102` that returned, since the module was loaded.
-/

namespace Cmp50Unlock.Stockflow

open Lib

/-! ## Attempts -/

/-- The world an attempt starts in. -/
def startWorld (s : Slots) (g : KernelGsp) : World := ⟨s, g, []⟩

section
variable (stock : StockCode) (pGpu : ObjGpu) (bootMode : BootMode) (s : Slots) (g : KernelGsp)

/-- An attempt that starts with the arrays `s` and the `KernelGsp` `g` returns `r` in `w`. -/
abbrev Returns (r : NvStatus) (w : World) : Prop :=
  Goto.Call Step (kgspBootstrap stock pGpu bootMode) .entry (startWorld s g) r w

/-- The attempt comes to issue `o` in `w`. -/
abbrev Issued (o : Op) (w : World) : Prop :=
  Goto.Issues Step (kgspBootstrap stock pGpu bootMode) .entry (startWorld s g) o w

/-- The attempt comes to the label `l` in `w`. -/
abbrev ComesTo (l : Label) (w : World) : Prop :=
  Goto.Reaches Step (kgspBootstrap stock pGpu bootMode) .entry (startWorld s g) l w

end

/-- One call of `kgspBootstrap_TU102` and its result. -/
structure Attempt where
  pGpu : ObjGpu
  bootMode : BootMode
  slots : Slots
  gsp : KernelGsp
  status : NvStatus
  after : World

/-- The attempt is an execution of the function. -/
def Attempt.Runs (stock : StockCode) (a : Attempt) : Prop :=
  Returns stock a.pGpu a.bootMode a.slots a.gsp a.status a.after

/-- `Later stock A s₀ s`: some attempts of the kind `A`, one after another, take the arrays from `s₀` to `s`. -/
inductive Later (stock : StockCode) (A : Attempt → Prop) (s₀ : Slots) : Slots → Prop where
  | refl : Later stock A s₀ s₀
  | boot {a : Attempt} : Later stock A s₀ a.slots → A a → a.Runs stock → Later stock A s₀ a.after.slots

/-- The arrays that some history of attempts of the kind `A` leaves. -/
abbrev History (stock : StockCode) (A : Attempt → Prop) (s : Slots) : Prop := Later stock A .zero s

variable {stock : StockCode} {A : Attempt → Prop}

/-- What every attempt keeps is kept. -/
theorem Later.inv {I : Slots → Prop} {s₀ s : Slots} (h : Later stock A s₀ s) (h₀ : I s₀)
    (hstep : ∀ a : Attempt, A a → a.Runs stock → I a.slots → I a.after.slots) : I s := by
  induction h with
  | refl => exact h₀
  | boot _ hA hr ih => exact hstep _ hA hr ih

/-! ## The captured range -/

/-- A range of the stock span that does not wrap around. -/
def IsStockRange (lo hi : BitVec 32) : Prop :=
  lo ≠ 0 ∧ hi.toNat = lo.toNat + wpr2StockSpan.toNat

instance (lo hi : BitVec 32) : Decidable (IsStockRange lo hi) :=
  inferInstanceAs (Decidable (_ ∧ _))

/-- A range was captured for slot `i`. -/
def Slots.HasRange (s : Slots) (i : Nat) : Prop := IsStockRange (s.wpr .lo i) (s.wpr .hi i)

instance (s : Slots) (i : Nat) : Decidable (s.HasRange i) :=
  inferInstanceAs (Decidable (IsStockRange _ _))

/-- Slot `i` holds no range or one of the stock span. -/
def Slots.Captured (s : Slots) (i : Nat) : Prop :=
  (s.wpr .lo i = 0 ∧ s.wpr .hi i = 0) ∨ s.HasRange i

/-- No exploit-mode run is under way and every captured range is a stock range. -/
@[mk_iff]
structure Slots.Between (s : Slots) : Prop where
  exploitOff : ∀ i, s.flag .exploitMode i = false
  captured : ∀ i, s.Captured i

theorem Slots.between_zero : Slots.zero.Between := ⟨fun _ => rfl, fun _ => .inl ⟨rfl, rfl⟩⟩

@[simp] theorem hasRange_setFlag {s : Slots} {f : SlotFlag} {i j : Nat} {b : Bool} :
    (s.setFlag f i b).HasRange j ↔ s.HasRange j := Iff.rfl

@[simp] theorem between_setFlag {s : Slots} {f : SlotFlag} {i : Nat} {b : Bool} (hf : f ≠ .exploitMode) :
    (s.setFlag f i b).Between ↔ s.Between := by
  constructor
  · rintro ⟨h₁, h₂⟩
    exact ⟨fun j => flag_setFlag_ne hf.symm ▸ h₁ j, h₂⟩
  · rintro ⟨h₁, h₂⟩
    exact ⟨fun j => (flag_setFlag_ne hf.symm).trans (h₁ j), h₂⟩

/-- The comparison that the capture makes accepts exactly the stock ranges. -/
theorem isStockRange_iff {lo hi : BitVec 32} :
    IsStockRange lo hi ↔ (lo ≠ 0 ∧ lo < hi) ∧ hi - lo = wpr2StockSpan := by
  simp only [IsStockRange, wpr2StockSpan]
  bv_omega

theorem Slots.Captured.hasRange {s : Slots} {i : Nat} (h : s.Captured i)
    (hne : ¬(s.wpr .lo i = 0 ∨ s.wpr .hi i = 0)) : s.HasRange i := by
  rcases h with ⟨hlo, -⟩ | h
  · exact absurd (.inl hlo) hne
  · exact h

/-- Storing a stock range. -/
theorem hasRange_setWpr {s : Slots} {i : Nat} {lo hi : BitVec 32} (h : IsStockRange lo hi) :
    ((s.setWpr .lo i lo).setWpr .hi i hi).HasRange i := by
  simpa [Slots.HasRange, Slots.setWpr] using h

theorem Slots.Between.setWpr {s : Slots} {i : Nat} {lo hi : BitVec 32} (hs : s.Between)
    (h : IsStockRange lo hi) : ((s.setWpr .lo i lo).setWpr .hi i hi).Between := by
  refine ⟨hs.exploitOff, fun j => ?_⟩
  by_cases hj : j = i
  · exact .inr (hj ▸ hasRange_setWpr h)
  · simpa [Slots.Captured, Slots.HasRange, Slots.setWpr, hj] using hs.captured j

/-- The live WPR2 registers, as last read, are the range captured for slot `i`. -/
@[mk_iff]
structure HoldsRange (i : Nat) (w : World) : Prop where
  range : w.slots.HasRange i
  lo : lastRead .wpr2AddrLo w.log = some (w.slots.wpr .lo i)
  hi : lastRead .wpr2AddrHi w.log = some (w.slots.wpr .hi i)

/-- The FECS PLM and the speed selectors, as last read, are in the full-speed state. -/
@[mk_iff]
structure HoldsFullSpeed (log : List Event) : Prop where
  plm : lastRead .fecsFeaturePlm log = some fecsFeaturePlmPostlock
  speed0 : lastRead .fecsSmSpeedOverride0 log = some fecsSmSpeedFull0
  speed1 : lastRead .fecsSmSpeedOverride1 log = some fecsSmSpeedFull1

/-- WPR2, as last read, is in the state that the exploit-mode run leaves. -/
@[mk_iff]
structure HoldsDown (log : List Event) : Prop where
  lo : lastRead .wpr2AddrLo log = some wpr2AddrLoDown
  hi : lastRead .wpr2AddrHi log = some 0

end Cmp50Unlock.Stockflow
