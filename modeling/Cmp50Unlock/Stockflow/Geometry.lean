import Cmp50Unlock.Stockflow.History

/-!
# The range that FWSEC sets up

What an attempt learns of the WPR2 range: the first values it reads, and the first values it reads after each
FWSEC run.
-/

namespace Cmp50Unlock.Stockflow

open Lib

/-- The first value read from `r`. -/
def firstRead (r : Reg) : List Event → Option (BitVec 32)
  | [] => none
  | ⟨.rd r', v⟩ :: log => (firstRead r log).or (if r' = r then some v else none)
  | _ :: log => firstRead r log

/-- The first values read from WPR2 are a stock range other than the one captured for slot `i`. -/
def FirstReadDiffers (s : Slots) (i : Nat) (log : List Event) : Prop :=
  ∃ lo hi, firstRead .wpr2AddrLo log = some lo ∧ firstRead .wpr2AddrHi log = some hi ∧
    IsStockRange lo hi ∧ ¬(lo = s.wpr .lo i ∧ hi = s.wpr .hi i)

/-- A successful FWSEC run. -/
def fwsecOk : Event := ⟨.hal .kgspExecuteFwsec, .ok⟩

/-- A launch of a microcode. -/
def IsLaunch (e : Event) : Prop := ∃ u addr, e.1 = .launch u addr

/-- An attempt that started with the arrays `s` keeps the captured range of slot `i`, and if some FWSEC run of it
yields a different stock range, it ends in `NV_ERR_INVALID_STATE` without a launch after that run. -/
structure FailsClosed (s : Slots) (i : Nat) (r : NvStatus) (w : World) : Prop where
  lo : w.slots.wpr .lo i = s.wpr .lo i
  hi : w.slots.wpr .hi i = s.wpr .hi i
  refuses : ∀ since before, w.log = since ++ fwsecOk :: before → FirstReadDiffers s i since →
    r = .errInvalidState ∧ ∀ e ∈ since, ¬ IsLaunch e

/-- The attempt, started with the arrays `s`, learns a range in place of the captured one: it is a NORMAL
attempt of a slot that is not committed, and the first values it reads from WPR2 are another stock range. -/
def Relearns (pGpu : ObjGpu) (bootMode : BootMode) (s : Slots) (log : List Event) : Prop :=
  bootMode = .normal ∧ s.flag .phaseCommitted (cmp50StockflowGpuIndex pGpu) = false ∧
    FirstReadDiffers s (cmp50StockflowGpuIndex pGpu) log

/-! ## How the first reads develop -/

theorem firstRead_step (r : Reg) (e : Event) (log : List Event) :
    firstRead r (e :: log) = (firstRead r log).or (firstRead r [e]) := by
  obtain ⟨o, v⟩ := e
  cases o <;> simp [firstRead]

theorem firstRead_other {r : Reg} {o : Op} {a : o.Ans} (h : o ≠ .rd r) : firstRead r [⟨o, a⟩] = none := by
  cases o with
  | rd r' => simpa [firstRead] using h
  | _ => rfl

theorem firstRead_cons {r : Reg} {e : Event} {log : List Event} {v : BitVec 32} (h : firstRead r log = some v) :
    firstRead r (e :: log) = some v := by
  unfold firstRead
  split
  · next heq => cases heq
  · next heq => cases heq; simp [h]
  · next heq => cases heq; exact h

theorem firstRead_append {r : Reg} {log log' : List Event} {v : BitVec 32} (h : firstRead r log = some v) :
    firstRead r (log' ++ log) = some v := by
  induction log' with
  | nil => exact h
  | cons e log' ih => exact firstRead_cons ih

end Cmp50Unlock.Stockflow
