import Cmp50Unlock.KernelOpen.Retrain
import Cmp50Unlock.Stockflow.Policy
import Mathlib.Tactic.MkIffOfInductiveProp

/-!
# The Gen2 policy on a register file

What `s_cmp50ApplyGen2Policy` does to registers of which only some bits can be written.
-/

namespace Cmp50Unlock.Stockflow

open Lib

/-- The registers of a GPU, and the operations on it, the newest first. -/
structure Chip where
  regs : Bank Reg 32
  log : List Op

/-- A read returns what is in the register. -/
def Chip.Admits (c : Chip) : (o : Op) → o.Ans → Prop
  | .rd r, a => a = c.regs r
  | _, _ => True

/-- The registers after an operation, if only the bits of `mask` can be written. -/
def regsAfter (mask regs : Bank Reg 32) : Op → Bank Reg 32
  | .act (.regWr32 r v) => regs.write mask r v
  | _ => regs

def Chip.after (mask : Bank Reg 32) (c : Chip) (o : Op) : Chip := ⟨regsAfter mask c.regs o, o :: c.log⟩

/-- One operation on a GPU. -/
def ChipStep (mask : Bank Reg 32) (o : Op) (c : Chip) (a : o.Ans) (c' : Chip) : Prop :=
  c.Admits o a ∧ c' = c.after mask o

/-- The operation writes a register. -/
def Op.WritesReg : Op → Prop
  | .act (.regWr32 ..) => True
  | _ => False

/-- `POLICY_PASS` was logged. -/
def Chip.Passed (c : Chip) : Prop := .act (.print .policyPass) ∈ c.log

/-- The policy conditions. -/
@[mk_iff]
structure PolicyHolds (regs : Bank Reg 32) : Prop where
  value0 : regs .pcieXp3gValue0 = 0
  override0 : regs .pcieXp3gOverride0 = 1
  value3 : regs .pcieXp3gValue3 = 0x00200000
  override3 : regs .pcieXp3gOverride3 = 4
  privMiscEn : regs .pciePrivMisc1 &&& privMisc1Gen2En = privMisc1Gen2En
  privMiscVal : regs .pciePrivMisc1 &&& privMisc1Gen2Val = 0
  hierarchy : regs .pcieVsecHierarchy &&& ((1 <<< 12) ||| 1) = 1
  cya0 : regs .pcieCya0 &&& (1 <<< 2) = 0
  linkConfig0 : (regs .pcieLinkConfig0 >>> 18) &&& 3 = 2
  plLinkRate : regs .pciePlLinkRate &&& plLinkRateSpeedMask = plLinkRateGen2
  ltssm : regs .pcieLtssm = 6

/-- The bits of a register that the policy is about. -/
def policyField : Reg → BitVec 32
  | .pciePrivMisc1 => privMisc1Gen2En ||| privMisc1Gen2Val
  | .pcieVsecHierarchy => (1 <<< 12) ||| 1
  | .pcieCya0 => 1 <<< 2
  | .pcieLinkConfig0 => 0x000C0000
  | .pciePlLinkRate => plLinkRateSpeedMask
  | .pcieXp3gValue0 | .pcieXp3gOverride0 | .pcieXp3gValue3 | .pcieXp3gOverride3 | .pcieLtssm => BitVec.allOnes 32
  | _ => 0

/-- Only bits of the policy differ. -/
def OnlyPolicyBits (regs regs' : Bank Reg 32) : Prop :=
  ∀ r, regs' r &&& ~~~policyField r = regs r &&& ~~~policyField r

/-- The gate of the retrain accepts what it finds at its offsets. -/
def GateAccepts (regs : Bank Reg 32) : Prop :=
  ∃ cya0 config rate : Reg, cya0.addr = some KernelOpen.cya0Offset ∧ config.addr = some KernelOpen.linkConfigOffset ∧
    rate.addr = some KernelOpen.plLinkRateOffset ∧ KernelOpen.gen2PolicyPresent (regs cya0) (regs config) (regs rate)

/-- How the policy can end: nothing written, all conditions met, or everything as it was. -/
def PolicyOutcome (regs : Bank Reg 32) (c : Chip) : Prop :=
  (regs .pcieXp3gPlm0 ≠ 0xFFFFFFFF ∧ ¬ c.Passed ∧ c.regs = regs) ∨
    (c.Passed ∧ PolicyHolds c.regs ∧ OnlyPolicyBits regs c.regs) ∨ (¬ c.Passed ∧ c.regs = regs)

end Cmp50Unlock.Stockflow
