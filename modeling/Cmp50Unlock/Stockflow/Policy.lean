import Cmp50Unlock.Stockflow.World

/-!
# The Gen2 policy

`s_cmp50ApplyGen2Policy` writes ten PCIe registers, reads them back and puts all of them back at their
values on entry if one does not hold.
-/

namespace Cmp50Unlock.Stockflow

open Lib

/-- `CMP50_PCIE_PRIV_MISC_1_GEN2_EN` -/
def privMisc1Gen2En : BitVec 32 := (1 <<< 11) ||| (1 <<< 13)

/-- `CMP50_PCIE_PRIV_MISC_1_GEN2_VAL` -/
def privMisc1Gen2Val : BitVec 32 := (1 <<< 12) ||| (1 <<< 14)

/-- `CMP50_PCIE_PL_LINK_RATE_SPEED_MASK` -/
def plLinkRateSpeedMask : BitVec 32 := 0x00060000

/-- `CMP50_PCIE_PL_LINK_RATE_GEN2` -/
def plLinkRateGen2 : BitVec 32 := 0x00040000

/-- The policy conditions, read back in the order of the source. -/
def policyOk : Driver Bool :=
  andAlso (rdEq .pcieXp3gValue0 0) <|
  andAlso (rdEq .pcieXp3gOverride0 1) <|
  andAlso (rdEq .pcieXp3gValue3 0x00200000) <|
  andAlso (rdEq .pcieXp3gOverride3 4) <|
  andAlso (do return (← rd .pciePrivMisc1) &&& privMisc1Gen2En == privMisc1Gen2En) <|
  andAlso (do return (← rd .pciePrivMisc1) &&& privMisc1Gen2Val == 0) <|
  andAlso (do return (← rd .pcieVsecHierarchy) &&& ((1 <<< 12) ||| 1) == 1) <|
  andAlso (do return (← rd .pcieCya0) &&& (1 <<< 2) == 0) <|
  andAlso (do return ((← rd .pcieLinkConfig0) >>> 18) &&& 3 == 2) <|
  andAlso (do return (← rd .pciePlLinkRate) &&& plLinkRateSpeedMask == plLinkRateGen2) <|
  rdEq .pcieLtssm 6

/-- `s_cmp50ApplyGen2Policy` -/
def cmp50ApplyGen2Policy : Driver Unit := do
  let xp3gPlm ← rd .pcieXp3gPlm0
  let _vsecDevice ← rd .pcieVsecDevice
  let privMisc ← rd .pciePrivMisc1
  let privMiscWant := (privMisc ||| privMisc1Gen2En) &&& ~~~privMisc1Gen2Val
  if xp3gPlm ≠ 0xFFFFFFFF then
    print .protectedGateFail
    return
  let origOvr0 ← rd .pcieXp3gOverride0
  let origVal0 ← rd .pcieXp3gValue0
  let origOvr3 ← rd .pcieXp3gOverride3
  let origVal3 ← rd .pcieXp3gValue3
  let origHierarchy ← rd .pcieVsecHierarchy
  let origCya0 ← rd .pcieCya0
  let origLinkConfig0 ← rd .pcieLinkConfig0
  let origPlLinkRate ← rd .pciePlLinkRate
  let origLtssm ← rd .pcieLtssm
  act (.regWr32 .pciePrivMisc1 privMiscWant)
  act (.regWr32 .pcieXp3gValue0 0)
  act (.regWr32 .pcieXp3gOverride0 1)
  act (.regWr32 .pcieXp3gValue3 0x00200000)
  act (.regWr32 .pcieXp3gOverride3 4)
  act (.regWr32 .pcieVsecHierarchy ((origHierarchy &&& ~~~(1#32 <<< 12)) ||| 1))
  act (.regWr32 .pcieCya0 (origCya0 &&& ~~~(1#32 <<< 2)))
  act (.regWr32 .pcieLinkConfig0 ((origLinkConfig0 &&& ~~~0x000C0000#32) ||| (2 <<< 18)))
  act (.regWr32 .pciePlLinkRate ((origPlLinkRate &&& ~~~plLinkRateSpeedMask) ||| plLinkRateGen2))
  act (.regWr32 .pcieLtssm 6)
  if ← policyOk then
    print .policyPass
  else
    print .policyMismatch
    act (.regWr32 .pcieXp3gOverride0 origOvr0)
    act (.regWr32 .pcieXp3gValue0 origVal0)
    act (.regWr32 .pcieXp3gOverride3 origOvr3)
    act (.regWr32 .pcieXp3gValue3 origVal3)
    act (.regWr32 .pciePrivMisc1 privMisc)
    act (.regWr32 .pcieVsecHierarchy origHierarchy)
    act (.regWr32 .pcieCya0 origCya0)
    act (.regWr32 .pcieLinkConfig0 origLinkConfig0)
    act (.regWr32 .pciePlLinkRate origPlLinkRate)
    act (.regWr32 .pcieLtssm origLtssm)
    print .policyRollback

end Cmp50Unlock.Stockflow
