import Cmp50Unlock.Stockflow.Booter
import Cmp50Unlock.Stockflow.Policy

/-!
# `kgspBootstrap_TU102`

The function has two labels. Its program is split at them: the part before `cmp50_v274_commit`, the part
from there to `cmp50_v525_stock_booter`, and the rest. The jump at the end of the FWSEC block goes back to
the label of its own part, so this part is a loop.
-/

namespace Cmp50Unlock.Stockflow

open Lib

/-- What the function takes from stock code outside the hunks: the guard of the FWSEC block, which admits at
least the two modes that the scrubber guard before it admits, and `_kgspGetBooterLoadArgs`, which is the
canonical metadata page in NORMAL mode. -/
structure StockCode where
  admitsFwsec : BootMode → Bool
  admits_normal : admitsFwsec .normal = true
  admits_srResume : admitsFwsec .srResume = true
  kgspGetBooterLoadArgs : KernelGsp → BootMode → BitVec 64
  args_normal : ∀ g, kgspGetBooterLoadArgs g .normal = g.pWprMetaDescriptor.getD 0

/-- The parts of the function. The part at `cmp50_v525_stock_booter` is entered with the local
`bCmp50RetryRejoin`. -/
inductive Label where
  | entry
  | cmp50V274Commit
  | cmp50V525StockBooter (bCmp50RetryRejoin : Bool)
  deriving DecidableEq

/-- The only jump that goes back in the text of the function. -/
def isBackward : Label → Label → Bool
  | .cmp50V274Commit, .cmp50V274Commit => true
  | _, _ => false

/-! ## Checks of the protected state -/

/-- The values of WPR2, the FECS PLM and the speed selectors, read in the order of the source. -/
structure GateReads where
  wprLo : BitVec 32
  wprHi : BitVec 32
  plm : BitVec 32
  speed0 : BitVec 32
  speed1 : BitVec 32

/-- The PLM is back at its stock value and the full-speed selectors are staged. -/
def GateReads.fullSpeed (g : GateReads) : Bool :=
  g.plm == fecsFeaturePlmPostlock && g.speed0 == fecsSmSpeedFull0 && g.speed1 == fecsSmSpeedFull1

/-- WPR2 is in the state that the exploit-mode run leaves. -/
def GateReads.wprDown (g : GateReads) : Bool :=
  g.wprLo == wpr2AddrLoDown && g.wprHi == 0

/-- The reads of the commit block: the PLM first. -/
def readGate : Driver GateReads := do
  let plm ← rd .fecsFeaturePlm
  let wprLo ← rd .wpr2AddrLo
  let wprHi ← rd .wpr2AddrHi
  let speed0 ← rd .fecsSmSpeedOverride0
  let speed1 ← rd .fecsSmSpeedOverride1
  return { wprLo, wprHi, plm, speed0, speed1 }

/-- The reads of the persistent-ready rejoin: WPR2 first. -/
def readGateWprFirst : Driver GateReads := do
  let wprLo ← rd .wpr2AddrLo
  let wprHi ← rd .wpr2AddrHi
  let plm ← rd .fecsFeaturePlm
  let speed0 ← rd .fecsSmSpeedOverride0
  let speed1 ← rd .fecsSmSpeedOverride1
  return { wprLo, wprHi, plm, speed0, speed1 }

/-- `GPU_REG_RD32(pGpu, r) != g_cmp50StockWprLo[idx]`, and the same for `Hi`. -/
def rdNeStock (r : Reg) (b : WprBound) (idx : Nat) : Driver Bool := do
  return (← rd r) != (← getWpr b idx)

/-- The tests of the PLM and the speed selectors as they stand in a condition of the source. -/
def fullSpeedLost : Driver Bool :=
  orElse (rdNe .fecsFeaturePlm fecsFeaturePlmPostlock) <|
  orElse (rdNe .fecsSmSpeedOverride0 fecsSmSpeedFull0)
    (rdNe .fecsSmSpeedOverride1 fecsSmSpeedFull1)

/-- Whether the values `lo`, `hi` of WPR2 differ from the captured pair. -/
def wprNeStock (idx : Nat) (lo hi : BitVec 32) : Driver Bool :=
  orElse (do return lo != (← getWpr .lo idx)) (do return hi != (← getWpr .hi idx))

/-! ## The retry entry -/

/-- The FWSEC replay of the persistent-ready rejoin, and the checks after it. `none` is a pass. -/
def persistentReady (idx : Nat) : Driver (Option NvStatus) := do
  if !(← getGsp).pPreparedFwsecCmd then
    print .persistentReadyNoFwsec
    return some .errInvalidState
  print .persistentReadyRefwsec
  let status ← hal .kflcnReset
  if status ≠ .ok then
    return some status
  let status ← hal .kgspExecuteFwsec
  act .portMemFreeFwsecCmd
  if status ≠ .ok then
    print .persistentReadyRefwsecFail
    return some status
  let g ← readGateWprFirst
  if ← orElse (do return (← getWpr .lo idx) == 0) <|
      orElse (do return (← getWpr .hi idx) == 0) <|
      orElse (wprNeStock idx g.wprLo g.wprHi) (pure (!g.fullSpeed)) then
    print .persistentReadyRefwsecStateMismatch
    return some .errInvalidState
  print .persistentReadyRefwsecStockWprPass
  let status ← kgspCmp50RebuildStockSignature
  if status ≠ .ok then
    print .persistentReadyStockSignatureFail
    return some status
  print .persistentReadyStockSignaturePass
  return none

/-- The end of the retry entry: enter RISC-V mode and join the stock Booter. -/
def joinStockBooter (pGpu : ObjGpu) : Driver (Exit Label NvStatus) := do
  kgspCmp50SetExploitMode pGpu false
  let status ← hal .kflcnResetIntoRiscv
  if status ≠ .ok then
    return .ret status
  act .programLibosBootArgsAddr
  printRegs .retryRejoinStockBooter [.wpr2AddrHi, .wpr2AddrLo]
  return .goto (.cmp50V525StockBooter true)

/-- WPR2 may be down or hold any range when a committed slot is retried. -/
def retryWprAccepted (lo hi : BitVec 32) : Bool :=
  (hi == 0 && lo == wpr2AddrLoDown) || (lo != 0 && lo < hi)

/-- The retry of a committed slot. -/
def retryRejoin (pGpu : ObjGpu) (idx : Nat) : Driver (Exit Label NvStatus) := do
  let retryWprLo ← rd .wpr2AddrLo
  let retryWprHi ← rd .wpr2AddrHi
  if ← orElse (pure (!retryWprAccepted retryWprLo retryWprHi)) fullSpeedLost then
    printRegs .retryRejoinStateMismatch [.fecsFeaturePlm, .fecsSmSpeedOverride0, .fecsSmSpeedOverride1]
    return .ret .errInvalidState
  if ← getFlag .gspReady idx then
    match ← persistentReady idx with
    | some status => return .ret status
    | none => joinStockBooter pGpu
  else
    joinStockBooter pGpu

/-- The part before `cmp50_v274_commit`. -/
def entryPart (pGpu : ObjGpu) (bootMode : BootMode) : Driver (Exit Label NvStatus) := do
  let cmp50StateIndex := cmp50StockflowGpuIndex pGpu
  if bootMode = .normal ∧ isCmp50ComputeUnlock pGpu then
    if ← getFlag .phaseCommitted cmp50StateIndex then
      return ← retryRejoin pGpu cmp50StateIndex
  return .goto .cmp50V274Commit

/-! ## The commit block -/

/-- Learn the stock range from the WPR2 registers. `none` is a pass. -/
def captureStockRange (idx : Nat) (wpr2Lo wpr2Hi : BitVec 32) : Driver (Option NvStatus) := do
  if wpr2Lo ≠ 0 ∧ wpr2Lo < wpr2Hi then
    if wpr2Hi - wpr2Lo ≠ wpr2StockSpan then
      print .stockSpanMismatch
      return some .errInvalidState
    act (.setWpr .lo idx wpr2Lo)
    act (.setWpr .hi idx wpr2Hi)
    print .stockRangeCaptured
    return none
  else if ← orElse (do return (← getWpr .lo idx) == 0) (do return (← getWpr .hi idx) == 0) then
    print .stockRangeUnavailable
    return some .errInvalidState
  else
    return none

/-- The exploit-mode run and the register gate after it. `none` is a pass. -/
def exploitBooter (pGpu : ObjGpu) : Driver (Option NvStatus) := do
  kgspCmp50SetExploitMode pGpu true
  let status ← kgspCmp50ExecuteBooterFreshMeta pGpu
  kgspCmp50SetExploitMode pGpu false
  let g ← readGate
  if status ≠ .ok ∨ !g.fullSpeed ∨ !g.wprDown then
    print .postFwsecCommitFail
    return some .errInvalidState
  return none

/-- Put the metadata back to its cold input. -/
def resetWprMetaInput : Driver Unit := do
  print .wprMetaBeforeReset
  match (← getGsp).pWprMeta with
  | some wprMeta => act (.setWprMeta { wprMeta with bootCount := 0, verified := 0 })
  | none => pure ()
  act (.memdescFlushCpuCaches .wprMeta)
  print .wprMetaInputResetPass

/-- The stock signature, the metadata and SEC2 are put back, and the state must have survived it. `none` is
a pass. -/
def restoreStock : Driver (Option NvStatus) := do
  let status ← kgspCmp50RebuildStockSignature
  if status ≠ .ok then
    return some status
  resetWprMetaInput
  let status ← kgspCmp50SanitizeSec2AfterExploit
  if status ≠ .ok then
    return some status
  let g ← readGate
  if !g.fullSpeed ∨ !g.wprDown then
    print .sanitizeStateLost
    return some .errInvalidState
  printRegs .wprDownHandoffPass [.sec2ResetPlm]
  if ← rdNe .sec2ResetPlm 0x000000FF then
    return some .errInvalidState
  return none

/-- The replay of FWSEC after the commit. `none` is a pass. -/
def refwsec (idx : Nat) : Driver (Option NvStatus) := do
  if !(← getGsp).pPreparedFwsecCmd then
    return some .errInvalidState
  let status ← hal .kflcnReset
  if status ≠ .ok then
    return some status
  let status ← hal .kgspExecuteFwsec
  act .portMemFreeFwsecCmd
  if status ≠ .ok then
    print .refwsecFail
    return some status
  let g ← readGate
  if ← orElse (wprNeStock idx g.wprLo g.wprHi) (pure (!g.fullSpeed)) then
    print .refwsecStateMismatch
    return some .errInvalidState
  print .refwsecStockWprPass
  return none

/-- RISC-V mode and the boot arguments, and the last check of the commit block. -/
def riscvBootargs (idx : Nat) : Driver (Exit Label NvStatus) := do
  let status ← hal .kflcnResetIntoRiscv
  if status ≠ .ok then
    return .ret status
  act .programLibosBootArgsAddr
  if ← orElse (rdNeStock .wpr2AddrLo .lo idx) <| orElse (rdNeStock .wpr2AddrHi .hi idx) fullSpeedLost then
    print .riscvBootargsStateMismatch
    return .ret .errInvalidState
  printRegs .riscvModeBootargsPass
    [.wpr2AddrHi, .wpr2AddrLo, .fecsFeaturePlm, .fecsSmSpeedOverride0, .fecsSmSpeedOverride1]
  printRegs .postFwsecPreGspHandoffPass [.sec2ResetPlm]
  act (.setFlag .phaseCommitted idx true)
  print .inplaceStockBooterCommit
  return .goto (.cmp50V525StockBooter false)

/-- From the captured range to the end of the commit block. -/
def commitTransaction (pGpu : ObjGpu) (idx : Nat) : Driver (Exit Label NvStatus) := do
  match ← exploitBooter pGpu with
  | some status => return .ret status
  | none =>
    match ← restoreStock with
    | some status => return .ret status
    | none =>
      act (.setFlag .phaseCommitted idx true)
      printRegs .phaseBoundaryPass [.sec2ResetPlm]
      print .bdfState
      match ← refwsec idx with
      | some status => return .ret status
      | none => riscvBootargs idx

/-- The body of the commit block. -/
def commitBlock (pGpu : ObjGpu) (idx : Nat) : Driver (Exit Label NvStatus) := do
  let wpr2Lo ← rd .wpr2AddrLo
  let wpr2Hi ← rd .wpr2AddrHi
  printRegs .postFwsecPreGspEntry [.fecsFeaturePlm, .sec2ResetPlm]
  if ¬(wpr2Hi = 0 ∨ (wpr2Lo ≠ 0 ∧ wpr2Lo < wpr2Hi)) then
    print .unexpectedPostFwsecWpr
    return .ret .errInvalidState
  match ← captureStockRange idx wpr2Lo wpr2Hi with
  | some status => return .ret status
  | none => commitTransaction pGpu idx

/-! ## Scrubber and FWSEC -/

/-- The scrubber, if the mode needs it. -/
def executeScrubberIfNeeded (bootMode : BootMode) : Driver NvStatus := do
  if bootMode = .srResume ∨ bootMode = .normal then
    hal .executeScrubber
  else
    return .ok

/-- The first FWSEC run. A CMP50 keeps the prepared command for one replay. -/
def executeFwsec (pGpu : ObjGpu) : Driver NvStatus := do
  if ← test .frtsRegion then
    let status ← hal .fwsecPrologue
    if status ≠ .ok then
      return status
    let status ← hal .kflcnReset
    if status ≠ .ok then
      return status
    let status ← hal .kgspExecuteFwsec
    if !isCmp50ComputeUnlock pGpu then
      act .portMemFreeFwsecCmd
    return status
  else
    return .ok

/-- The body of the FWSEC block. -/
def fwsecBlock (pGpu : ObjGpu) (idx : Nat) : Driver (Exit Label NvStatus) := do
  let status ← executeFwsec pGpu
  if status ≠ .ok then
    return .ret status
  if isCmp50ComputeUnlock pGpu then
    act (.setFlag .fwsecReady idx true)
    print .fwsecCompleteGspUntouched
    return .goto .cmp50V274Commit
  let status ← hal .kflcnResetIntoRiscv
  if status ≠ .ok then
    return .ret status
  act .programLibosBootArgsAddr
  return .goto (.cmp50V525StockBooter false)

/-- From the end of the commit block to `cmp50_v525_stock_booter`. -/
def scrubberAndFwsec (stock : StockCode) (pGpu : ObjGpu) (bootMode : BootMode) (idx : Nat) :
    Driver (Exit Label NvStatus) := do
  let status ← executeScrubberIfNeeded bootMode
  if status ≠ .ok then
    return .ret status
  if stock.admitsFwsec bootMode then
    fwsecBlock pGpu idx
  else
    return .goto (.cmp50V525StockBooter false)

/-- The part at `cmp50_v274_commit`. -/
def commitPart (stock : StockCode) (pGpu : ObjGpu) (bootMode : BootMode) :
    Driver (Exit Label NvStatus) := do
  let cmp50StateIndex := cmp50StockflowGpuIndex pGpu
  if bootMode = .normal ∧ isCmp50ComputeUnlock pGpu then
    if ← getFlag .fwsecReady cmp50StateIndex then
      return ← commitBlock pGpu cmp50StateIndex
  scrubberAndFwsec stock pGpu bootMode cmp50StateIndex

/-! ## The stock Booter -/

/-- The state of a CMP50 that the stock Booter must leave. `none` is a pass. -/
def checkStockBooter : Driver (Option NvStatus) := do
  let postWprLo ← rd .wpr2AddrLo
  let postWprHi ← rd .wpr2AddrHi
  let postSpeed0 ← rd .fecsSmSpeedOverride0
  let postSpeed1 ← rd .fecsSmSpeedOverride1
  let postPlm ← rd .fecsFeaturePlm
  let postResetPlm ← rd .sec2ResetPlm
  if postWprHi ≤ postWprLo ∨ postSpeed0 ≠ fecsSmSpeedFull0 ∨ postSpeed1 ≠ fecsSmSpeedFull1 ∨
      postPlm ≠ fecsFeaturePlmPostlock ∨
      (postResetPlm ≠ sec2ResetPlmStock ∧ postResetPlm ≠ 0x000000FF) then
    print .stockBooterMismatch
    return some .errInvalidState
  if postResetPlm = 0x000000FF then
    print .stockBooterResetFfAccepted
  print .inplaceStockBooterAfterUnlockPass
  cmp50ApplyGen2Policy
  return none

/-- The launch at `cmp50_v525_stock_booter`. -/
def executeStockBooter (stock : StockCode) (pGpu : ObjGpu) (bootMode : BootMode)
    (bCmp50RetryRejoin : Bool) : Driver NvStatus := do
  if bootMode = .normal ∧ isCmp50ComputeUnlock pGpu ∧ !bCmp50RetryRejoin then
    kgspCmp50ExecuteBooterFreshMeta pGpu
  else
    kgspExecuteBooterLoad pGpu (stock.kgspGetBooterLoadArgs (← getGsp) bootMode)

/-- After the launch: the init RPCs, up to the end of the function. The code between the last two hunks may
fail. -/
def finishBoot (pGpu : ObjGpu) (idx : Nat) : Driver NvStatus := do
  let status ← hal .sendInitRpcs
  if status ≠ .ok then
    return status
  print .gspFwRmReady
  if isCmp50ComputeUnlock pGpu then
    cmp50ApplyGen2Policy
    act (.setFlag .gspReady idx true)
    print .cmp50GspReady
  return .ok

/-- The part at `cmp50_v525_stock_booter`. -/
def stockBooterPart (stock : StockCode) (pGpu : ObjGpu) (bootMode : BootMode)
    (bCmp50RetryRejoin : Bool) : Driver (Exit Label NvStatus) := do
  let cmp50StateIndex := cmp50StockflowGpuIndex pGpu
  let status ← executeStockBooter stock pGpu bootMode bCmp50RetryRejoin
  if status ≠ .ok then
    print .failedToExecuteBooterLoadInitial
    return .ret status
  if bootMode = .normal ∧ isCmp50ComputeUnlock pGpu then
    match ← checkStockBooter with
    | some status => return .ret status
    | none => return .ret (← finishBoot pGpu cmp50StateIndex)
  else
    return .ret (← finishBoot pGpu cmp50StateIndex)

/-- `kgspBootstrap_TU102` -/
def kgspBootstrap (stock : StockCode) (pGpu : ObjGpu) (bootMode : BootMode) :
    Label → Driver (Exit Label NvStatus)
  | .entry => entryPart pGpu bootMode
  | .cmp50V274Commit => commitPart stock pGpu bootMode
  | .cmp50V525StockBooter rejoin => stockBooterPart stock pGpu bootMode rejoin

end Cmp50Unlock.Stockflow
