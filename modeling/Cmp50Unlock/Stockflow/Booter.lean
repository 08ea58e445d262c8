import Cmp50Unlock.Stockflow.Signature

/-!
# Running Booter

The patch gives Booter Load two forms. With the exploit mode of the card on, it runs on the halted SEC2
with a bounded wait and must leave an exact state; otherwise it runs as in the stock driver, on a reset
SEC2.
-/

namespace Cmp50Unlock.Stockflow

open Lib

/-! ## The exploit mode -/

/-- `kgspCmp50SetExploitMode` -/
def kgspCmp50SetExploitMode (pGpu : ObjGpu) (bEnabled : Bool) : Driver Unit :=
  act (.setFlag .exploitMode (cmp50ExploitModeIndex pGpu) bEnabled)

/-- `kgspCmp50GetExploitMode` -/
def kgspCmp50GetExploitMode (pGpu : ObjGpu) : Driver Bool :=
  getFlag .exploitMode (cmp50ExploitModeIndex pGpu)

/-- `s_isCmp50NativeBooterProbe` -/
def isCmp50NativeBooterProbe (pGpu : ObjGpu) : Driver Bool :=
  andAlso (pure (isCmp50ComputeUnlock pGpu)) (kgspCmp50GetExploitMode pGpu)

/-! ## Falcon -/

/-- The bounded wait of `kgspExecuteHsFalcon_TU102`. -/
def boundedHaltWait : Nat := 250000

/-- `kgspExecuteHsFalcon_TU102`. The code before the CPU start is outside the hunk; it may fail. -/
def kgspExecuteHsFalcon (pGpu : ObjGpu) (pFlcnUcode : FlcnUcode) (addr : BitVec 64) : Driver NvStatus := do
  let status ← hal .hsFalconPrologue
  if status ≠ .ok then
    return status
  let _ ← launch pFlcnUcode addr
  if ← andAlso (isCmp50NativeBooterProbe pGpu) (pure (pFlcnUcode == .booterLoad)) then
    let status ← hal (.kflcnWaitForHalt (some boundedHaltWait))
    print .exploitBooterBoundedHaltWait
    return status
  else
    hal (.kflcnWaitForHalt none)

/-- `s_executeBooterUcode_TU102`, stock code that runs the Booter image and turns its mailbox into a
status. -/
def executeBooterUcode (pGpu : ObjGpu) (addr : BitVec 64) : Driver NvStatus := do
  let status ← kgspExecuteHsFalcon pGpu .booterLoad addr
  if status ≠ .ok then
    return status
  hal .booterUcodeEpilogue

/-! ## Booter Load -/

/-- What `kgspExecuteBooterLoad_TU102` requires after an exploit-mode run. -/
def signedExactState (status : NvStatus) (mailbox0 mailbox1 plmAfter : BitVec 32) : Driver Bool :=
  andAlso (pure (status == .ok && plmAfter == fecsFeaturePlmPostlock)) <|
  andAlso (rdEq .wpr2AddrLo wpr2AddrLoDown) <|
  andAlso (rdEq .wpr2AddrHi 0) <|
  andAlso (rdEq .fecsSmSpeedOverride0 fecsSmSpeedFull0) <|
  andAlso (rdEq .fecsSmSpeedOverride1 fecsSmSpeedFull1) <|
  andAlso (rdEq .sec2ResetPlm sec2ResetPlmOpen) <|
  pure (mailbox0 == 0 && (mailbox1 == 0 || mailbox1 == 1 || mailbox1 == 4))

/-- The exploit-mode branch of `kgspExecuteBooterLoad_TU102`. -/
def nativeBooterProbe (pGpu : ObjGpu) (addr : BitVec 64) : Driver NvStatus := do
  let _plmBefore ← rd .fecsFeaturePlm
  -- SEC2 must still be halted as FWSEC left it: a reset would change its protection register.
  if ← rdNe .sec2ResetPlm sec2ResetPlmOpen then
    printRegs .preResetPlmMismatch
      [.sec2ResetPlm, .wpr2AddrHi, .wpr2AddrLo, .fecsFeaturePlm, .fecsSmSpeedOverride0, .fecsSmSpeedOverride1]
    return .errInvalidState
  let status ← hal (.kflcnWaitForHalt (some 100000))
  if status ≠ .ok then
    return status
  printRegs .preResetSkippedHaltedPass [.sec2ResetPlm]
  let status ← executeBooterUcode pGpu addr
  let mailbox0 ← rd .sec2Mailbox0
  let mailbox1 ← rd .sec2Mailbox1
  let plmAfter ← rd .fecsFeaturePlm
  let _plmRestored ← rd .fecsFeaturePlm
  printRegs .fecsFeaturePlmResult [.sec2TracePc, .wpr2AddrLo]
  if ← signedExactState status mailbox0 mailbox1 plmAfter then
    if mailbox1 ≠ 0 then
      print .mailbox1Accepted
    print .signedFullspeedPass
    return .ok
  printRegs .signedExactStateMismatch [.sec2TracePc, .wpr2AddrHi, .wpr2AddrLo, .fecsFeaturePlm,
    .fecsSmSpeedOverride0, .fecsSmSpeedOverride1, .sec2ResetPlm]
  return .errInvalidState

/-- The rest of `kgspExecuteBooterLoad_TU102`. -/
def stockBooterLoad (pGpu : ObjGpu) (addr : BitVec 64) : Driver NvStatus := do
  let status ← hal .kflcnResetSec2
  if status ≠ .ok then
    return status
  if isCmp50ComputeUnlock pGpu then
    act .clearSec2ExploitDmem
    print .fullDmemZeroPass
  let status ← executeBooterUcode pGpu addr
  if status ≠ .ok then
    if isCmp50ComputeUnlock pGpu then
      act .captureNativeBooterState
    print .failedToExecuteBooterLoad
    return status
  return status

/-- `kgspExecuteBooterLoad_TU102`. The checks before the first hunk may fail. -/
def kgspExecuteBooterLoad (pGpu : ObjGpu) (sysmemAddrOfData : BitVec 64) : Driver NvStatus := do
  let status ← hal .booterLoadPrologue
  if status ≠ .ok then
    return status
  print .executingBooterLoad
  if ← isCmp50NativeBooterProbe pGpu then
    nativeBooterProbe pGpu sysmemAddrOfData
  else
    stockBooterLoad pGpu sysmemAddrOfData

/-! ## Booter Load on a fresh metadata page -/

/-- The label `cleanup` of `_kgspCmp50ExecuteBooterFreshMeta`, with nothing mapped. -/
def cleanupFreshMeta (status : NvStatus) : Driver NvStatus := do
  act (.memdescFree .freshMeta)
  act (.memdescDestroy .freshMeta)
  return status

/-- The launch of `_kgspCmp50ExecuteBooterFreshMeta`, once the fresh page is allocated and mapped. -/
def launchFreshMeta (pGpu : ObjGpu) (wprMeta : WprMeta) : Driver NvStatus := do
  act (.putFreshMeta wprMeta)
  act (.memdescUnmapInternal .freshMeta)
  act (.memdescFlushCpuCaches .freshMeta)
  let freshPhys := ((← getGsp).pFreshMeta.map MetaPage.phys).getD 0
  print .freshWprMetadata
  let bootStatus ← kgspExecuteBooterLoad pGpu freshPhys
  if !(← test (.memdescMapInternal .freshMeta)) then
    cleanupFreshMeta .errInsufficientResources
  else
    match (← getGsp).pFreshMeta with
    | some page => act (.setWprMeta page.content)
    | none => pure ()
    act (.memdescUnmapInternal .freshMeta)
    act (.memdescFlushCpuCaches .wprMeta)
    cleanupFreshMeta bootStatus

/-- `_kgspCmp50ExecuteBooterFreshMeta` -/
def kgspCmp50ExecuteBooterFreshMeta (pGpu : ObjGpu) : Driver NvStatus := do
  let g ← getGsp
  match g.pWprMeta, g.pWprMetaDescriptor with
  | some wprMeta, some _ =>
    let status ← hal (.memdescCreate .freshMeta 0x1000)
    if status ≠ .ok then
      return status
    let (status, _) ← tagAlloc .freshMeta
    if status ≠ .ok then
      cleanupFreshMeta status
    else if !(← test (.memdescMapInternal .freshMeta)) then
      cleanupFreshMeta .errInsufficientResources
    else
      launchFreshMeta pGpu wprMeta
  | _, _ => return .errInvalidState

/-! ## SEC2 after the exploit-mode run -/

/-- `kgspCmp50SanitizeSec2AfterExploit` -/
def kgspCmp50SanitizeSec2AfterExploit : Driver NvStatus := do
  if !(← test .kernelSec2) then
    return .errInvalidState
  let status ← hal (.kflcnWaitForHalt (some 100000))
  if status ≠ .ok then
    return status
  if ← rdNe .sec2ResetPlm sec2ResetPlmOpen then
    return .errInvalidState
  let status ← hal .ksec2ResetHw
  if status ≠ .ok then
    return status
  print .nativeCleanupDmemPreservedPass
  if ← orElse (rdNe .sec2ResetPlm 0x000000FF) (orElse (rdNe .sec2Mailbox0 0) (rdNe .sec2Mailbox1 0)) then
    return .errInvalidState
  print .tokenReleaseNativeCleanupPass
  return .ok

end Cmp50Unlock.Stockflow
