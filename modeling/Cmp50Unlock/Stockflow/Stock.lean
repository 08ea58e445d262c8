import Cmp50Unlock.Stockflow.Bootstrap

/-!
# The functions before the patch

The removed and the unchanged lines of the hunks: the code that every GPU ran before.
-/

namespace Cmp50Unlock.Stockflow.Stock

open Lib

/-- `kgspExecuteHsFalcon_TU102` -/
def kgspExecuteHsFalcon (pFlcnUcode : FlcnUcode) (addr : BitVec 64) : Driver NvStatus := do
  let status ← hal .hsFalconPrologue
  if status ≠ .ok then
    return status
  let _ ← launch pFlcnUcode addr
  hal (.kflcnWaitForHalt none)

/-- `s_executeBooterUcode_TU102` -/
def executeBooterUcode (addr : BitVec 64) : Driver NvStatus := do
  let status ← kgspExecuteHsFalcon .booterLoad addr
  if status ≠ .ok then
    return status
  hal .booterUcodeEpilogue

/-- `kgspExecuteBooterLoad_TU102` -/
def kgspExecuteBooterLoad (sysmemAddrOfData : BitVec 64) : Driver NvStatus := do
  let status ← hal .booterLoadPrologue
  if status ≠ .ok then
    return status
  print .executingBooterLoad
  let status ← hal .kflcnResetSec2
  if status ≠ .ok then
    return status
  let status ← executeBooterUcode sysmemAddrOfData
  if status ≠ .ok then
    print .failedToExecuteBooterLoad
    return status
  return status

/-- The FWSEC run, which frees the prepared command. -/
def executeFwsec : Driver NvStatus := do
  if ← test .frtsRegion then
    let status ← hal .fwsecPrologue
    if status ≠ .ok then
      return status
    let status ← hal .kflcnReset
    if status ≠ .ok then
      return status
    let status ← hal .kgspExecuteFwsec
    act .portMemFreeFwsecCmd
    return status
  else
    return .ok

/-- The part of `kgspBootstrap_TU102` from Booter on. -/
def executeBooter (stock : StockCode) (bootMode : BootMode) : Driver NvStatus := do
  let status ← kgspExecuteBooterLoad (stock.kgspGetBooterLoadArgs (← getGsp) bootMode)
  if status ≠ .ok then
    print .failedToExecuteBooterLoadInitial
    return status
  let status ← hal .sendInitRpcs
  if status ≠ .ok then
    return status
  print .gspFwRmReady
  return .ok

/-- `kgspBootstrap_TU102` -/
def kgspBootstrap (stock : StockCode) (bootMode : BootMode) : Driver NvStatus := do
  let status ← executeScrubberIfNeeded bootMode
  if status ≠ .ok then
    return status
  if stock.admitsFwsec bootMode then
    let status ← executeFwsec
    if status ≠ .ok then
      return status
    let status ← hal .kflcnResetIntoRiscv
    if status ≠ .ok then
      return status
    act .programLibosBootArgsAddr
  executeBooter stock bootMode

/-- `_kgspCreateSignatureMemdesc` -/
def kgspCreateSignatureMemdesc (fw : GspFirmware) : Driver NvStatus := do
  let status ← hal (.memdescCreate .signature (alignUp256 fw.signatureSize))
  if status ≠ .ok then
    return status
  let (status, _) ← tagAlloc .signature
  if status ≠ .ok then
    failCreate status
  else if !(← test (.memdescMapInternal .signature)) then
    act (.memdescFree .signature)
    failCreate .errInsufficientResources
  else
    act (.putSignature (portMemCopy (fw.pSignatureData.getD [])))
    act (.memdescUnmapInternal .signature)
    return .ok

end Cmp50Unlock.Stockflow.Stock
