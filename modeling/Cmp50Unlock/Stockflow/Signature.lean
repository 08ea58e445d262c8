import Cmp50Unlock.Stockflow.World
import Mathlib.Algebra.Group.Nat.Defs

/-!
# The signature buffer

`_kgspCreateSignatureMemdesc` fills the buffer of a CMP50 with the dwords that steer the signed Booter and
keeps a copy of the stock signature. `kgspCmp50RebuildStockSignature` puts the stock signature back.
-/

namespace Cmp50Unlock.Stockflow

open Lib

/-- `CMP50_PC_CANARY_SIGNATURE_SIZE` -/
def canarySignatureSize : Nat := 0xFA00

/-- `CMP50_PC_CANARY_UNIFORM_DWORD` -/
def canaryUniformDword : BitVec 32 := 0x00000CBD

/-- `NV_ALIGN_UP(n, 256)` on an `NvU64`. -/
def alignUp256 (n : Nat) : Nat := (n + 255) % 2 ^ 64 / 256 * 256

/-- The dwords that `_kgspCreateSignatureMemdesc` writes over the uniform pattern, with their offsets. -/
def canaryDwords : List (Nat × BitVec 32) :=
  [(0x0000, 0x00020001), (0x0880, 0x00000344), (0x0884, 0x00000001), (0x1100, 0x0000000F),
   (0xF90C, 0x00000CBD), (0xF910, 0x00003988), (0xF93C, 0x00000CBD), (0xF940, 0x00001D62),
   (0xF944, 0x00000000), (0xF948, 0x00000CBD), (0xF94C, 0x00000CC8), (0xF950, 0x00000000),
   (0xF954, 0x00000000), (0xF958, 0x00000000), (0xF95C, 0xFFFFFFFF), (0xF960, 0x00000CBD),
   (0xF964, 0x00000CBD), (0xF968, 0x00000000), (0xF96C, 0x00000000), (0xF970, 0x00000000),
   (0xF974, 0x00409650), (0xF978, 0x00000CBD), (0xF97C, 0x00001F89), (0xF980, 0x00000000),
   (0xF984, 0x00000000), (0xF988, 0x88888888), (0xF98C, 0x00000CBD), (0xF990, 0x000010AA),
   (0xF994, 0x00000CBD), (0xF998, 0x00007D34), (0xF99C, 0x00000000), (0xF9A0, 0x00000000),
   (0xF9A4, 0x00409664), (0xF9A8, 0x00000CBD), (0xF9AC, 0x00001F89), (0xF9B0, 0x00000000),
   (0xF9B4, 0x00000000), (0xF9B8, 0x00000000), (0xF9BC, 0x00000CBD), (0xF9C0, 0x000010AA),
   (0xF9C4, 0x000005FF), (0xF9C8, 0x0000C100), (0xF9CC, 0x00000000), (0xF9D0, 0x00000000),
   (0xF9D4, 0x00000000), (0xF9D8, 0x00000000), (0xF9DC, 0x00000000), (0xF9E0, 0x00000000),
   (0xF9E4, 0x00000CBD), (0xF9E8, 0x000064EC), (0xBB00, 0x00000CBD), (0xBB04, 0x000005FF),
   (0xBB08, 0x0000FF3C), (0xBB0C, 0x00000000), (0xBB10, 0x00000000), (0xBB14, 0x00000000),
   (0xBB18, 0x00000000), (0xBB1C, 0x00000000), (0xBB20, 0x00000008), (0xBB24, 0x00000CBD),
   (0xBB28, 0x00000CBD), (0xBB2C, 0x00000000), (0xBB30, 0x00000000), (0xBB34, 0x00000000),
   (0xBB38, 0x0040966C), (0xBB3C, 0x00000CBD), (0xBB40, 0x00001F89), (0xBB44, 0x00000000),
   (0xBB48, 0x00000000), (0xBB4C, 0xFFFFFF8F), (0xBB50, 0x00000CBD), (0xBB54, 0x000010AA),
   (0xBB58, 0x00000CBD), (0xBB5C, 0x00000000), (0xBB60, 0x00000000), (0xBB64, 0x00000000),
   (0xBB68, 0x00409650), (0xBB6C, 0x00000CBD), (0xBB70, 0x00001F89), (0xBB74, 0x00000000),
   (0xBB78, 0x00000000), (0xBB7C, 0xFFFFFFFF), (0xBB80, 0x00000CBD), (0xBB84, 0x000010AA),
   (0xBB88, 0x00000CBD), (0xBB8C, 0x00000000), (0xBB90, 0x00000000), (0xBB94, 0x00000000),
   (0xBB98, 0x0008E1B0), (0xBB9C, 0x00000CBD), (0xBBA0, 0x00001F89), (0xBBA4, 0x00000000),
   (0xBBA8, 0x00000000), (0xBBAC, 1), (0xBBB0, 0x00000CBD), (0xBBB4, 0x000010AA),
   (0xBBB8, 0x00000CBD), (0xBBBC, 0x00000000), (0xBBC0, 0x00000000), (0xBBC4, 0x00000000),
   (0xBBC8, 0x0008E110), (0xBBCC, 0x00000CBD), (0xBBD0, 0x00001F89), (0xBBD4, 0x00000000),
   (0xBBD8, 0x00000000), (0xBBDC, 0x00200000), (0xBBE0, 0x00000CBD), (0xBBE4, 0x000010AA),
   (0xBBE8, 0x00000CBD), (0xBBEC, 0x00000000), (0xBBF0, 0x00000000), (0xBBF4, 0x00000000),
   (0xBBF8, 0x0008E12C), (0xBBFC, 0x00000CBD), (0xBC00, 0x00001F89), (0xBC04, 0x00000000),
   (0xBC08, 0x00000000), (0xBC0C, 0x00000004), (0xBC10, 0x00000CBD), (0xBC14, 0x000010AA),
   (0xBC18, 0x00000CBD), (0xBC1C, 0x00000000), (0xBC20, 0x00000000), (0xBC24, 0x00000000),
   (0xBC28, 0x0008E11C), (0xBC2C, 0x00000CBD), (0xBC30, 0x00001F89), (0xBC34, 0x00000000),
   (0xBC38, 0x00000000), (0xBC3C, 0x00000000), (0xBC40, 0x00000CBD), (0xBC44, 0x000010AA),
   (0xBC48, 0x00000CBD), (0xBC4C, 0x00000000), (0xBC50, 0x00000000), (0xBC54, 0x00000000),
   (0xBC58, 0x001FA828), (0xBC5C, 0x00000CBD), (0xBC60, 0x00001F89), (0xBC64, 0x00000000),
   (0xBC68, 0x00000000), (0xBC6C, 0x000000FF), (0xBC70, 0x00000CBD), (0xBC74, 0x000010AA),
   (0xBC78, 0x00000CBD), (0xBC7C, 0x00000000), (0xBC80, 0x00000000), (0xBC84, 0x00000000),
   (0xBC88, 0x008403C4), (0xBC8C, 0x00000CBD), (0xBC90, 0x00001F89), (0xBC94, 0x00000000),
   (0xBC98, 0x00000000), (0xBC9C, 0x1FFFFE00), (0xBCA0, 0x00000CBD), (0xBCA4, 0x000010AA),
   (0xBCA8, 0x00000CBD), (0xBCAC, 0x00000000), (0xBCB0, 0x00000000), (0xBCB4, 0x00000000),
   (0xBCB8, 0x001FA824), (0xBCBC, 0x00000CBD), (0xBCC0, 0x00001F89), (0xBCC4, 0x00000000),
   (0xBCC8, 0x00000000), (0xBCCC, 0x000000FF), (0xBCD0, 0x00000CBD), (0xBCD4, 0x000010AA),
   (0xBCD8, 0x00000CBD), (0xBCDC, 0x00000000), (0xBCE0, 0x00000000), (0xBCE4, 0x00000000),
   (0xBCE8, 0x008403C4), (0xBCEC, 0x00000CBD), (0xBCF0, 0x00001F89), (0xBCF4, 0x00000000),
   (0xBCF8, 0x00000000), (0xBCFC, 0x00000000), (0xBD00, 0x00000CBD), (0xBD04, 0x000010AA),
   (0xBD08, 0x000005FF), (0xBD0C, 0x00000000), (0xBD10, 0x00000000), (0xBD14, 0x00000000),
   (0xBD18, 0x00008E18), (0xBD1C, 0x000000C2), (0xBD20, 0x00000000), (0xBD24, 0x00000000),
   (0xBD28, 0x00000CBD), (0xBD2C, 0x00000D27), (0xBD30, 0x00000000), (0xBD34, 0x00000000),
   (0xBD38, 0x00000000), (0xBD3C, 0x00000000), (0xBD40, 0x00000000), (0xBD44, 0x00000000),
   (0xBD48, 0x00000000), (0xBD4C, 0x00000CBD), (0xBD50, 0x00000CBD), (0xBD54, 0x00000000),
   (0xBD58, 0x00000000), (0xBD5C, 0x00000000), (0xBD60, 0x00000000), (0xBD64, 0x00000CBD),
   (0xBD68, 0x00001CDD), (0xBD6C, 0x00007C43)]
/-- The parts of `GSP_FIRMWARE` that hold the signature. -/
structure GspFirmware where
  pSignatureData : Option (List (BitVec 8))
  signatureSize : Nat
  size_eq : ∀ data, pSignatureData = some data → data.length = signatureSize

/-! ## Bytes -/

/-- `_kgspCmp50PutU32` -/
def kgspCmp50PutU32 (mem : Nat → BitVec 8) (offset : Nat) (value : BitVec 32) : Nat → BitVec 8 :=
  fun k => if offset ≤ k ∧ k < offset + 4 then (value >>> (8 * (k - offset))).setWidth 8 else mem k

/-- The loop that writes `value` at the offsets `0, 4, .., 4 * (n - 1)`. -/
def fillU32 (value : BitVec 32) : Nat → (Nat → BitVec 8) → Nat → BitVec 8
  | 0, mem => mem
  | n + 1, mem => kgspCmp50PutU32 (fillU32 value n mem) (4 * n) value

/-- The content that `_kgspCreateSignatureMemdesc` gives to the buffer of a CMP50. -/
def canaryBytes (mem : Nat → BitVec 8) : Nat → BitVec 8 :=
  canaryDwords.foldl (fun mem e => kgspCmp50PutU32 mem e.1 e.2)
    (fillU32 canaryUniformDword (canarySignatureSize / 4) mem)

/-- `portMemSet(p, 0, size)` -/
def portMemZero (size : Nat) (mem : Nat → BitVec 8) : Nat → BitVec 8 :=
  fun k => if k < size then 0 else mem k

/-- `portMemCopy(p, _, data, data.length)` -/
def portMemCopy (data : List (BitVec 8)) (mem : Nat → BitVec 8) : Nat → BitVec 8 :=
  fun k => data.getD k (mem k)

/-! ## Creation -/

/-- The label `fail_create`. -/
def failCreate (status : NvStatus) : Driver NvStatus := do
  act (.memdescDestroy .signature)
  return status

/-- The label `fail_alloc`. -/
def failAlloc (bCmp50PcCanary : Bool) (status : NvStatus) : Driver NvStatus := do
  let g ← getGsp
  if bCmp50PcCanary ∧ g.pStockSignatureData.isSome then
    act .portMemFreeStock
  act (.memdescFree .signature)
  failCreate status

/-- The signature of a CMP50: keep a copy of the stock signature and write the dwords. -/
def createCanarySignature (fw : GspFirmware) : Driver (Option NvStatus) := do
  let g ← getGsp
  match fw.pSignatureData with
  | none => return some .errInvalidState
  | some data =>
    if fw.signatureSize = 0 ∨ g.pStockSignatureData.isSome then
      return some .errInvalidState
    if !(← test (.portMemAllocStock fw.signatureSize)) then
      return some .errInsufficientResources
    act (.putStockSignature data fw.signatureSize)
    act (.putSignature canaryBytes)
    print .signedFullspeedCommit
    return none

/-- `_kgspCreateSignatureMemdesc` -/
def kgspCreateSignatureMemdesc (pGpu : ObjGpu) (fw : GspFirmware) : Driver NvStatus := do
  let bCmp50PcCanary := isCmp50ComputeUnlock pGpu
  let signatureMemdescSize :=
    if bCmp50PcCanary then canarySignatureSize else alignUp256 fw.signatureSize
  let status ← hal (.memdescCreate .signature signatureMemdescSize)
  if status ≠ .ok then
    return status
  let (status, _) ← tagAlloc .signature
  if status ≠ .ok then
    failCreate status
  else if !(← test (.memdescMapInternal .signature)) then
    failAlloc bCmp50PcCanary .errInsufficientResources
  else if bCmp50PcCanary then
    match ← createCanarySignature fw with
    | some status => failAlloc bCmp50PcCanary status
    | none => finish
  else
    act (.putSignature (portMemCopy (fw.pSignatureData.getD [])))
    finish
where
  finish : Driver NvStatus := do
    act (.memdescUnmapInternal .signature)
    act (.memdescFlushCpuCaches .signature)
    return .ok

/-! ## Restoring the stock signature -/

/-- `kgspCmp50RebuildStockSignature` -/
def kgspCmp50RebuildStockSignature : Driver NvStatus := do
  let g ← getGsp
  match g.pSignatureMemdesc, g.pStockSignatureData with
  | some m, some data =>
    if g.stockSignatureSize = 0 then
      return .errInvalidState
    let stockAdvertisedSize := alignUp256 g.stockSignatureSize
    if m.size < stockAdvertisedSize then
      return .errInsufficientResources
    if !(← test (.memdescMapInternal .signature)) then
      return .errInsufficientResources
    act (.putSignature (portMemZero m.size))
    act (.putSignature (portMemCopy (data.take g.stockSignatureSize)))
    act (.memdescUnmapInternal .signature)
    act (.memdescFlushCpuCaches .signature)
    match g.pWprMeta with
    | some wprMeta =>
      act (.setWprMeta { wprMeta with
        sysmemAddrOfSignature := m.mem.phys, sizeOfSignature := stockAdvertisedSize })
    | none => pure ()
    if g.pWprMetaDescriptor.isSome then
      act (.memdescFlushCpuCaches .wprMeta)
    print .restoredStockSignature
    return .ok
  | _, _ => return .errInvalidState

/-- The part of `kgspFreeBootArgs_TU102` that releases the signature. -/
def kgspFreeBootArgs : Driver Unit := do
  let g ← getGsp
  if g.pSignatureMemdesc.isSome then
    act (.memdescFree .signature)
    act (.memdescDestroy .signature)
  if g.pStockSignatureData.isSome then
    act .portMemFreeStock

end Cmp50Unlock.Stockflow
