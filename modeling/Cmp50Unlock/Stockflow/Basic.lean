import Cmp50Unlock.Lib.Goto

/-!
# The driver's data and the operations of its code

The patched functions run against a GPU, a firmware and an allocator that are not under our control, so
each access to them is an operation whose answer may be anything. The per-slot arrays of the patch and the
`KernelGsp` object are memory: what is read from them is what was written last.

Log lines are operations too, named after their text. The registers that a log line reads only to print them
are read by an operation of its own, up to the launch of the stock Booter: the last reading of a register may
be one that no check has seen. Such reads of the Gen2 policy and after the launch are left out, as nothing is
stated about them.
-/

namespace Cmp50Unlock.Stockflow

open Lib

/-! ## Values -/

/-- `NV_STATUS`; `other` stands for the codes that the patch does not name. -/
inductive NvStatus where
  | ok
  | errInvalidState
  | errInsufficientResources
  | errNotSupported
  | other (code : Nat)
  deriving DecidableEq

/-- `KernelGspBootMode`; `other` stands for the modes that the patch does not name. -/
inductive BootMode where
  | normal
  | srResume
  | other (code : Nat)
  deriving DecidableEq

/-- What the patch reads of an `OBJGPU`. The domain is part of the identity of a GPU, though no patched
function reads it. -/
structure ObjGpu where
  pciDeviceId : BitVec 32
  pciSubDeviceId : BitVec 32
  domain : BitVec 32
  bus : BitVec 32
  device : BitVec 32
  gpuInstance : BitVec 32
  deriving DecidableEq

/-- The microcode images that `kgspExecuteHsFalcon_TU102` is called with. -/
inductive FlcnUcode where
  | booterLoad
  | other
  deriving DecidableEq

/-- The fields of `GspFwWprMeta` that the patched functions read or write. -/
structure WprMeta where
  sysmemAddrOfSignature : BitVec 64
  sizeOfSignature : Nat
  bootCount : BitVec 64
  verified : BitVec 64

/-- System memory behind a memory descriptor. -/
structure Backing where
  phys : BitVec 64
  bytes : Nat → BitVec 8

/-- `pSignatureMemdesc`: the size it was created with and the memory behind it. -/
structure SignatureMemdesc where
  size : Nat
  mem : Backing

/-- A page that holds WPR metadata. -/
structure MetaPage where
  phys : BitVec 64
  content : WprMeta

/-- The fields of `KernelGsp` that the patched functions use. The last one is the local `pFreshMeta` of
`_kgspCmp50ExecuteBooterFreshMeta`. -/
structure KernelGsp where
  pSignatureMemdesc : Option SignatureMemdesc
  pStockSignatureData : Option (List (BitVec 8))
  stockSignatureSize : Nat
  pWprMeta : Option WprMeta
  pWprMetaDescriptor : Option (BitVec 64)
  pPreparedFwsecCmd : Bool
  pFreshMeta : Option MetaPage

/-! ## Registers -/

/-- The registers that the patched functions access. -/
inductive Reg where
  | wpr2AddrLo
  | wpr2AddrHi
  | fecsFeaturePlm
  | fecsSmSpeedOverride0
  | fecsSmSpeedOverride1
  | sec2ResetPlm
  | sec2Mailbox0
  | sec2Mailbox1
  | sec2TracePc
  | pcieVsecDevice
  | pcieVsecHierarchy
  | pcieLtssm
  | pciePrivMisc1
  | pcieLinkConfig0
  | pciePlLinkRate
  | pcieCya0
  | pcieXp3gOverride0
  | pcieXp3gValue0
  | pcieXp3gOverride3
  | pcieXp3gValue3
  | pcieXp3gPlm0
  deriving DecidableEq

/-- The BAR0 addresses of the registers; the last three of SEC2 are addressed through the Falcon. -/
def Reg.addr : Reg → Option (BitVec 32)
  | .wpr2AddrLo => some 0x001FA824
  | .wpr2AddrHi => some 0x001FA828
  | .fecsFeaturePlm => some 0x00409650
  | .fecsSmSpeedOverride0 => some 0x00409664
  | .fecsSmSpeedOverride1 => some 0x0040966C
  | .sec2ResetPlm => some 0x008403C4
  | .sec2Mailbox0 => none
  | .sec2Mailbox1 => none
  | .sec2TracePc => none
  | .pcieVsecDevice => some 0x0008860C
  | .pcieVsecHierarchy => some 0x00088610
  | .pcieLtssm => some 0x0008872C
  | .pciePrivMisc1 => some 0x0008841C
  | .pcieLinkConfig0 => some 0x0008C040
  | .pciePlLinkRate => some 0x0008C1C0
  | .pcieCya0 => some 0x0008C2C0
  | .pcieXp3gOverride0 => some 0x0008E110
  | .pcieXp3gValue0 => some 0x0008E120
  | .pcieXp3gOverride3 => some 0x0008E11C
  | .pcieXp3gValue3 => some 0x0008E12C
  | .pcieXp3gPlm0 => some 0x0008E1B0

/-- `CMP50_FECS_FEATURE_PLM_POSTLOCK`, `CMP50_FECS_SPEED_PLM_STAGED` -/
def fecsFeaturePlmPostlock : BitVec 32 := 0xFFFFFF8F

/-- `CMP50_FECS_SM_SPEED_FULL_0`, `CMP50_FECS_SPEED0_STAGED` -/
def fecsSmSpeedFull0 : BitVec 32 := 0x88888888

/-- `CMP50_FECS_SM_SPEED_FULL_1`, `CMP50_FECS_SPEED1_STAGED` -/
def fecsSmSpeedFull1 : BitVec 32 := 0x00000008

/-- `CMP50_WPR2_STOCK_SPAN` -/
def wpr2StockSpan : BitVec 32 := 0x00000E00

/-- `CMP50_WPR2_ADDR_LO_DOWN` -/
def wpr2AddrLoDown : BitVec 32 := 0x1FFFFE00

/-- `CMP50_SEC2_RESET_PLM_STOCK` -/
def sec2ResetPlmStock : BitVec 32 := 0x0000008F

/-- `CMP50_SEC2_RESET_PLM_FWSEC`, `CMP50_SEC2_RESET_PLM_POSTEXIT` -/
def sec2ResetPlmOpen : BitVec 32 := 0x000000FF

/-! ## Identity and slots -/

/-- `s_isCmp50ComputeUnlock`; the other files of the patch test the same two identities. -/
def isCmp50ComputeUnlock (pGpu : ObjGpu) : Bool :=
  pGpu.pciDeviceId == 0x1E0910DE &&
    (pGpu.pciSubDeviceId == 0x155410DE || pGpu.pciSubDeviceId == 0x371F1462)

/-- `CMP50_STOCKFLOW_BDF_SLOTS` -/
def stockflowBdfSlots : BitVec 32 := 8192

/-- `s_cmp50StockflowGpuIndex` -/
def cmp50StockflowGpuIndex (pGpu : ObjGpu) : Nat :=
  let slot := pGpu.bus * 32 + pGpu.device
  if slot < stockflowBdfSlots then slot.toNat else (pGpu.gpuInstance % stockflowBdfSlots).toNat

/-- `s_cmp50ExploitModeIndex` -/
def cmp50ExploitModeIndex (pGpu : ObjGpu) : Nat :=
  let idx := pGpu.bus * 32 + pGpu.device
  if idx < 8192 then idx.toNat else 0

/-- The per-slot flags: `g_cmp50V274PhaseCommitted`, `g_cmp50V274FwsecReady`, `g_cmp50V274GspReady` and
`s_cmp50ExploitMode`. -/
inductive SlotFlag where
  | phaseCommitted
  | fwsecReady
  | gspReady
  | exploitMode
  deriving DecidableEq

/-- The captured range: `g_cmp50StockWprLo` and `g_cmp50StockWprHi`. -/
inductive WprBound where
  | lo
  | hi
  deriving DecidableEq

/-- The module-lifetime arrays. -/
structure Slots where
  flag : SlotFlag → Nat → Bool
  wpr : WprBound → Nat → BitVec 32

/-- The arrays as the module is loaded. -/
def Slots.zero : Slots := ⟨fun _ _ => false, fun _ _ => 0⟩

def Slots.setFlag (s : Slots) (f : SlotFlag) (i : Nat) (b : Bool) : Slots :=
  { s with flag := fun f' i' => if f' = f ∧ i' = i then b else s.flag f' i' }

def Slots.setWpr (s : Slots) (b : WprBound) (i : Nat) (v : BitVec 32) : Slots :=
  { s with wpr := fun b' i' => if b' = b ∧ i' = i then v else s.wpr b' i' }

section
variable {s : Slots} {f f' : SlotFlag} {i i' : Nat} {b : Bool} {x : WprBound} {v : BitVec 32}

@[simp] theorem wpr_setFlag : (s.setFlag f i b).wpr = s.wpr := rfl

@[simp] theorem flag_setWpr : (s.setWpr x i v).flag = s.flag := rfl

@[simp] theorem flag_setFlag_self : (s.setFlag f i b).flag f i = b := by simp [Slots.setFlag]

@[simp] theorem flag_setFlag_ne (h : f' ≠ f) : (s.setFlag f i b).flag f' i' = s.flag f' i' := by
  simp [Slots.setFlag, h]

end

/-! ## Operations -/

/-- The memory descriptors that the patched functions handle. -/
inductive Memdesc where
  | signature
  | freshMeta
  | wprMeta
  deriving DecidableEq

/-- Calls that return an `NV_STATUS`. The last four stand for stock code between the hunks of the patch. -/
inductive Hal where
  | memdescCreate (m : Memdesc) (size : Nat)
  | kflcnReset
  | kflcnResetSec2
  | kflcnResetIntoRiscv
  | kflcnWaitForHalt (timeout : Option Nat)
  | ksec2ResetHw
  | kgspExecuteFwsec
  | executeScrubber
  | fwsecPrologue
  | hsFalconPrologue
  | booterUcodeEpilogue
  | booterLoadPrologue
  | sendInitRpcs
  deriving DecidableEq

/-- Questions with a yes or no answer: whether a pointer that was asked for is not NULL, and one condition
of stock code between the hunks. -/
inductive Test where
  | memdescMapInternal (m : Memdesc)
  | portMemAllocStock (size : Nat)
  | kernelSec2
  | frtsRegion
  deriving DecidableEq

/-- Log lines, named after their text. -/
inductive Msg where
  | retryRejoinStateMismatch
  | persistentReadyNoFwsec
  | persistentReadyRefwsec
  | persistentReadyRefwsecFail
  | persistentReadyRefwsecStateMismatch
  | persistentReadyRefwsecStockWprPass
  | persistentReadyStockSignatureFail
  | persistentReadyStockSignaturePass
  | retryRejoinStockBooter
  | postFwsecPreGspEntry
  | unexpectedPostFwsecWpr
  | stockSpanMismatch
  | stockRangeCaptured
  | stockRangeUnavailable
  | postFwsecCommitFail
  | wprMetaBeforeReset
  | wprMetaInputResetPass
  | sanitizeStateLost
  | wprDownHandoffPass
  | phaseBoundaryPass
  | bdfState
  | refwsecFail
  | refwsecStateMismatch
  | refwsecStockWprPass
  | riscvBootargsStateMismatch
  | riscvModeBootargsPass
  | postFwsecPreGspHandoffPass
  | inplaceStockBooterCommit
  | fwsecCompleteGspUntouched
  | failedToExecuteBooterLoadInitial
  | stockBooterMismatch
  | stockBooterResetFfAccepted
  | inplaceStockBooterAfterUnlockPass
  | gspFwRmReady
  | cmp50GspReady
  | executingBooterLoad
  | preResetPlmMismatch
  | preResetSkippedHaltedPass
  | fecsFeaturePlmResult
  | mailbox1Accepted
  | signedFullspeedPass
  | signedExactStateMismatch
  | fullDmemZeroPass
  | failedToExecuteBooterLoad
  | exploitBooterBoundedHaltWait
  | nativeCleanupDmemPreservedPass
  | tokenReleaseNativeCleanupPass
  | freshWprMetadata
  | restoredStockSignature
  | signedFullspeedCommit
  | protectedGateFail
  | policyMismatch
  | policyRollback
  | policyPass
  deriving DecidableEq

/-- Operations without an answer. -/
inductive Act where
  | regWr32 (r : Reg) (v : BitVec 32)
  | print (m : Msg)
  | programLibosBootArgsAddr
  | clearSec2ExploitDmem
  | captureNativeBooterState
  | setFlag (f : SlotFlag) (i : Nat) (b : Bool)
  | setWpr (b : WprBound) (i : Nat) (v : BitVec 32)
  | setWprMeta (m : WprMeta)
  | memdescUnmapInternal (m : Memdesc)
  | memdescFlushCpuCaches (m : Memdesc)
  | memdescFree (m : Memdesc)
  | memdescDestroy (m : Memdesc)
  | putSignature (f : (Nat → BitVec 8) → Nat → BitVec 8)
  | putFreshMeta (m : WprMeta)
  | putStockSignature (data : List (BitVec 8)) (size : Nat)
  | portMemFreeStock
  | portMemFreeFwsecCmd

/-- The operations of the driver code. -/
inductive Op where
  | rd (r : Reg)
  | logRd (rs : List Reg)
  | hal (c : Hal)
  | test (t : Test)
  | act (a : Act)
  | getFlag (f : SlotFlag) (i : Nat)
  | getWpr (b : WprBound) (i : Nat)
  | getGsp
  | tagAlloc (m : Memdesc)
  | launch (u : FlcnUcode) (sysmemAddrOfData : BitVec 64)

/-- The type of the answer. A launch answers with what the microcode leaves in the metadata page, the reads of a
log line with the value of each register; C does not fix the order in which they are read. -/
@[reducible] def Op.Ans : Op → Type
  | .rd _ => BitVec 32
  | .logRd _ => Reg → BitVec 32
  | .hal _ => NvStatus
  | .test _ => Bool
  | .act _ => Unit
  | .getFlag _ _ => Bool
  | .getWpr _ _ => BitVec 32
  | .getGsp => KernelGsp
  | .tagAlloc _ => NvStatus × Backing
  | .launch _ _ => WprMeta

/-- A function of the driver. -/
abbrev Driver (α : Type) := Prog Op Op.Ans α

end Cmp50Unlock.Stockflow
