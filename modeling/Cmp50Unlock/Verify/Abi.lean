import Cmp50Unlock.Lib.Print
import Cmp50Unlock.Lib.Prog

/-!
# The RM interface

The parameters of the RM controls that the probe sends, with the fields that are read, and the system calls of the
probe with what they answer.
-/

namespace Cmp50Unlock.Verify

open Lib

abbrev NvU8 := BitVec 8

abbrev NvU32 := BitVec 32

abbrev NvHandle := NvU32

/-- A file descriptor that is open. -/
abbrev Fd := Nat

/-- `errno` after a call that failed. -/
abbrev Errno := { e : BitVec 32 // e ≠ 0 }

/-! ## Parameters of the controls -/

/-- `NVXXXX_CTRL_XXX_INFO` -/
structure Info where
  index : NvU32
  data : NvU32
  deriving DecidableEq

structure IssueRateModifier where
  imla0 : NvU8
  fmla16 : NvU8
  dp : NvU8
  fmla32 : NvU8
  ffma : NvU8
  imla1 : NvU8
  imla2 : NvU8
  imla3 : NvU8
  imla4 : NvU8

/-- `NV2080_CTRL_GR_SM_ISSUE_RATE_MODIFIER_V2_MAX_LIST_SIZE` -/
def issueRateMaxListSize : Nat := 0xff

structure IssueRateModifierV2 where
  listSize : NvU32
  list : Vector Info issueRateMaxListSize

def gpuInfoMaxListSize : Nat := 72

/-- The entries that are asked for, which RM fills in. -/
structure GpuInfo where
  listSize : NvU32
  list : Vector Info gpuInfoMaxListSize
  deriving DecidableEq

/-- The list is in memory of the probe. -/
abbrev GrInfo := Vector Info 4

structure Falcon where
  engDesc : NvU32
  ctxAttr : NvU32
  ctxBufferSize : NvU32
  addrSpaceList : NvU32
  registerBase : NvU32

def maxConstructedFalcons : Nat := 0x40

structure ConstructedFalcons where
  numConstructedFalcons : NvU32
  table : Vector Falcon maxConstructedFalcons

def maxEnginesListSize : Nat := 0x54

structure Engines where
  engineCount : NvU32
  engineList : Vector NvU32 maxEnginesListSize

/-- `NV0080_CTRL_FIFO_GET_ENGINE_CONTEXT_PROPERTIES_ENGINE_ID_COUNT` -/
def engineIdCount : Nat := 0x1a

structure ContextProperties where
  alignment : NvU32
  size : NvU32
  infoPopulated : NvU8

structure DeviceEntry where
  engineData : Vector NvU32 16
  numPbdmas : NvU32
  engineName : Vector NvU8 16

def deviceInfoMaxEntries : Nat := 32

structure DeviceInfoTable where
  baseIndex : NvU32
  numEntries : NvU32
  more : NvU8
  entries : Vector DeviceEntry deviceInfoMaxEntries

/-- `CMP_ENGINE_CLASS_CAPACITY` -/
def engineClassCapacity : Nat := 200

/-- The list is in memory of the probe. -/
structure ClassList where
  numClasses : NvU32
  classes : Vector NvU32 engineClassCapacity

/-- `NV0000_CTRL_GPU_GET_ID_INFO_V2_PARAMS` -/
structure IdInfo where
  deviceInstance : NvU32
  subDeviceInstance : NvU32
  deriving DecidableEq

/-- The controls, with the fields of their parameters that the probe sets. -/
inductive Control where
  | idInfo (gpuId : NvU32)
  | issueRate
  | issueRateV2
  | gpuInfo (request : GpuInfo)
  | grInfo (request : GrInfo)
  | falcons
  | engines
  | contextProperties (engineId : NvU32)
  | deviceInfo
  | classList (engineType : NvU32)
  deriving DecidableEq

@[reducible] def Control.Params : Control → Type
  | .idInfo _ => IdInfo
  | .issueRate => IssueRateModifier
  | .issueRateV2 => IssueRateModifierV2
  | .gpuInfo _ => GpuInfo
  | .grInfo _ => GrInfo
  | .falcons => ConstructedFalcons
  | .engines => Engines
  | .contextProperties _ => ContextProperties
  | .deviceInfo => DeviceInfoTable
  | .classList _ => ClassList

/-- `command` of a control -/
def Control.command : Control → NvU32
  | .idInfo _ => 0x205
  | .issueRate => 0x20801230
  | .issueRateV2 => 0x2080123c
  | .gpuInfo _ => 0x20800102
  | .grInfo _ => 0x20801201
  | .falcons => 0x208001b0
  | .engines => 0x20800170
  | .contextProperties _ => 0x2080122d
  | .deviceInfo => 0x20801112
  | .classList _ => 0x20800124

/-! ## System calls -/

/-- What an `ioctl` of RM leaves: its `errno` if it failed, and the fields of the request after it. -/
structure Reply (α : Type) where
  error : Option Errno
  status : NvU32
  value : α

/-- The fields of `nv_ioctl_card_info_t` that are read. -/
structure CardInfo where
  valid : NvU8
  domain : NvU32
  bus : NvU8
  slot : NvU8
  function : NvU8
  gpuId : NvU32
  minorNumber : NvU32

inductive RmOp where
  | openFile (path : String)
  | close (fd : Fd)
  | registerFd (nvidiaFd nvidiactlFd : Fd)
  | cardInfo (nvidiactlFd : Fd)
  | allocClient (nvidiactlFd : Fd)
  | allocDevice (nvidiactlFd : Fd) (client : NvHandle) (deviceId : NvU32)
  | allocSubdevice (nvidiactlFd : Fd) (client device : NvHandle) (subDeviceId : NvU32)
  | control (nvidiactlFd : Fd) (client object : NvHandle) (c : Control)
  | eprintf (text : String) (error : Option Errno)

@[reducible] def RmOp.Ans : RmOp → Type
  | .openFile _ => Except Errno Fd
  | .close _ | .eprintf _ _ => PUnit
  | .registerFd _ _ => Option Errno
  | .cardInfo _ => Except Errno (Vector CardInfo 128)
  | .allocClient _ | .allocDevice _ _ _ | .allocSubdevice _ _ _ _ => Reply NvHandle
  | .control _ _ _ c => Reply c.Params

abbrev Rm := Prog RmOp RmOp.Ans

def rm (o : RmOp) : Rm o.Ans := Prog.lift o

structure ControlResult where
  osError : BitVec 32
  rmStatus : NvU32
  deriving DecidableEq

def rmOk (result : ControlResult) : Bool := result.osError == 0 && result.rmStatus == 0

/-- `rm_control`, with the parameters after the call -/
def rmControl (nvidiactlFd : Fd) (client subdevice : NvHandle) (c : Control) : Rm (ControlResult × c.Params) := do
  let r ← rm (.control nvidiactlFd client subdevice c)
  return (⟨r.error.elim 0 (·.val), r.status⟩, r.value)

end Cmp50Unlock.Verify
