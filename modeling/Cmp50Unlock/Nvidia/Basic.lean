import Cmp50Unlock.IdleGovernor.Files

/-!
# The NVIDIA libraries

The governor reaches a GPU through two libraries: NVML for the readings, the clocks and the fans, NVAPI for the
P-state. Each has handles of its own. The functions here are programs that call the libraries.
-/

namespace Cmp50Unlock.Nvidia

open Lib
open IdleGovernor (GoError GPU hexDigits joinErrors)

/-- `uintptr` -/
abbrev Handle := BitVec 64

/-- An `int32` that a library returns; zero is success in both libraries. -/
abbrev Status := BitVec 32

def nvmlSuccess : Status := 0

def nvapiOK : Status := 0

def maxPhysicalGPUs : Nat := 64

/-- The fields of `pciInfo` that are read; `Domain` is filled in but never read. -/
structure PciInfo where
  domain : BitVec 32
  bus : BitVec 32
  deviceID : BitVec 32
  subsystemID : BitVec 32
  deriving DecidableEq

/-- What a function wrote through its pointer, with the status it returned. -/
structure Answer (α : Type) where
  status : Status
  value : α

/-- The handles and the count of `NvAPI_EnumPhysicalGPUs`. -/
structure Enumerated where
  handles : Vector Handle maxPhysicalGPUs
  count : BitVec 32

/-- The functions of the libraries that are called once they are initialized. -/
inductive LibOp where
  | mlCount
  | mlHandle (index : BitVec 32)
  | mlPCI (handle : Handle)
  | mlMemory (handle : Handle)
  | mlFans (handle : Handle)
  | mlUtil (handle : Handle)
  | mlTemperature (handle : Handle) (sensor : BitVec 32)
  | mlSetFan (handle : Handle) (fan percent : BitVec 32)
  | mlFanAuto (handle : Handle) (fan : BitVec 32)
  | mlResetClocks (handle : Handle)
  | mlSetClocks (handle : Handle) (minimum maximum : BitVec 32)
  | mlSetCoreOffset (handle : Handle) (offset : BitVec 32)
  | nvEnum
  | nvBus (handle : Handle)
  | nvPState (handle : Handle) (pstate zero : BitVec 32)
  deriving DecidableEq

@[reducible] def LibOp.Ans : LibOp → Type
  | .mlCount | .mlFans _ | .mlUtil _ | .mlTemperature _ _ | .nvBus _ => Answer (BitVec 32)
  | .mlHandle _ => Answer Handle
  | .mlPCI _ => Answer PciInfo
  | .mlMemory _ => Answer (BitVec 64)
  | .nvEnum => Answer Enumerated
  | _ => Status

abbrev Libs := Prog LibOp LibOp.Ans

/-- Call a function of a library. -/
def lib (o : LibOp) : Libs o.Ans := Prog.lift o

/-- `statusError` -/
def statusError (operation : String) (status : Status) : GoError :=
  .new s!"{operation} failed (0x{hexDigits 8 status.toNat})"

/-! ## Opening the GPUs -/

structure Device where
  info : GPU
  handle : Handle
  nvHandle : Handle
  fans : BitVec 32
  deriving DecidableEq

/-- The search for the NVAPI handle on a bus, among those that are left. -/
def findHandle (bus : BitVec 32) : List Handle → Libs Handle
  | [] => return 0
  | nvHandle :: nvHandles => do
      let r ← lib (.nvBus nvHandle)
      if r.status = nvapiOK ∧ r.value = bus then return nvHandle else findHandle bus nvHandles

/-- The part of an iteration of `enumerate` with everything that NVML says of the GPU. -/
def pairDevice (nvHandles : List Handle) (index : Nat) (handle : Handle) (pci : PciInfo) (memory : BitVec 64)
    (fans : BitVec 32) : Libs (Except GoError Device) := do
  let nvHandle ← findHandle pci.bus nvHandles
  if nvHandle = 0 then
    return .error (.new s!"NVAPI handle for NVIDIA GPU {index} bus {hexDigits 2 pci.bus.toNat} was not found")
  else return .ok ⟨⟨index, pci.deviceID >>> 16, pci.subsystemID, memory⟩, handle, nvHandle, fans⟩

/-- An iteration of `enumerate`. -/
def openDevice (nvHandles : List Handle) (index : Nat) : Libs (Except GoError Device) := do
  let handle ← lib (.mlHandle index)
  if handle.status ≠ nvmlSuccess then return .error (statusError "nvmlDeviceGetHandleByIndex_v2" handle.status)
  else
    let pci ← lib (.mlPCI handle.value)
    if pci.status ≠ nvmlSuccess then return .error (statusError "nvmlDeviceGetPciInfo_v3" pci.status)
    else
      let memory ← lib (.mlMemory handle.value)
      if memory.status ≠ nvmlSuccess then return .error (statusError "nvmlDeviceGetMemoryInfo" memory.status)
      else
        let fans ← lib (.mlFans handle.value)
        if fans.status ≠ nvmlSuccess then return .error (statusError "nvmlDeviceGetNumFans" fans.status)
        else pairDevice nvHandles index handle.value pci.value memory.value fans.value

/-- The loop of `enumerate` over the indices that are left. -/
def openDevices (nvHandles : List Handle) : List Nat → List Device → Libs (Except GoError (List Device))
  | [], devices => return .ok devices
  | index :: indices, devices => do
      match ← openDevice nvHandles index with
      | .error err => return .error err
      | .ok device => openDevices nvHandles indices (devices ++ [device])

/-- `enumerate`, with the devices it leaves in the `api`. -/
def enumerate : Libs (Except GoError (List Device)) := do
  let count ← lib .mlCount
  if count.status ≠ nvmlSuccess then return .error (statusError "nvmlDeviceGetCount_v2" count.status)
  else
    let nv ← lib .nvEnum
    if nv.status ≠ nvapiOK then return .error (statusError "NvAPI_EnumPhysicalGPUs" nv.status)
    else openDevices (nv.value.handles.toList.take nv.value.count.toNat) (List.range count.value.toNat) []

/-! ## The hardware interface -/

section
variable (devices : List Device)

/-- `GPUs` -/
def gpus : List GPU := devices.map Device.info

/-- The entry of `a.devices` for an index. -/
def device (index : Int) : Except GoError Device :=
  if h : index < 0 ∨ index ≥ devices.length then .error (.new s!"GPU index {index} is out of range")
  else .ok (devices.get ⟨index.toNat, by omega⟩)

def utilization (index : Int) : Libs (Except GoError (BitVec 32)) :=
  match device devices index with
  | .error err => return .error err
  | .ok device => do
      let r ← lib (.mlUtil device.handle)
      if r.status ≠ nvmlSuccess then return .error (statusError "nvmlDeviceGetUtilizationRates" r.status)
      else return .ok r.value

def temperature (index : Int) : Libs (Except GoError (BitVec 32)) :=
  match device devices index with
  | .error err => return .error err
  | .ok device => do
      let r ← lib (.mlTemperature device.handle 0)
      if r.status ≠ nvmlSuccess then return .error (statusError "nvmlDeviceGetTemperature" r.status)
      else return .ok r.value

/-- A function that sets something of a GPU with one call. -/
def setter (index : Int) (operation : String) (op : Device → LibOp) (status : (d : Device) → (op d).Ans → Status) :
    Libs (Option GoError) :=
  match device devices index with
  | .error err => return some err
  | .ok device => do
      let r ← lib (op device)
      if status device r ≠ 0 then return some (statusError operation (status device r)) else return none

def setPState (index pstate : Int) : Libs (Option GoError) :=
  setter devices index "NvAPI_GPU_SetForcePstate" (fun d =>
    .nvPState d.nvHandle (BitVec.ofInt 32 pstate) 0) fun _ r => r

def resetLockedClocks (index : Int) : Libs (Option GoError) :=
  setter devices index "nvmlDeviceResetGpuLockedClocks" (fun d => .mlResetClocks d.handle) fun _ r => r

def setLockedClocks (index : Int) (minimum maximum : BitVec 32) : Libs (Option GoError) :=
  setter devices index "nvmlDeviceSetGpuLockedClocks" (fun d => .mlSetClocks d.handle minimum maximum) fun _ r => r

def setCoreOffset (index : Int) (offset : BitVec 32) : Libs (Option GoError) :=
  setter devices index "nvmlDeviceSetGpcClkVfOffset" (fun d => .mlSetCoreOffset d.handle offset) fun _ r => r

/-- The fans that were set go back to automatic when one of them fails; their errors are dropped. -/
def rollbackFans (handle : Handle) : List Nat → Libs PUnit
  | [] => return ()
  | fan :: fans => do
      let _ ← lib (.mlFanAuto handle fan)
      rollbackFans handle fans

/-- The loop of `SetFan` over the fans that are left. -/
def setFans (handle : Handle) (percent : BitVec 32) : List Nat → Libs (Option GoError)
  | [] => return none
  | fan :: fans => do
      let status ← lib (.mlSetFan handle fan percent)
      if status ≠ nvmlSuccess then
        rollbackFans handle (List.range fan)
        return some (statusError "nvmlDeviceSetFanSpeed_v2" status)
      else setFans handle percent fans

def setFan (index : Int) (percent : BitVec 32) : Libs (Option GoError) :=
  match device devices index with
  | .error err => return some err
  | .ok device => setFans device.handle percent (List.range device.fans.toNat)

/-- The loop of `SetFanAuto` over the fans that are left, with the errors so far. -/
def setFansAuto (handle : Handle) : List Nat → Option GoError → Libs (Option GoError)
  | [], result => return result
  | fan :: fans, result => do
      let status ← lib (.mlFanAuto handle fan)
      setFansAuto handle fans (if status ≠ nvmlSuccess then
        joinErrors result (some (statusError "nvmlDeviceSetDefaultFanSpeed_v2" status)) else result)

def setFanAuto (index : Int) : Libs (Option GoError) :=
  match device devices index with
  | .error err => return some err
  | .ok device => setFansAuto device.handle (List.range device.fans.toNat) none

end

end Cmp50Unlock.Nvidia
