import Cmp50Unlock.Lib.Strconv
import Cmp50Unlock.Verify.Probe

/-!
# The program around the probe

How `main` opens the device with the minor that it is given, finds the RM instances of that GPU, allocates its objects
and probes it. The pointers that a function writes through are values it is given and returns.
-/

namespace Cmp50Unlock.Verify

open Lib

/-! ## The argument -/

/-- `isspace` -/
def isSpace (c : Char) : Bool := c == ' ' || (9 ≤ c.toNat && c.toNat ≤ 13)

/-- `parse_device_index`: `strtol` has to read all of the text. -/
def parseDeviceIndex (text : String) : Option Int :=
  match parseInt 64 (text.toList.dropWhile isSpace) with
  | none => none
  | some value => if value < 0 ∨ value > 127 then none else some value

/-! ## Objects -/

def eprintf (text : String) (error : Option Errno) : Rm PUnit := rm (.eprintf text error)

/-- `alloc_client`, with `*client` -/
def allocClient (nvidiactlFd : Fd) (client : NvHandle) : Rm (Bool × NvHandle) := do
  let request ← rm (.allocClient nvidiactlFd)
  match request.error with
  | some e =>
      eprintf "RM client allocation ioctl failed: %s" (some e)
      return (false, client)
  | none =>
      if request.status ≠ 0 then
        eprintf s!"RM client allocation failed: 0x{fmtX 8 request.status}" none
        return (false, client)
      else return (true, request.value)

/-- `alloc_device`, with `*device` -/
def allocDevice (nvidiactlFd : Fd) (client : NvHandle) (deviceIndex : Int) (device : NvHandle) :
    Rm (Bool × NvHandle) := do
  let request ← rm (.allocDevice nvidiactlFd client (BitVec.ofInt 32 deviceIndex))
  match request.error with
  | some e =>
      eprintf "RM device allocation ioctl failed: %s" (some e)
      return (false, device)
  | none =>
      if request.status ≠ 0 then
        eprintf s!"RM device allocation failed: 0x{fmtX 8 request.status}" none
        return (false, device)
      else return (true, request.value)

/-- `alloc_subdevice`, with `*subdevice` -/
def allocSubdevice (nvidiactlFd : Fd) (client device : NvHandle) (subdeviceInstance : NvU32) (subdevice : NvHandle) :
    Rm (Bool × NvHandle) := do
  let request ← rm (.allocSubdevice nvidiactlFd client device subdeviceInstance)
  match request.error with
  | some e =>
      eprintf "RM subdevice allocation ioctl failed: %s" (some e)
      return (false, subdevice)
  | none =>
      if request.status ≠ 0 then
        eprintf s!"RM subdevice allocation failed: 0x{fmtX 8 request.status}" none
        return (false, subdevice)
      else return (true, request.value)

/-! ## The instances of a GPU -/

/-- `*device_instance` and `*subdevice_instance` -/
structure Instances where
  device : NvU32
  subdevice : NvU32
  deriving DecidableEq

/-- What is printed for a GPU that was found. -/
def mappingText (minor : Int) (card : CardInfo) (instances : Instances) : String :=
  s!"RM mapping: minor={minor} pci={fmtX 4 card.domain}:{fmtX 2 card.bus}:{fmtX 2 card.slot}.{fmtU card.function} " ++
    s!"device={fmtU instances.device} subdevice={fmtU instances.subdevice}"

/-- The loop of `resolve_device_instances`. -/
def resolveAmong (nvidiactlFd : Fd) (client : NvHandle) (minor : Int) (instances : Instances) :
    List CardInfo → Rm (Bool × Instances)
  | [] => do
      eprintf s!"No attached GPU matches minor {minor}" none
      return (false, instances)
  | card :: cards =>
      if card.valid = 0 ∨ card.minorNumber ≠ BitVec.ofInt 32 minor then
        resolveAmong nvidiactlFd client minor instances cards
      else do
        let (status, info) ← rmControl nvidiactlFd client client (.idInfo card.gpuId)
        if ¬ rmOk status then
          eprintf s!"RM GPU ID lookup failed: os={fmtD status.osError} rm=0x{fmtX 8 status.rmStatus}" none
          return (false, instances)
        else
          eprintf (mappingText minor card ⟨info.deviceInstance, info.subDeviceInstance⟩) none
          return (true, ⟨info.deviceInstance, info.subDeviceInstance⟩)

/-- `resolve_device_instances` -/
def resolveDeviceInstances (nvidiactlFd : Fd) (client : NvHandle) (minor : Int) (instances : Instances) :
    Rm (Bool × Instances) := do
  match ← rm (.cardInfo nvidiactlFd) with
  | .error e =>
      eprintf "NV_ESC_CARD_INFO failed: %s" (some e)
      return (false, instances)
  | .ok cards => resolveAmong nvidiactlFd client minor instances cards.toList

/-! ## `main` -/

/-- The exit status with what was printed on stdout, unless an array was read outside its bounds. -/
abbrev Outcome := Option (Nat × String)

/-- `goto cleanup` with `result` as it was set first. -/
def failed : Outcome := some (1, "")

/-- The part of `main` with both files open. -/
def probeDevice (nvidiactlFd nvidiaFd : Fd) (deviceIndex : Int) : Rm Outcome := do
  match ← rm (.registerFd nvidiaFd nvidiactlFd) with
  | some e =>
      eprintf "NV_ESC_REGISTER_FD failed: %s" (some e)
      return failed
  | none =>
      let (allocated, client) ← allocClient nvidiactlFd 0
      if ¬ allocated then return failed else
        let (resolved, instances) ← resolveDeviceInstances nvidiactlFd client deviceIndex ⟨0, 0⟩
        if ¬ resolved then return failed else
          let (allocated, device) ← allocDevice nvidiactlFd client instances.device.toInt 0
          if ¬ allocated then return failed else
            let (allocated, subdevice) ← allocSubdevice nvidiactlFd client device instances.subdevice 0
            if ¬ allocated then return failed else
              runProbe nvidiactlFd client subdevice deviceIndex

/-- The part of `main` with `/dev/nvidiactl` open. -/
def openDevice (nvidiactlFd : Fd) (deviceIndex : Int) : Rm Outcome := do
  match ← rm (.openFile s!"/dev/nvidia{deviceIndex}") with
  | .error e =>
      eprintf s!"Cannot open /dev/nvidia{deviceIndex}: %s" (some e)
      return failed
  | .ok nvidiaFd =>
      let result ← probeDevice nvidiactlFd nvidiaFd deviceIndex
      rm (.close nvidiaFd)
      return result

/-- `main` with its arguments after the name of the program. -/
def main (args : List String) : Rm Outcome := do
  match args.map parseDeviceIndex with
  | [some deviceIndex] =>
      match ← rm (.openFile "/dev/nvidiactl") with
      | .error e =>
          eprintf "Cannot open /dev/nvidiactl: %s" (some e)
          return failed
      | .ok nvidiactlFd =>
          let result ← openDevice nvidiactlFd deviceIndex
          rm (.close nvidiactlFd)
          return result
  | _ =>
      eprintf "Usage: %s NVIDIA_DEVICE_INDEX" none
      return some (2, "")

end Cmp50Unlock.Verify
