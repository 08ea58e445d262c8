import Cmp50Unlock.Verify.Printers

/-!
# The probe

`run_probe` sends its controls one after the other, and prints what they answered.
-/

namespace Cmp50Unlock.Verify

open Lib
open Lib.Print (printf get)

/-- The body for every number below `n`, in order. -/
def collect {α : Type} (body : Nat → Rm α) : (n : Nat) → Rm (Vector α n)
  | 0 => return #v[]
  | n + 1 => do
      let xs ← collect body n
      let x ← body n
      return xs.push x

section
variable {α : Type} (body : Nat → Rm α)

theorem collect_zero : collect body 0 = pure #v[] := rfl

theorem collect_succ (n : Nat) :
    collect body (n + 1) = collect body n >>= fun xs => body n >>= fun x => pure (xs.push x) :=
  rfl

end

attribute [irreducible] collect

def gpuInfoRequest : GpuInfo where
  listSize := 4
  list := Vector.ofFn fun i => #[⟨0x12, 0⟩, ⟨0x13, 0⟩, ⟨0x3c, 0⟩, ⟨0x34, 0⟩].getD i ⟨0, 0⟩

def grInfoRequest : GrInfo := #v[⟨0x1d, 0⟩, ⟨0x22, 0⟩, ⟨0x23, 0⟩, ⟨0x34, 0⟩]

def engineQueries : Vector (String × NvU32) 4 :=
  #v[("engine_classes_graphics", 0x01), ("engine_classes_nvdec0", 0x13), ("engine_classes_nvenc0", 0x1b),
    ("engine_classes_dpu", 0x28)]

/-- `query_engine_classes` -/
def queryEngineClasses (nvidiactlFd : Fd) (client subdevice : NvHandle) (name : String) (engineType : NvU32) :
    Rm EngineClassQuery := do
  let (result, params) ← rmControl nvidiactlFd client subdevice (.classList engineType)
  return ⟨name, engineType, if rmOk result then params.numClasses else 0, params.classes, result⟩

/-- What the controls of `run_probe` answered. -/
structure Controls where
  v1 : ControlResult × IssueRateModifier
  v2 : ControlResult × IssueRateModifierV2
  gpuInfo : ControlResult × GpuInfo
  grInfo : ControlResult × GrInfo
  falcons : ControlResult × ConstructedFalcons
  engines : ControlResult × Engines
  contextBuffers : Vector (ControlResult × ContextProperties) engineIdCount
  deviceInfo : ControlResult × DeviceInfoTable
  engineClasses : Vector EngineClassQuery 4

/-- The first half of `run_probe`. -/
def sendControls (nvidiactlFd : Fd) (client subdevice : NvHandle) : Rm Controls := do
  let v1 ← rmControl nvidiactlFd client subdevice .issueRate
  let v2 ← rmControl nvidiactlFd client subdevice .issueRateV2
  let gpuInfo ← rmControl nvidiactlFd client subdevice (.gpuInfo gpuInfoRequest)
  let grInfo ← rmControl nvidiactlFd client subdevice (.grInfo grInfoRequest)
  let falcons ← rmControl nvidiactlFd client subdevice .falcons
  let engines ← rmControl nvidiactlFd client subdevice .engines
  let contextBuffers ← collect
    (fun i => rmControl nvidiactlFd client subdevice (.contextProperties (BitVec.ofNat 32 i))) engineIdCount
  let deviceInfo ← rmControl nvidiactlFd client subdevice .deviceInfo
  let graphics ← queryEngineClasses nvidiactlFd client subdevice engineQueries[0].1 engineQueries[0].2
  let nvdec0 ← queryEngineClasses nvidiactlFd client subdevice engineQueries[1].1 engineQueries[1].2
  let nvenc0 ← queryEngineClasses nvidiactlFd client subdevice engineQueries[2].1 engineQueries[2].2
  let dpu ← queryEngineClasses nvidiactlFd client subdevice engineQueries[3].1 engineQueries[3].2
  return ⟨v1, v2, gpuInfo, grInfo, falcons, engines, contextBuffers, deviceInfo, #v[graphics, nvdec0, nvenc0, dpu]⟩

/-- The second half of `run_probe`. -/
def printReport (deviceIndex : Int) (c : Controls) : Print PUnit := do
  printf ["\x7b\n"]
  printf ["  \"mode\": \"NVIDIA RM GET controls only\",\n"]
  printf ["  \"device_index\": ", toString deviceIndex, ",\n"]
  printf ["  \"controls\": \x7b\n"]
  printV1 c.v1.1 c.v1.2
  printInfoList "v2" Control.issueRateV2.command c.v2.1 c.v2.2.listSize c.v2.2.list true false true
  printGpuInfo c.gpuInfo.1 c.gpuInfo.2.list
  printGrInfo c.grInfo.1 c.grInfo.2
  printContextBuffers (c.contextBuffers.map (·.1)) (c.contextBuffers.map (·.2))
  printConstructedFalcons c.falcons.1 c.falcons.2
  printEngineList c.engines.1 c.engines.2
  printDeviceInfoTable c.deviceInfo.1 c.deviceInfo.2
  Print.forRange 4 fun i => do
    let query ← get c.engineClasses i
    printEngineClasses query (i + 1 < 4)
  printf ["  \x7d\n"]
  printf ["\x7d\n"]

/-- `run_probe`: the exit status with what was printed, unless an array was read outside its bounds. -/
def runProbe (nvidiactlFd : Fd) (client subdevice : NvHandle) (deviceIndex : Int) : Rm (Option (Nat × String)) := do
  let c ← sendControls nvidiactlFd client subdevice
  let status := if rmOk c.v1.1 || rmOk c.v2.1 then 0 else 1
  return ((printReport deviceIndex c).run "").map fun (_, text) => (status, text)

end Cmp50Unlock.Verify
