import Cmp50Unlock.Lib.Json
import Cmp50Unlock.Verify.Probe

/-!
# What the report says

The value that the report of the probe decodes to.
-/

namespace Cmp50Unlock.Verify

open Lib

/-! ## What RM answered -/

/-- `rm_control` on an answer. -/
def resultOf {α : Type} (r : Reply α) : ControlResult × α := (⟨r.error.elim 0 (·.val), r.status⟩, r.value)

def queryOf (answers : (c : Control) → Reply c.Params) (query : String × NvU32) : EngineClassQuery :=
  let (result, params) := resultOf (answers (.classList query.2))
  ⟨query.1, query.2, if rmOk result then params.numClasses else 0, params.classes, result⟩

/-- What `run_probe` prints when RM answers with `answers`. -/
def controlsOf (answers : (c : Control) → Reply c.Params) : Controls where
  v1 := resultOf (answers .issueRate)
  v2 := resultOf (answers .issueRateV2)
  gpuInfo := resultOf (answers (.gpuInfo gpuInfoRequest))
  grInfo := resultOf (answers (.grInfo grInfoRequest))
  falcons := resultOf (answers .falcons)
  engines := resultOf (answers .engines)
  contextBuffers := Vector.ofFn fun i => resultOf (answers (.contextProperties (BitVec.ofNat 32 i)))
  deviceInfo := resultOf (answers .deviceInfo)
  engineClasses := engineQueries.map (queryOf answers)

/-! ## Values -/

/-- A member of an object. -/
def member (name : String) (v : Json) : List Char × Json := (name.toList, v)

def textJson (s : String) : Json := .str s.toList

def hexJson {w : Nat} (width : Nat) (x : BitVec w) : Json := .str ("0x".toList ++ (fmtX width x).toList)

def natJson {w : Nat} (x : BitVec w) : Json := .int x.toNat

def resultMembers (command : NvU32) (result : ControlResult) : List (List Char × Json) :=
  [member "command" (hexJson 8 command), member "os_error" (.int result.osError.toInt),
    member "rm_status" (hexJson 8 result.rmStatus)]

/-- The entries of an array of RM that are listed: none when the control failed. -/
def listed {α : Type} {n : Nat} (result : ControlResult) (count : Nat) (items : Vector α n) : List α :=
  if rmOk result then items.toList.take count else []

theorem safeCount_le (count : NvU32) (capacity : Nat) : safeCount count capacity ≤ capacity := by
  rw [safeCount]
  split <;> omega

theorem toList_eq {α : Type} (xs : Vector α 4) : xs.toList = [xs.get 0, xs.get 1, xs.get 2, xs.get 3] := by
  apply List.ext_getElem
  · simp
  · intro i hi _
    have hi4 : i < 4 := by simpa using hi
    rcases i with _ | _ | _ | _ | i
    · rfl
    · rfl
    · rfl
    · rfl
    · omega

/-! ## Names -/

def speedText (value : NvU32) (dpField : Bool) : String :=
  if dpField then if value = 0 then "full" else if value = 1 then "reduced" else "unknown"
  else speedNames[value.toNat]?.getD "unknown"

def nameText {n : Nat} (names : Vector String n) (index : NvU32) : String := names[index.toNat]?.getD "UNKNOWN"

/-! ## Sections -/

def v1Item (name : String) (value : NvU8) (dpField : Bool) : Json :=
  .obj [member "name" (textJson name), member "raw" (natJson value),
    member "speed" (textJson (speedText (value.setWidth 32) dpField))]

def v1Json (result : ControlResult) (params : IssueRateModifier) : Json :=
  .obj (resultMembers Control.issueRate.command result ++ [member "values" (.arr (listed result 9
    (Vector.ofFn fun i : Fin 9 => v1Item v1Names[i] params.values[i] (i.val == 2))))])

def infoItem (names : Bool) (printSpeed : Bool) (item : Info) : Json :=
  .obj ([member "index" (natJson item.index),
      member "name" (textJson (if names then nameText v2Names item.index else nameText throttleNames item.index)),
      member "raw" (natJson item.data)] ++
    if printSpeed then [member "speed" (textJson (speedText item.data (item.index = 1)))] else [])

def infoListJson (command : NvU32) (result : ControlResult) (count : NvU32) (items : Vector Info issueRateMaxListSize)
    (v2Fields printSpeed : Bool) : Json :=
  .obj (resultMembers command result ++
    [member "values" (.arr (listed result (safeCount count 0xff) (items.map (infoItem v2Fields printSpeed))))])

def gpuInfoItem (name : String) (item : Info) : Json :=
  .obj [member "index" (natJson item.index), member "name" (textJson name), member "raw" (natJson item.data),
    member "set" (.bool (item.data ≠ 0))]

def gpuInfoJson (result : ControlResult) (items : Vector Info gpuInfoMaxListSize) : Json :=
  .obj (resultMembers 0x20800102 result ++ [member "values" (.arr (listed result 4
    (Vector.ofFn fun i : Fin 4 => gpuInfoItem gpuInfoNames[i] items[i.val])))])

def grInfoItem (name : String) (item : Info) : Json :=
  .obj [member "index" (natJson item.index), member "name" (textJson name), member "raw" (natJson item.data)]

def capabilitiesJson (capabilities : NvU32) : Json :=
  .obj [member "2d" (.bool (capability capabilities 0x1)), member "3d" (.bool (capability capabilities 0x2)),
    member "compute" (.bool (capability capabilities 0x4)), member "i2m" (.bool (capability capabilities 0x8))]

def grInfoJson (result : ControlResult) (items : GrInfo) : Json :=
  .obj (resultMembers 0x20801201 result ++ [member "values" (.arr (listed result 4
      (Vector.ofFn fun i : Fin 4 => grInfoItem grInfoNames[i] items[i]))),
    member "gfx_capabilities" (if rmOk result then capabilitiesJson (items.get 3).data else .null)])

def contextBufferItem (i : Nat) (name : String) (result : ControlResult) (param : ContextProperties) : Json :=
  .obj [member "engine_id" (natJson (BitVec.ofNat 32 i)), member "name" (textJson name),
    member "os_error" (.int result.osError.toInt), member "rm_status" (hexJson 8 result.rmStatus),
    member "alignment" (natJson param.alignment), member "size" (natJson param.size),
    member "populated" (.bool (param.infoPopulated ≠ 0))]

def contextBuffersJson (buffers : Vector (ControlResult × ContextProperties) engineIdCount) : Json :=
  .obj [member "command" (hexJson 8 (0x2080122d : NvU32)),
    member "entries" (.arr (Vector.ofFn fun i : Fin engineIdCount =>
      contextBufferItem i contextBufferNames[i] buffers[i].1 buffers[i].2).toList)]

def falconItem (falcon : Falcon) : Json :=
  .obj [member "eng_desc" (hexJson 8 falcon.engDesc), member "class_id" (hexJson 6 (falcon.engDesc >>> 8)),
    member "instance" (natJson (falcon.engDesc &&& 0xff)), member "ctx_attr" (hexJson 8 falcon.ctxAttr),
    member "ctx_buffer_size" (natJson falcon.ctxBufferSize), member "addr_space_list" (hexJson 8 falcon.addrSpaceList),
    member "register_base" (hexJson 8 falcon.registerBase)]

def falconsJson (result : ControlResult) (params : ConstructedFalcons) : Json :=
  .obj (resultMembers Control.falcons.command result ++ [member "num_falcons" (natJson params.numConstructedFalcons),
    member "falcons" (.arr (listed result (safeCount params.numConstructedFalcons maxConstructedFalcons)
      (params.table.map falconItem)))])

def engineItem (engineType : NvU32) : Json :=
  .obj [member "type" (hexJson 8 engineType), member "name" (textJson (engineTypeName engineType))]

def enginesJson (result : ControlResult) (params : Engines) : Json :=
  .obj (resultMembers Control.engines.command result ++ [member "engine_count" (natJson params.engineCount),
    member "engines" (.arr (listed result (safeCount params.engineCount maxEnginesListSize)
      (params.engineList.map engineItem)))])

def deviceEntryItem (entry : DeviceEntry) : Json :=
  .obj [member "engine_name_hex" (.str (entry.engineName.toList.flatMap fun byte => (fmtX 2 byte).toList)),
    member "num_pbdmas" (natJson entry.numPbdmas),
    member "engine_data" (.arr (entry.engineData.toList.map (hexJson 8)))]

def deviceInfoJson (result : ControlResult) (params : DeviceInfoTable) : Json :=
  .obj (resultMembers Control.deviceInfo.command result ++ [member "base_index" (natJson params.baseIndex),
    member "num_entries" (natJson params.numEntries), member "more" (.bool (params.more ≠ 0)),
    member "entries" (.arr (listed result (safeCount params.numEntries deviceInfoMaxEntries)
      (params.entries.map deviceEntryItem)))])

def engineClassesJson (query : EngineClassQuery) : Json :=
  .obj (resultMembers 0x20800124 query.result ++ [member "engine_type" (hexJson 8 query.engineType),
    member "capacity" (.int engineClassCapacity), member "num_classes" (natJson query.numClasses),
    member "classes" (.arr (listed query.result (safeCount query.numClasses engineClassCapacity)
      (query.classes.map (hexJson 8))))])

def controlsJson (c : Controls) : Json :=
  .obj ([member "v1" (v1Json c.v1.1 c.v1.2),
    member "v2" (infoListJson Control.issueRateV2.command c.v2.1 c.v2.2.listSize c.v2.2.list true false),
    member "gpu_info" (gpuInfoJson c.gpuInfo.1 c.gpuInfo.2.list), member "gr_info" (grInfoJson c.grInfo.1 c.grInfo.2),
    member "gr_context_buffers" (contextBuffersJson c.contextBuffers),
    member "constructed_falcons" (falconsJson c.falcons.1 c.falcons.2),
    member "engines_v2" (enginesJson c.engines.1 c.engines.2),
    member "fifo_device_info" (deviceInfoJson c.deviceInfo.1 c.deviceInfo.2)] ++
    c.engineClasses.toList.map fun query => member query.name (engineClassesJson query))

def reportJson (deviceIndex : Int) (c : Controls) : Json :=
  .obj [member "mode" (textJson "NVIDIA RM GET controls only"), member "device_index" (.int deviceIndex),
    member "controls" (controlsJson c)]

end Cmp50Unlock.Verify
