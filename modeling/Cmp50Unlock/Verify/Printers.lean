import Cmp50Unlock.Verify.Abi

/-!
# The report of the probe

The functions that print the report. A read of an array outside its bounds has no result.
-/

namespace Cmp50Unlock.Verify

open Lib
open Lib.Print (printf get forRange when)

/-! ## Conversions -/

/-- `%u` -/
def fmtU {w : Nat} (x : BitVec w) : String := toString x.toNat

/-- `%d` -/
def fmtD {w : Nat} (x : BitVec w) : String := toString x.toInt

/-- `%0*x` with the width `width` -/
def fmtX {w : Nat} (width : Nat) (x : BitVec w) : String :=
  String.ofList (List.leftpad width '0' (Nat.toDigits 16 x.toNat))

def fmtBool (b : Bool) : String := if b then "true" else "false"

/-- What is printed before entry `i` of a list. -/
def separator (i : Nat) (sep : String) : String := if i = 0 then "" else sep

/-! ## Names -/

def v1Names : Vector String 9 :=
  #v["IMLA0", "FMLA16", "DP", "FMLA32", "FFMA", "IMLA1", "IMLA2", "IMLA3", "IMLA4"]

def v2Names : Vector String 13 :=
  #v["FMLA16", "DP", "FMLA32", "FFMA", "IMLA0", "IMLA1", "IMLA2", "IMLA3", "IMLA4", "FP16", "FP32", "DFMA", "DMLA"]

def throttleNames : Vector String 2 := #v["MASK", "CREDIT"]

def gpuInfoNames : Vector String 4 := #v["NETLIST_REV0", "NETLIST_REV1", "CMP_SKU", "DISPLAY_ENABLED"]

def grInfoNames : Vector String 4 := #v["GPU_CORE_COUNT", "RT_CORE_COUNT", "TENSOR_CORE_COUNT", "GFX_CAPABILITIES"]

def contextBufferNames : Vector String engineIdCount :=
  #v["GRAPHICS", "VLD", "VIDEO", "MPEG", "CAPTURE", "DISPLAY", "ENCRYPTION", "POSTPROCESS", "GRAPHICS_ZCULL",
    "GRAPHICS_PM", "COMPUTE_PREEMPT", "GRAPHICS_PREEMPT", "GRAPHICS_SPILL", "GRAPHICS_PAGEPOOL", "GRAPHICS_BETACB",
    "GRAPHICS_RTV", "GRAPHICS_PATCH", "GRAPHICS_BUNDLE_CB", "GRAPHICS_PAGEPOOL_GLOBAL", "GRAPHICS_ATTRIBUTE_CB",
    "GRAPHICS_RTV_CB_GLOBAL", "GRAPHICS_GFXP_POOL", "GRAPHICS_GFXP_CTRL_BLK", "GRAPHICS_FECS_EVENT",
    "GRAPHICS_PRIV_ACCESS_MAP", "GRAPHICS_SETUP"]

def speedNames : Vector String 7 := #v["full", "1/2", "1/4", "1/8", "1/16", "1/32", "1/64"]

def speedName (value : NvU32) (dpField : Bool) : Print String :=
  if dpField then return if value = 0 then "full" else if value = 1 then "reduced" else "unknown"
  else if value.toNat < 7 then get speedNames value.toNat else return "unknown"

def engineTypeName (engineType : NvU32) : String :=
  if engineType = 0x01 then "GRAPHICS"
  else if engineType = 0x13 then "NVDEC0"
  else if engineType = 0x1b then "NVENC0"
  else if engineType = 0x28 then "DPU"
  else "OTHER"

/-- A count that is not larger than the array it counts. -/
def safeCount (count : NvU32) (capacity : Nat) : Nat := if count.toNat > capacity then capacity else count.toNat

/-! ## Sections of the report -/

def printResultHeader (name : String) (command : NvU32) (result : ControlResult) : Print PUnit := do
  printf ["    \"", name, "\": \x7b\n"]
  printf ["      \"command\": \"0x", fmtX 8 command, "\",\n"]
  printf ["      \"os_error\": ", fmtD result.osError, ",\n"]
  printf ["      \"rm_status\": \"0x", fmtX 8 result.rmStatus, "\",\n"]

def IssueRateModifier.values (params : IssueRateModifier) : Vector NvU8 9 :=
  #v[params.imla0, params.fmla16, params.dp, params.fmla32, params.ffma, params.imla1, params.imla2, params.imla3,
    params.imla4]

def printV1 (result : ControlResult) (params : IssueRateModifier) : Print PUnit := do
  let values := params.values
  printResultHeader "v1" Control.issueRate.command result
  printf ["      \"values\": ["]
  when (rmOk result) do
    forRange 9 fun i => do
      let name ← get v1Names i
      let value ← get values i
      let speed ← speedName (value.setWidth 32) (i == 2)
      printf [separator i ",", "\n        \x7b\"name\": \"", name, "\", \"raw\": ", fmtU value,
        ", \"speed\": \"", speed, "\"\x7d"]
    printf ["\n      "]
  printf ["]", "\n    \x7d,\n"]

/-- The name of an entry: `UNKNOWN` when the index is not in the table. -/
def nameAt {n : Nat} (names : Vector String n) (index : NvU32) : Print String :=
  if index.toNat < n then get names index.toNat else return "UNKNOWN"

def printInfoList (name : String) (command : NvU32) (result : ControlResult) (count : NvU32)
    (items : Vector Info issueRateMaxListSize) (v2Fields printSpeed trailingComma : Bool) : Print PUnit := do
  printResultHeader name command result
  printf ["      \"values\": ["]
  when (rmOk result) do
    let count := safeCount count 0xff
    forRange count fun i => do
      let item ← get items i
      let field ← (if v2Fields then nameAt v2Names item.index else nameAt throttleNames item.index)
      printf [separator i ",", "\n        \x7b\"index\": ", fmtU item.index, ", \"name\": \"", field, "\", \"raw\": ",
        fmtU item.data]
      when printSpeed do
        let speed ← speedName item.data (item.index = 1)
        printf [", \"speed\": \"", speed, "\""]
      printf ["\x7d"]
    when (count ≠ 0) <| printf ["\n      "]
  printf ["]", "\n    \x7d", if trailingComma then "," else "", "\n"]

def printGpuInfo (result : ControlResult) (items : Vector Info gpuInfoMaxListSize) : Print PUnit := do
  printResultHeader "gpu_info" 0x20800102 result
  printf ["      \"values\": ["]
  when (rmOk result) do
    forRange 4 fun i => do
      let item ← get items i
      let name ← get gpuInfoNames i
      printf [separator i ",", "\n        \x7b\"index\": ", fmtU item.index, ", \"name\": \"", name, "\", \"raw\": ",
        fmtU item.data, ", \"set\": ", fmtBool (item.data ≠ 0), "\x7d"]
    printf ["\n      "]
  printf ["]", "\n    \x7d,\n"]

/-- A bit of the capabilities. -/
def capability (capabilities bit : NvU32) : Bool := capabilities &&& bit ≠ 0

def printGrInfo (result : ControlResult) (items : GrInfo) : Print PUnit := do
  let capabilities := (← get items 3).data
  printResultHeader "gr_info" 0x20801201 result
  printf ["      \"values\": ["]
  when (rmOk result) do
    forRange 4 fun i => do
      let item ← get items i
      let name ← get grInfoNames i
      printf [separator i ",", "\n        \x7b\"index\": ", fmtU item.index, ", \"name\": \"", name, "\", \"raw\": ",
        fmtU item.data, "\x7d"]
    printf ["\n      "]
  printf ["]", ",\n"]
  (if rmOk result then
    printf ["      \"gfx_capabilities\": \x7b\"2d\": ", fmtBool (capability capabilities 0x1), ", \"3d\": ",
      fmtBool (capability capabilities 0x2), ", \"compute\": ", fmtBool (capability capabilities 0x4), ", \"i2m\": ",
      fmtBool (capability capabilities 0x8), "\x7d\n"]
  else
    printf ["      \"gfx_capabilities\": null\n"])
  printf ["    \x7d,\n"]

def printContextBuffers (results : Vector ControlResult engineIdCount)
    (params : Vector ContextProperties engineIdCount) :
    Print PUnit := do
  printf ["    \"", "gr_context_buffers", "\": \x7b\n"]
  printf ["      \"command\": \"0x", fmtX 8 (0x2080122d : NvU32), "\",\n"]
  printf ["      \"entries\": ["]
  forRange engineIdCount fun i => do
    let name ← get contextBufferNames i
    let result ← get results i
    let param ← get params i
    printf [separator i ",", "\n        \x7b\"engine_id\": ", fmtU (BitVec.ofNat 32 i), ", \"name\": \"", name,
      "\", \"os_error\": ", fmtD result.osError, ", \"rm_status\": \"0x", fmtX 8 result.rmStatus, "\", \"alignment\": ",
      fmtU param.alignment, ", \"size\": ", fmtU param.size, ", \"populated\": ", fmtBool (param.infoPopulated ≠ 0),
      "\x7d"]
  printf ["\n      ", "]", "\n    \x7d,\n"]

/-- `EngineClassQuery` -/
structure EngineClassQuery where
  name : String
  engineType : NvU32
  numClasses : NvU32
  classes : Vector NvU32 engineClassCapacity
  result : ControlResult

def printEngineClasses (query : EngineClassQuery) (trailingComma : Bool) : Print PUnit := do
  printResultHeader query.name 0x20800124 query.result
  printf ["      \"engine_type\": \"0x", fmtX 8 query.engineType, "\",\n"]
  printf ["      \"capacity\": ", fmtU (BitVec.ofNat 32 engineClassCapacity), ",\n"]
  printf ["      \"num_classes\": ", fmtU query.numClasses, ",\n"]
  printf ["      \"classes\": ["]
  when (rmOk query.result) do
    forRange (safeCount query.numClasses engineClassCapacity) fun i => do
      let c ← get query.classes i
      printf [separator i ", ", "\"0x", fmtX 8 c, "\""]
  printf ["]", "\n    \x7d", if trailingComma then "," else "", "\n"]

def printConstructedFalcons (result : ControlResult) (params : ConstructedFalcons) : Print PUnit := do
  printResultHeader "constructed_falcons" Control.falcons.command result
  printf ["      \"num_falcons\": ", fmtU params.numConstructedFalcons, ",\n"]
  printf ["      \"falcons\": ["]
  when (rmOk result) do
    let count := safeCount params.numConstructedFalcons maxConstructedFalcons
    forRange count fun i => do
      let falcon ← get params.table i
      printf [separator i ",", "\n        \x7b\"eng_desc\": \"0x", fmtX 8 falcon.engDesc, "\", \"class_id\": \"0x",
        fmtX 6 (falcon.engDesc >>> 8), "\", \"instance\": ", fmtU (falcon.engDesc &&& 0xff), ", \"ctx_attr\": \"0x",
        fmtX 8 falcon.ctxAttr, "\", \"ctx_buffer_size\": ", fmtU falcon.ctxBufferSize, ", \"addr_space_list\": \"0x",
        fmtX 8 falcon.addrSpaceList, "\", \"register_base\": \"0x", fmtX 8 falcon.registerBase, "\"\x7d"]
    when (count ≠ 0) <| printf ["\n      "]
  printf ["]", "\n    \x7d,\n"]

def printEngineList (result : ControlResult) (params : Engines) : Print PUnit := do
  printResultHeader "engines_v2" Control.engines.command result
  printf ["      \"engine_count\": ", fmtU params.engineCount, ",\n"]
  printf ["      \"engines\": ["]
  when (rmOk result) do
    let count := safeCount params.engineCount maxEnginesListSize
    forRange count fun i => do
      let engineType ← get params.engineList i
      printf [separator i ",", "\n        \x7b\"type\": \"0x", fmtX 8 engineType, "\", \"name\": \"",
        engineTypeName engineType, "\"\x7d"]
    when (count ≠ 0) <| printf ["\n      "]
  printf ["]", "\n    \x7d,\n"]

def printDeviceInfoTable (result : ControlResult) (params : DeviceInfoTable) : Print PUnit := do
  printResultHeader "fifo_device_info" Control.deviceInfo.command result
  printf ["      \"base_index\": ", fmtU params.baseIndex, ",\n"]
  printf ["      \"num_entries\": ", fmtU params.numEntries, ",\n"]
  printf ["      \"more\": ", fmtBool (params.more ≠ 0), ",\n"]
  printf ["      \"entries\": ["]
  when (rmOk result) do
    let count := safeCount params.numEntries deviceInfoMaxEntries
    forRange count fun i => do
      let entry ← get params.entries i
      printf [separator i ",", "\n        \x7b\"engine_name_hex\": \""]
      forRange 16 fun j => do
        let byte ← get entry.engineName j
        printf [fmtX 2 byte]
      printf ["\", \"num_pbdmas\": ", fmtU entry.numPbdmas, ", \"engine_data\": ["]
      forRange 16 fun j => do
        let data ← get entry.engineData j
        printf [separator j ", ", "\"0x", fmtX 8 data, "\""]
      printf ["]", "\x7d"]
    when (count ≠ 0) <| printf ["\n      "]
  printf ["]", "\n    \x7d,\n"]

end Cmp50Unlock.Verify
