import Cmp50Unlock.Lib.JsonText
import Cmp50Unlock.Verify.Lemmas.Probe

/-!
# The keys of the report are distinct
-/

namespace Cmp50Unlock.Verify

open Lib
open Lib.Json (Distinct)

/-! ## Scalars -/

@[simp] theorem distinct_textJson {s : String} : Distinct (textJson s) := .str

@[simp] theorem distinct_hexJson {w width : Nat} {x : BitVec w} : Distinct (hexJson width x) := .str

@[simp] theorem distinct_natJson {w : Nat} {x : BitVec w} : Distinct (natJson x) := .int

@[simp] theorem distinct_int {n : Int} : Distinct (.int n) := .int

@[simp] theorem distinct_bool {b : Bool} : Distinct (.bool b) := .bool

@[simp] theorem distinct_str {s : List Char} : Distinct (.str s) := .str

@[simp] theorem distinct_null : Distinct .null := .null

/-! ## Lists -/

variable {α : Type} {n : Nat}

theorem distinct_listed {result : ControlResult} {count : Nat} {items : Vector Json n}
    (h : ∀ v ∈ items.toList, Distinct v) : Distinct (.arr (listed result count items)) := by
  refine .arr fun v hv => ?_
  rw [listed] at hv
  split at hv
  next => exact h v (List.mem_of_mem_take hv)
  next => cases hv

theorem distinct_listed_map {result : ControlResult} {count : Nat} {items : Vector α n} {item : α → Json}
    (h : ∀ a, Distinct (item a)) : Distinct (.arr (listed result count (items.map item))) := by
  refine distinct_listed fun v hv => ?_
  rw [Vector.toList_map] at hv
  obtain ⟨a, -, rfl⟩ := List.mem_map.mp hv
  exact h a

theorem distinct_ofFn {item : Fin n → Json} (h : ∀ i, Distinct (item i)) :
    ∀ v ∈ (Vector.ofFn item).toList, Distinct v := by
  intro v hv
  rw [Vector.toList_ofFn] at hv
  obtain ⟨i, rfl⟩ := List.mem_ofFn.mp hv
  exact h i

/-! ## Items -/

theorem distinct_v1Item {name : String} {value : NvU8} {dpField : Bool} : Distinct (v1Item name value dpField) :=
  .obj (by simp [member]) (by simp [member])

theorem distinct_infoItem {names printSpeed : Bool} {item : Info} : Distinct (infoItem names printSpeed item) := by
  cases printSpeed
  · exact .obj (by simp [member]) (by simp [member])
  · exact .obj (by simp [member]) (by simp [member])

theorem distinct_gpuInfoItem {name : String} {item : Info} : Distinct (gpuInfoItem name item) :=
  .obj (by simp [member]) (by simp [member])

theorem distinct_grInfoItem {name : String} {item : Info} : Distinct (grInfoItem name item) :=
  .obj (by simp [member]) (by simp [member])

theorem distinct_contextBufferItem {i : Nat} {name : String} {result : ControlResult} {param : ContextProperties} :
    Distinct (contextBufferItem i name result param) :=
  .obj (by simp [member]) (by simp [member])

theorem distinct_falconItem {falcon : Falcon} : Distinct (falconItem falcon) :=
  .obj (by simp [member]) (by simp [member])

theorem distinct_engineItem {engineType : NvU32} : Distinct (engineItem engineType) :=
  .obj (by simp [member]) (by simp [member])

theorem distinct_deviceEntryItem {entry : DeviceEntry} : Distinct (deviceEntryItem entry) := by
  have hdata : Distinct (.arr (entry.engineData.toList.map (hexJson 8))) := by
    refine .arr fun v hv => ?_
    obtain ⟨x, -, rfl⟩ := List.mem_map.mp hv
    exact distinct_hexJson
  exact .obj (by simp [member]) (by simp [member, hdata])

/-! ## Sections -/

theorem distinct_v1Json {result : ControlResult} {params : IssueRateModifier} : Distinct (v1Json result params) := by
  have hvalues := @distinct_listed 9 result 9 _ (distinct_ofFn fun i : Fin 9 =>
    @distinct_v1Item v1Names[i.val] params.values[i.val] (i.val == 2))
  exact .obj (by simp [member, resultMembers]) (by simp [member, resultMembers, hvalues])

theorem distinct_infoListJson {command : NvU32} {result : ControlResult} {count : NvU32}
    {items : Vector Info issueRateMaxListSize} {v2Fields printSpeed : Bool} :
    Distinct (infoListJson command result count items v2Fields printSpeed) := by
  have hvalues := @distinct_listed_map _ _ result (safeCount count 0xff) items _
    fun item => @distinct_infoItem v2Fields printSpeed item
  exact .obj (by simp [member, resultMembers]) (by simp [member, resultMembers, hvalues])

theorem distinct_gpuInfoJson {result : ControlResult} {items : Vector Info gpuInfoMaxListSize} :
    Distinct (gpuInfoJson result items) := by
  have hvalues := @distinct_listed 4 result 4 _ (distinct_ofFn fun i : Fin 4 =>
    @distinct_gpuInfoItem gpuInfoNames[i.val] items[i.val])
  exact .obj (by simp [member, resultMembers]) (by simp [member, resultMembers, hvalues])

theorem distinct_capabilitiesJson {capabilities : NvU32} : Distinct (capabilitiesJson capabilities) :=
  .obj (by simp [member]) (by simp [member])

theorem distinct_grInfoJson {result : ControlResult} {items : GrInfo} : Distinct (grInfoJson result items) := by
  have hvalues := @distinct_listed 4 result 4 _ (distinct_ofFn fun i : Fin 4 =>
    @distinct_grInfoItem grInfoNames[i.val] items[i.val])
  have hcapabilities : Distinct (if rmOk result then capabilitiesJson (items.get 3).data else .null) := by
    split
    · exact distinct_capabilitiesJson
    · exact .null
  exact .obj (by simp [member, resultMembers]) (by simp [member, resultMembers, hvalues, hcapabilities])

theorem distinct_contextBuffersJson {buffers : Vector (ControlResult × ContextProperties) engineIdCount} :
    Distinct (contextBuffersJson buffers) := by
  have hentries := Distinct.arr (distinct_ofFn fun i : Fin engineIdCount =>
    @distinct_contextBufferItem i contextBufferNames[i.val] buffers[i.val].1 buffers[i.val].2)
  exact .obj (by simp [member]) (by simp [member, hentries])

theorem distinct_falconsJson {result : ControlResult} {params : ConstructedFalcons} :
    Distinct (falconsJson result params) := by
  have hfalcons := @distinct_listed_map _ _ result (safeCount params.numConstructedFalcons maxConstructedFalcons)
    params.table _ fun falcon => @distinct_falconItem falcon
  exact .obj (by simp [member, resultMembers]) (by simp [member, resultMembers, hfalcons])

theorem distinct_enginesJson {result : ControlResult} {params : Engines} : Distinct (enginesJson result params) := by
  have hengines := @distinct_listed_map _ _ result (safeCount params.engineCount maxEnginesListSize)
    params.engineList _ fun engineType => @distinct_engineItem engineType
  exact .obj (by simp [member, resultMembers]) (by simp [member, resultMembers, hengines])

theorem distinct_deviceInfoJson {result : ControlResult} {params : DeviceInfoTable} :
    Distinct (deviceInfoJson result params) := by
  have hentries := @distinct_listed_map _ _ result (safeCount params.numEntries deviceInfoMaxEntries)
    params.entries _ fun entry => @distinct_deviceEntryItem entry
  exact .obj (by simp [member, resultMembers]) (by simp [member, resultMembers, hentries])

theorem distinct_engineClassesJson {query : EngineClassQuery} : Distinct (engineClassesJson query) := by
  have hclasses := @distinct_listed_map _ _ query.result (safeCount query.numClasses engineClassCapacity)
    query.classes (hexJson 8) fun _ => distinct_hexJson
  exact .obj (by simp [member, resultMembers]) (by simp [member, resultMembers, hclasses])

/-! ## The report -/

theorem distinct_controlsJson {c : Controls} (h : c.Named) : Distinct (controlsJson c) := by
  rw [controlsJson_eq h]
  refine .obj (by simp [member]) ?_
  simp [member, distinct_v1Json, distinct_infoListJson, distinct_gpuInfoJson, distinct_grInfoJson,
    distinct_contextBuffersJson, distinct_falconsJson, distinct_enginesJson, distinct_deviceInfoJson,
    distinct_engineClassesJson]

theorem distinct_reportJson (deviceIndex : Int) {c : Controls} (h : c.Named) : Distinct (reportJson deviceIndex c) :=
  .obj (by simp [member]) (by simp [member, distinct_controlsJson h])

end Cmp50Unlock.Verify
