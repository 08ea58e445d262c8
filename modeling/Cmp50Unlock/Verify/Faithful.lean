import Cmp50Unlock.Lib.JsonText
import Cmp50Unlock.Verify.Lemmas.Probe

/-!
# What the report lists

The lists of the report, as the answers of RM give them: the entries that were returned if the control succeeded, as
many as were counted and fit into the array, and none if it failed.
-/

namespace Cmp50Unlock.Verify

open Lib

/-! ## The lists -/

instance {α : Type} (r : Reply α) : Decidable r.Succeeded := inferInstanceAs (Decidable (_ ∧ _))

/-- What a control returned: nothing when it failed. -/
def entriesOf {α : Type} (r : Reply α) (entries : α → List Json) : List Json :=
  if r.Succeeded then entries r.value else []

/-- The first `count` entries of an array. -/
def counted {α : Type} {n : Nat} (items : Vector α n) (count : NvU32) (item : α → Json) : List Json :=
  (items.toList.take (min count.toNat n)).map item

def v1Entries (params : IssueRateModifier) : List Json :=
  List.ofFn fun i : Fin 9 => v1Item (v1Names.get i) (params.values.get i) (i.val == 2)

def gpuInfoEntries (params : GpuInfo) : List Json :=
  List.ofFn fun i : Fin 4 => gpuInfoItem (gpuInfoNames.get i) (params.list.get (i.castLE (by decide)))

def grInfoEntries (params : GrInfo) : List Json :=
  List.ofFn fun i : Fin 4 => grInfoItem (grInfoNames.get i) (params.get i)

/-- A context buffer is listed with the status of its own control. -/
def contextBufferEntry (answers : Answers) (i : Fin engineIdCount) : Json :=
  let r := answers (.contextProperties (BitVec.ofNat 32 i))
  contextBufferItem i (contextBufferNames.get i) ⟨r.error.elim 0 (·.val), r.status⟩ r.value

/-- A field of a control in the report. -/
def controlField (report : Json) (control key : String) : Except PyError Json := do
  subscript (← subscript (← subscript report "controls") control) key

/-- Every list of the report is what RM answered. -/
structure Faithful (answers : Answers) (report : Json) : Prop where
  v1 : controlField report "v1" "values" = .ok (.arr (entriesOf (answers .issueRate) v1Entries))
  v2 : controlField report "v2" "values" = .ok (.arr (entriesOf (answers .issueRateV2) fun params =>
    counted params.list params.listSize (infoItem true false)))
  gpuInfo : controlField report "gpu_info" "values" = .ok (.arr (entriesOf answers.gpuInfo gpuInfoEntries))
  grInfo : controlField report "gr_info" "values" = .ok (.arr (entriesOf answers.grInfo grInfoEntries))
  contextBuffers : controlField report "gr_context_buffers" "entries" =
    .ok (.arr (List.ofFn (contextBufferEntry answers)))
  falcons : controlField report "constructed_falcons" "falcons" = .ok (.arr (entriesOf (answers .falcons) fun params =>
    counted params.table params.numConstructedFalcons falconItem))
  engines : controlField report "engines_v2" "engines" = .ok (.arr (entriesOf (answers .engines) fun params =>
    counted params.engineList params.engineCount engineItem))
  deviceInfo : controlField report "fifo_device_info" "entries" =
      .ok (.arr (entriesOf (answers .deviceInfo) fun params =>
    counted params.entries params.numEntries deviceEntryItem))
  engineClasses : ∀ query ∈ engineQueries.toList, controlField report query.1 "classes" =
    .ok (.arr (entriesOf (answers (.classList query.2)) fun params =>
      counted params.classes params.numClasses (hexJson 8)))

/-! ## The report lists them -/

variable {answers : Answers}

theorem safeCount_eq (count : NvU32) (capacity : Nat) : safeCount count capacity = min count.toNat capacity := by
  rw [safeCount]
  split <;> omega

theorem listed_eq {α β : Type} {n : Nat} (r : Reply β) (count : Nat) (items : Vector α n) :
    listed (resultOf r).1 count items = if r.Succeeded then items.toList.take count else [] := by
  rw [listed]
  by_cases h : r.Succeeded
  · rw [if_pos h, if_pos ((succeeded_iff r).mpr h)]
  · rw [if_neg h, if_neg fun hok => h ((succeeded_iff r).mp hok)]

theorem listed_counted {α β : Type} {n : Nat} (r : Reply β) (count : NvU32) (items : Vector α n) (item : α → Json) :
    listed (resultOf r).1 (safeCount count n) (items.map item) =
      if r.Succeeded then counted items count item else [] := by
  rw [listed_eq, safeCount_eq, counted, Vector.toList_map, List.map_take]

theorem listed_ofFn {β : Type} {n : Nat} (r : Reply β) (item : Fin n → Json) :
    listed (resultOf r).1 n (Vector.ofFn item) = if r.Succeeded then List.ofFn item else [] := by
  rw [listed_eq, Vector.toList_ofFn, List.take_of_length_le (by simp)]

theorem controlField_eq {deviceIndex : Int} {c : Controls} {control key : String} {v field : Json}
    {members : List (List Char × Json)} (hcontrols : controlsJson c = .obj members)
    (hcontrol : subscript (.obj members) control = .ok v) (hfield : subscript v key = .ok field) :
    controlField (reportJson deviceIndex c) control key = .ok field := by
  have hreport : subscript (reportJson deviceIndex c) "controls" = .ok (controlsJson c) := rfl
  rw [controlField, hreport, ok_bind, hcontrols, hcontrol, ok_bind, hfield]

/-- The classes of a query, whose count is zero when it failed. -/
theorem classes_eq (query : String × NvU32) : subscript (engineClassesJson (queryOf answers query)) "classes" =
    .ok (.arr (entriesOf (answers (.classList query.2)) fun params =>
      counted params.classes params.numClasses (hexJson 8))) := by
  have hclasses := listed_counted (answers (.classList query.2)) (queryOf answers query).numClasses
    (answers (.classList query.2)).value.classes (hexJson 8)
  have hfield : subscript (engineClassesJson (queryOf answers query)) "classes" = .ok (.arr
      (listed (resultOf (answers (.classList query.2))).1
        (safeCount (queryOf answers query).numClasses engineClassCapacity)
        ((answers (.classList query.2)).value.classes.map (hexJson 8)))) := rfl
  rw [hfield, hclasses, entriesOf]
  split
  next hsucceeded =>
    have hnum : (queryOf answers query).numClasses = (answers (.classList query.2)).value.numClasses :=
      if_pos ((succeeded_iff _).mpr hsucceeded)
    rw [hnum]
  next => rfl

theorem contextBuffers_eq : subscript (contextBuffersJson (controlsOf answers).contextBuffers) "entries" =
    .ok (.arr (List.ofFn (contextBufferEntry answers))) := by
  have hfield : subscript (contextBuffersJson (controlsOf answers).contextBuffers) "entries" = .ok (.arr
      (Vector.ofFn fun i : Fin engineIdCount => contextBufferItem i contextBufferNames[i]
        (controlsOf answers).contextBuffers[i].1 (controlsOf answers).contextBuffers[i].2).toList) := rfl
  rw [hfield, Vector.toList_ofFn]
  simp only [controlsOf, Fin.getElem_fin, Vector.getElem_ofFn]
  rfl

theorem reportJson_faithful (answers : Answers) (deviceIndex : Int) :
    Faithful answers (reportJson deviceIndex (controlsOf answers)) := by
  have hcontrols := controlsJson_eq (controlsOf_named answers)
  constructor
  case v1 =>
    refine controlField_eq hcontrols rfl ?_
    rw [entriesOf, v1Entries, ← listed_ofFn]
    rfl
  case v2 =>
    refine controlField_eq hcontrols rfl ?_
    rw [entriesOf, ← listed_counted]
    rfl
  case gpuInfo =>
    refine controlField_eq hcontrols rfl ?_
    rw [entriesOf, gpuInfoEntries, ← listed_ofFn]
    rfl
  case grInfo =>
    refine controlField_eq hcontrols rfl ?_
    rw [entriesOf, grInfoEntries, ← listed_ofFn]
    rfl
  case contextBuffers => exact controlField_eq hcontrols rfl contextBuffers_eq
  case falcons =>
    refine controlField_eq hcontrols rfl ?_
    rw [entriesOf, ← listed_counted]
    rfl
  case engines =>
    refine controlField_eq hcontrols rfl ?_
    rw [entriesOf, ← listed_counted]
    rfl
  case deviceInfo =>
    refine controlField_eq hcontrols rfl ?_
    rw [entriesOf, ← listed_counted]
    rfl
  case engineClasses =>
    intro query hquery
    have hclass : ∀ i : Fin 4, (controlsOf answers).engineClasses.get i = queryOf answers (engineQueries.get i) :=
      fun i => Vector.getElem_map _ i.isLt
    simp only [hclass] at hcontrols
    rw [toList_eq] at hquery
    simp only [List.mem_cons, List.not_mem_nil, or_false] at hquery
    rcases hquery with rfl | rfl | rfl | rfl
    · exact controlField_eq hcontrols rfl (classes_eq _)
    · exact controlField_eq hcontrols rfl (classes_eq _)
    · exact controlField_eq hcontrols rfl (classes_eq _)
    · exact controlField_eq hcontrols rfl (classes_eq _)

end Cmp50Unlock.Verify
