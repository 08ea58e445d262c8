import Cmp50Unlock.Verify.Report
import Cmp50Unlock.Verify.Verdict
import Mathlib.Data.List.Forall2
import Mathlib.Algebra.Group.Nat.Defs

/-!
# The verdict on a report
-/

namespace Cmp50Unlock.Verify

open Lib

/-- The program comes to its end. -/
def Succeeds {α : Type} (p : Except PyError α) : Prop := ∃ a, p = .ok a

variable {α β : Type} {p : Except PyError α} {f : α → Except PyError β}

theorem ok_bind (a : α) : (Except.ok a >>= f) = f a := rfl

theorem succeeds_bind : Succeeds (p >>= f) ↔ ∃ a, p = .ok a ∧ Succeeds (f a) := by
  cases p with
  | error e =>
      constructor
      · rintro ⟨_, h⟩; cases h
      · rintro ⟨_, h, _⟩; cases h
  | ok a =>
      constructor
      · intro h; exact ⟨a, rfl, h⟩
      · rintro ⟨_, h, hf⟩; cases h; exact hf

theorem succeeds_raiseIf {condition : Bool} {e : PyError} : Succeeds (raiseIf condition e) ↔ condition = false := by
  cases condition
  · exact ⟨fun _ => rfl, fun _ => ⟨_, rfl⟩⟩
  · constructor
    · rintro ⟨_, h⟩; cases h
    · exact nofun

theorem succeeds_seq {p : Except PyError PUnit} {f : PUnit → Except PyError β} :
    Succeeds (p >>= f) ↔ Succeeds p ∧ Succeeds (f ⟨⟩) := by
  rw [succeeds_bind]
  exact ⟨fun ⟨_, h, hf⟩ => ⟨⟨_, h⟩, hf⟩, fun ⟨⟨_, h⟩, hf⟩ => ⟨_, h, hf⟩⟩

/-! ## Status -/

theorem fmtX_eq_zero_iff (x : NvU32) : (fmtX 8 x).toList = "00000000".toList ↔ x = 0 := by
  constructor
  · intro h
    by_contra hne
    have hpos : 0 < x.toNat := Nat.pos_of_ne_zero fun h0 => hne (BitVec.eq_of_toNat_eq h0)
    obtain ⟨c, cs, heq, hc⟩ := Json.head_toDigits (b := 16) (by decide) (by decide) hpos
    have hmem : c ∈ (fmtX 8 x).toList := by
      rw [fmtX, String.toList_ofList, List.leftpad, heq]
      simp
    rw [h] at hmem
    have hzero : "00000000".toList.all (· == '0') = true := rfl
    exact hc (beq_iff_eq.mp (List.all_eq_true.mp hzero c hmem))
  · rintro rfl
    decide

theorem eqStr_hexJson (x : NvU32) : eqStr (hexJson 8 x) "0x00000000" = true ↔ x = 0 := by
  rw [← fmtX_eq_zero_iff]
  have hsplit : "0x00000000".toList = "0x".toList ++ "00000000".toList := by decide
  simp only [eqStr, hexJson, hsplit, beq_iff_eq, List.append_cancel_left_eq]

theorem checkStatus_succeeds {control : Json} {status : NvU32} {message : String}
    (h : subscript control "rm_status" = .ok (hexJson 8 status)) :
    Succeeds (checkStatus control message) ↔ status = 0 := by
  rw [checkStatus, h]
  change Succeeds (raiseIf _ _) ↔ _
  rw [succeeds_raiseIf, Bool.not_eq_false', eqStr_hexJson]

/-! ## Rates -/

theorem anyRaw_eq_false {items : List Json} {raws : List Nat}
    (h : List.Forall₂ (fun item raw => subscript item "raw" = .ok (.int (raw : Nat))) items raws) :
    ∃ b, anyRaw items = .ok b ∧ (b = false ↔ ∀ raw ∈ raws, raw = 0) := by
  induction h with
  | nil => exact ⟨false, rfl, by simp⟩
  | @cons item raw items raws hraw _ ih =>
      obtain ⟨b, hb, hiff⟩ := ih
      rw [anyRaw, hraw]
      change ∃ b, (if ((raw : Int) == 0) = true then anyRaw items else .ok true) = .ok b ∧ _
      by_cases hzero : raw = 0
      · rw [if_pos (by simp [hzero])]
        exact ⟨b, hb, by simp [hiff, hzero]⟩
      · rw [if_neg (by simpa using hzero)]
        exact ⟨true, rfl, by simp [hzero]⟩

theorem checkRates_succeeds {control : Json} {items : List Json} {raws : List Nat} {n : Nat} {message : String}
    (h : subscript control "values" = .ok (.arr items))
    (hraws : List.Forall₂ (fun item raw => subscript item "raw" = .ok (.int (raw : Nat))) items raws) :
    Succeeds (checkRates control n message) ↔ raws.length = n ∧ ∀ raw ∈ raws, raw = 0 := by
  obtain ⟨b, hb, hiff⟩ := anyRaw_eq_false hraws
  rw [checkRates, h]
  change Succeeds (raiseIf (items.length != n) _ >>= fun _ => anyRaw items >>= fun b => raiseIf b _) ↔ _
  rw [succeeds_seq, succeeds_raiseIf, hb]
  change _ ∧ Succeeds (raiseIf b _) ↔ _
  rw [succeeds_raiseIf, hiff, bne_eq_false_iff_eq, hraws.length_eq]

/-! ## Counts -/

theorem checkNames_succeeds {values : List (Json × Json)} {expected : List (String × Int)} :
    Succeeds (checkNames values expected) ↔ ∀ e ∈ expected, eqInt (getName values e.1) e.2 = true := by
  induction expected with
  | nil => exact ⟨fun _ _ => nofun, fun _ => ⟨_, rfl⟩⟩
  | cons e expected ih => rw [checkNames, succeeds_seq, succeeds_raiseIf, ih, Bool.not_eq_false', List.forall_mem_cons]

/-! ## The report of the probe -/

/-- What the controls must have answered. -/
structure Controls.Passes (c : Controls) : Prop where
  v1 : rmOk c.v1.1
  v2 : rmOk c.v2.1
  v1_full : ∀ value ∈ c.v1.2.values.toList, value = 0
  v2_count : c.v2.2.listSize = 8
  v2_full : ∀ item ∈ c.v2.2.list.toList.take 8, item.data = 0
  gpu : rmOk c.gpuInfo.1
  cmp_sku : c.gpuInfo.2.list[2].data = 1
  display : c.gpuInfo.2.list[3].data = 0
  gr : rmOk c.grInfo.1
  gpu_cores : (c.grInfo.2.get 0).data = 3584
  rt_cores : (c.grInfo.2.get 1).data = 56
  tensor_cores : (c.grInfo.2.get 2).data = 448

theorem rates_listed {α : Type} {n : Nat} (items : Vector α n) {f : α → Json} {raw : α → Nat} (result : ControlResult)
    (count : Nat) (hraw : ∀ x, subscript (f x) "raw" = .ok (.int (raw x))) :
    List.Forall₂ (fun item raw => subscript item "raw" = .ok (.int (raw : Nat))) (listed result count (items.map f))
      ((if rmOk result then items.toList.take count else []).map raw) := by
  rw [listed]
  split
  · rw [Vector.toList_map, ← List.map_take, List.forall₂_map_left_iff, List.forall₂_map_right_iff, List.forall₂_same]
    exact fun x _ => hraw x
  · exact .nil

/-- Both checks of an issue-rate section. -/
theorem rates_succeed {α : Type} {n count m : Nat} {items : Vector α n} {f : α → Json} {raw : α → Nat}
    {result : ControlResult} (control : Json) (message message' : String) (hm : 0 < m) (hcount : count ≤ n)
    (hstatus : subscript control "rm_status" = .ok (hexJson 8 result.rmStatus))
    (hvalues : subscript control "values" = .ok (.arr (listed result count (items.map f))))
    (hraw : ∀ x, subscript (f x) "raw" = .ok (.int (raw x))) :
    (Succeeds (checkStatus control message) ∧ Succeeds (checkRates control m message')) ↔
      rmOk result ∧ count = m ∧ ∀ x ∈ items.toList.take count, raw x = 0 := by
  rw [checkStatus_succeeds hstatus, checkRates_succeeds hvalues (rates_listed items result count hraw)]
  cases hok : rmOk result with
  | false =>
      have hne : 0 ≠ m := by omega
      simp [hne]
  | true =>
      have hstatus : result.rmStatus = 0 := by
        rw [rmOk, Bool.and_eq_true, beq_iff_eq, beq_iff_eq] at hok
        exact hok.2
      simp only [hstatus, List.length_map, List.length_take, Vector.length_toList, Nat.min_eq_left hcount, if_true,
        List.forall_mem_map, true_and]

theorem safeCount_eq_iff {count : NvU32} {capacity m : Nat} (hm : m < capacity) :
    safeCount count capacity = m ↔ count.toNat = m := by
  rw [safeCount]
  split <;> omega

theorem rates_v1 (result : ControlResult) (params : IssueRateModifier) (message message' : String) :
    (Succeeds (checkStatus (v1Json result params) message) ∧ Succeeds (checkRates (v1Json result params) 9 message')) ↔
      rmOk result ∧ ∀ value ∈ params.values.toList, value = 0 := by
  have hitems : Vector.ofFn (fun i : Fin 9 => v1Item v1Names[i] params.values[i] (i.val == 2)) =
      (Vector.ofFn fun i : Fin 9 => i).map fun i => v1Item v1Names[i] params.values[i] (i.val == 2) := by
    ext
    simp
  have hrates : _ ↔ rmOk result ∧ 9 = 9 ∧ ∀ i ∈ (Vector.ofFn fun i : Fin 9 => i).toList.take 9,
      params.values[i].toNat = 0 :=
    rates_succeed (v1Json result params) message message' (by decide) (Nat.le_refl 9) rfl (by rw [← hitems]; rfl)
      fun _ => rfl
  have hall : (∀ i ∈ (Vector.ofFn fun i : Fin 9 => i).toList.take 9, params.values[i].toNat = 0) ↔
      ∀ value ∈ params.values.toList, value = 0 := by
    rw [List.take_of_length_le (by simp)]
    constructor
    · intro h value hvalue
      obtain ⟨i, hi, rfl⟩ := List.mem_iff_getElem.mp hvalue
      have hi9 : i < 9 := by simpa using hi
      exact BitVec.eq_of_toNat_eq (h ⟨i, hi9⟩ (by simp))
    · intro h i _
      rw [h params.values[i] (by simp)]
      rfl
  rw [hrates, hall]
  simp only [true_and]

theorem rates_v2 (result : ControlResult) (params : IssueRateModifierV2) (command : NvU32) (message message' : String) :
    (Succeeds (checkStatus (infoListJson command result params.listSize params.list true false) message) ∧
      Succeeds (checkRates (infoListJson command result params.listSize params.list true false) 8 message')) ↔
      rmOk result ∧ params.listSize = 8 ∧ ∀ item ∈ params.list.toList.take 8, item.data = 0 := by
  have hrates : _ ↔ rmOk result ∧ safeCount params.listSize 0xff = 8 ∧
      ∀ item ∈ params.list.toList.take (safeCount params.listSize 0xff), item.data.toNat = 0 :=
    rates_succeed (infoListJson command result params.listSize params.list true false) message message' (by decide)
      (safeCount_le _ _) rfl rfl fun _ => rfl
  have hdata : ∀ item : Info, item.data.toNat = 0 ↔ item.data = 0 := fun item => BitVec.toNat_eq (y := 0#32).symm
  rw [hrates]
  simp only [hdata]
  refine and_congr_right fun _ => ⟨fun ⟨hcount, hall⟩ => ?_, fun ⟨hcount, hall⟩ => ?_⟩
  · rw [hcount] at hall
    exact ⟨BitVec.eq_of_toNat_eq ((safeCount_eq_iff (by decide)).mp hcount), hall⟩
  · have hsafe : safeCount params.listSize 0xff = 8 := (safeCount_eq_iff (by decide)).mpr (by rw [hcount]; rfl)
    exact ⟨hsafe, by rwa [hsafe]⟩

theorem listed_four {result : ControlResult} {α : Type} (f : Fin 4 → α) :
    listed result 4 (Vector.ofFn f) = if rmOk result then [f 0, f 1, f 2, f 3] else [] := by
  have hget : ∀ i, (Vector.ofFn f).get i = f i := fun i => Vector.getElem_ofFn i.isLt
  rw [listed, toList_eq]
  simp [hget]

theorem values_gpuInfo (result : ControlResult) (items : Vector Info gpuInfoMaxListSize) :
    valuesByName (gpuInfoJson result items) = .ok (if rmOk result then
      [(textJson "NETLIST_REV0", natJson items[0].data), (textJson "NETLIST_REV1", natJson items[1].data),
        (textJson "CMP_SKU", natJson items[2].data), (textJson "DISPLAY_ENABLED", natJson items[3].data)] else []) := by
  rw [gpuInfoJson, listed_four]
  split <;> rfl

theorem values_grInfo (result : ControlResult) (items : GrInfo) :
    valuesByName (grInfoJson result items) = .ok (if rmOk result then
      [(textJson "GPU_CORE_COUNT", natJson (items.get 0).data), (textJson "RT_CORE_COUNT", natJson (items.get 1).data),
        (textJson "TENSOR_CORE_COUNT", natJson (items.get 2).data),
        (textJson "GFX_CAPABILITIES", natJson (items.get 3).data)]
      else []) := by
  rw [grInfoJson, listed_four]
  split <;> rfl

theorem eqInt_natJson (x : NvU32) (n : Nat) : eqInt (natJson x) n = true ↔ x.toNat = n := by
  change ((x.toNat : Int) == (n : Int)) = true ↔ _
  rw [beq_iff_eq, Int.natCast_inj]

theorem toNat_eq_iff {x : NvU32} {n : Nat} (hn : n < 2 ^ 32) : x.toNat = n ↔ x = BitVec.ofNat 32 n := by
  rw [← BitVec.toNat_inj, BitVec.toNat_ofNat, Nat.mod_eq_of_lt hn]

theorem names_gpuInfo {result : ControlResult} {items : Vector Info gpuInfoMaxListSize} {values : List (Json × Json)}
    (h : valuesByName (gpuInfoJson result items) = .ok values) :
    Succeeds (checkNames values expectedGpu) ↔ rmOk result ∧ items[2].data = 1 ∧ items[3].data = 0 := by
  rw [values_gpuInfo] at h
  cases h
  rw [checkNames_succeeds, expectedGpu, List.forall_mem_cons, List.forall_mem_singleton]
  split
  next hok =>
    change eqInt (natJson items[2].data) (1 : Nat) = true ∧ eqInt (natJson items[3].data) (0 : Nat) = true ↔ _
    rw [eqInt_natJson, eqInt_natJson, toNat_eq_iff (by decide), toNat_eq_iff (by decide)]
    exact ⟨fun h => ⟨hok, h⟩, fun h => h.2⟩
  next hfail => exact ⟨nofun, fun h => absurd h.1 hfail⟩

theorem names_grInfo {result : ControlResult} {items : GrInfo} {values : List (Json × Json)}
    (h : valuesByName (grInfoJson result items) = .ok values) : Succeeds (checkNames values expectedGr) ↔
      rmOk result ∧ (items.get 0).data = 3584 ∧ (items.get 1).data = 56 ∧ (items.get 2).data = 448 := by
  rw [values_grInfo] at h
  cases h
  rw [checkNames_succeeds, expectedGr, List.forall_mem_cons, List.forall_mem_cons, List.forall_mem_singleton]
  split
  next hok =>
    change eqInt (natJson (items.get 0).data) (3584 : Nat) = true ∧
      eqInt (natJson (items.get 1).data) (56 : Nat) = true ∧
      eqInt (natJson (items.get 2).data) (448 : Nat) = true ↔ _
    rw [eqInt_natJson, eqInt_natJson, eqInt_natJson, toNat_eq_iff (by decide), toNat_eq_iff (by decide),
      toNat_eq_iff (by decide)]
    exact ⟨fun h => ⟨hok, h⟩, fun h => h.2⟩
  next hfail => exact ⟨nofun, fun h => absurd h.1 hfail⟩

/-- The queries of the engine classes have the names that `run_probe` gives them. -/
def Controls.Named (c : Controls) : Prop := c.engineClasses.map (·.name) = engineQueries.map (·.1)

theorem Controls.Named.name {c : Controls} (h : c.Named) (i : Fin 4) :
    (c.engineClasses.get i).name = (engineQueries.get i).1 := by
  have hat : (c.engineClasses.map (·.name))[i] = (engineQueries.map (·.1))[i] := by rw [h]
  rw [Fin.getElem_fin, Fin.getElem_fin, Vector.getElem_map, Vector.getElem_map] at hat
  exact hat

theorem Controls.Named.plain {c : Controls} (h : c.Named) :
    ∀ query ∈ c.engineClasses.toList, Json.PlainText query.name := by
  have hplain : engineQueries.toList.all (fun query => query.1.toList.all Json.isPlain) = true := rfl
  intro query hquery
  obtain ⟨i, hi, rfl⟩ := List.mem_iff_getElem.mp hquery
  have hi4 : i < 4 := by simpa using hi
  have hname : c.engineClasses[i].name = engineQueries[i].1 := h.name ⟨i, hi4⟩
  rw [Vector.getElem_toList, hname]
  exact List.all_eq_true.mp hplain _ (by simp)

theorem controlsJson_eq {c : Controls} (h : c.Named) : controlsJson c = .obj [
    member "v1" (v1Json c.v1.1 c.v1.2),
    member "v2" (infoListJson Control.issueRateV2.command c.v2.1 c.v2.2.listSize c.v2.2.list true false),
    member "gpu_info" (gpuInfoJson c.gpuInfo.1 c.gpuInfo.2.list), member "gr_info" (grInfoJson c.grInfo.1 c.grInfo.2),
    member "gr_context_buffers" (contextBuffersJson c.contextBuffers),
    member "constructed_falcons" (falconsJson c.falcons.1 c.falcons.2),
    member "engines_v2" (enginesJson c.engines.1 c.engines.2),
    member "fifo_device_info" (deviceInfoJson c.deviceInfo.1 c.deviceInfo.2),
    member "engine_classes_graphics" (engineClassesJson (c.engineClasses.get 0)),
    member "engine_classes_nvdec0" (engineClassesJson (c.engineClasses.get 1)),
    member "engine_classes_nvenc0" (engineClassesJson (c.engineClasses.get 2)),
    member "engine_classes_dpu" (engineClassesJson (c.engineClasses.get 3))] := by
  rw [controlsJson, toList_eq]
  simp only [List.map_cons, List.map_nil, h.name]
  rfl

/-- The verdict on a report of the probe. -/
theorem checkReport_succeeds (deviceIndex : Int) {c : Controls} (h : c.Named) :
    Succeeds (checkReport (reportJson deviceIndex c)) ↔ c.Passes := by
  have hcontrols : subscript (reportJson deviceIndex c) "controls" = .ok (controlsJson c) := rfl
  have hgetV1 : subscript (controlsJson c) "v1" = .ok (v1Json c.v1.1 c.v1.2) := by rw [controlsJson_eq h]; rfl
  have hgetV2 : subscript (controlsJson c) "v2" =
      .ok (infoListJson Control.issueRateV2.command c.v2.1 c.v2.2.listSize c.v2.2.list true false) := by
    rw [controlsJson_eq h]
    rfl
  have hgetGpu : subscript (controlsJson c) "gpu_info" = .ok (gpuInfoJson c.gpuInfo.1 c.gpuInfo.2.list) := by
    rw [controlsJson_eq h]
    rfl
  have hgetGr : subscript (controlsJson c) "gr_info" = .ok (grInfoJson c.grInfo.1 c.grInfo.2) := by
    rw [controlsJson_eq h]
    rfl
  have hgpu := values_gpuInfo c.gpuInfo.1 c.gpuInfo.2.list
  have hgr := values_grInfo c.grInfo.1 c.grInfo.2
  simp only [checkReport, hcontrols, hgetV1, hgetV2, hgetGpu, hgetGr, ok_bind, succeeds_seq, hgpu, hgr]
  rw [names_gpuInfo hgpu, names_grInfo hgr]
  have hv1 := rates_v1 c.v1.1 c.v1.2 "v1 RM status is %s" "the nine v1 issue-rate values are not all full speed"
  have hv2 := rates_v2 c.v2.1 c.v2.2 Control.issueRateV2.command "v2 RM status is %s"
    "the eight v2 issue-rate values are not all full speed"
  constructor
  · rintro ⟨hs1, hs2, hr1, hr2, ⟨hgpu, hsku, hdisplay⟩, hgr, hcores, hrt, htensor⟩
    obtain ⟨hok1, hfull1⟩ := hv1.mp ⟨hs1, hr1⟩
    obtain ⟨hok2, hcount, hfull2⟩ := hv2.mp ⟨hs2, hr2⟩
    exact ⟨hok1, hok2, hfull1, hcount, hfull2, hgpu, hsku, hdisplay, hgr, hcores, hrt, htensor⟩
  · intro hpass
    obtain ⟨hs1, hr1⟩ := hv1.mpr ⟨hpass.v1, hpass.v1_full⟩
    obtain ⟨hs2, hr2⟩ := hv2.mpr ⟨hpass.v2, hpass.v2_count, hpass.v2_full⟩
    exact ⟨hs1, hs2, hr1, hr2, ⟨hpass.gpu, hpass.cmp_sku, hpass.display⟩, hpass.gr, hpass.gpu_cores, hpass.rt_cores,
      hpass.tensor_cores⟩

/-- `verify.py` prints that the checks passed. -/
theorem verify_iff {text : String} {report : Json} (hloads : Json.loads text = some report) :
    verify text = .ok passed ↔ Succeeds (checkReport report) := by
  rw [verify, hloads]
  change (checkReport report >>= fun _ => Except.ok passed) = .ok passed ↔ _
  cases checkReport report with
  | error e => exact ⟨nofun, nofun⟩
  | ok a => exact ⟨fun _ => ⟨a, rfl⟩, fun _ => rfl⟩

end Cmp50Unlock.Verify
