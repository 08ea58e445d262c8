import Cmp50Unlock.Verify.Report

/-!
# The report is read section by section
-/

namespace Cmp50Unlock.Verify

open Lib
open Lib.Json (State Frame Role PlainText feeds_text feeds_word feeds_delimiter feeds_separator
  feeds_item feeds_close itemsRead)
open Lib.Print (wp_bind wp_printf wp_printf_bind wp_get wp_pure wp_when printf)

variable {st st' : State} {stack : List Frame} {members : List (List Char × Json)} {pieces : List String}

/-! ## Conversions -/

theorem plain_toDigits (n : Nat) : ∀ c ∈ Nat.toDigits 16 n, Json.isPlain c := by
  have hdigit : ∀ d < 16, Json.isPlain d.digitChar := by decide
  induction n using Nat.strongRecOn with
  | ind n ih =>
      rw [Nat.toDigits_eq_if (by decide)]
      split
      next hlt => simpa using hdigit n hlt
      next hge =>
        intro c hc
        obtain hc | hc := List.mem_append.mp hc
        · exact ih (n / 16) (by omega) c hc
        · rw [List.mem_singleton.mp hc]
          exact hdigit _ (Nat.mod_lt n (by decide))

theorem plain_fmtX {w : Nat} (width : Nat) (x : BitVec w) : PlainText (fmtX width x) := by
  refine List.all_eq_true.mpr fun c hc => ?_
  rw [fmtX, String.toList_ofList, List.leftpad, List.mem_append] at hc
  obtain hc | hc := hc
  · rw [List.eq_of_mem_replicate hc]
    decide
  · exact plain_toDigits _ c hc

/-- The texts of a table are plain. -/
theorem plain_getElem {n : Nat} {names : Vector String n}
    (hnames : names.toList.all (fun name => name.toList.all Json.isPlain) = true) {i : Nat} (hi : i < n) :
    PlainText names[i] :=
  List.all_eq_true.mp hnames _ (by simp)

/-! ## Sections -/

/-- A key of `controls` may begin. -/
def KeyNext (st : State) (members : List (List Char × Json)) (stack : List Frame) : Prop :=
  feed Json.step st "    \"" = some ⟨.string (.key members) [] .none, stack⟩

theorem keyNext_member : KeyNext ⟨.member, stack⟩ [] stack := rfl

theorem keyNext_key : KeyNext ⟨.key members, stack⟩ members stack := rfl

theorem printResultHeader_wp {name : String} (hname : PlainText name) (hst : KeyNext st members stack) (command : NvU32)
    (result : ControlResult) : Print.wp Json.step (printResultHeader name command result)
      (fun _ st' => st' = ⟨.key (resultMembers command result), .obj members name.toList :: stack⟩) st := by
  refine wp_printf_bind _ (.lit hst (feeds_text hname (.lit rfl rfl))) ?_
  refine wp_printf_bind _ (.lit rfl (feeds_text (plain_fmtX 8 command) (.lit rfl rfl))) ?_
  refine wp_printf_bind _ (.lit rfl (feeds_word (Json.word_int _) (feeds_delimiter (Json.word_int _) rfl rfl rfl rfl)))
    ?_
  exact wp_printf (.lit rfl (feeds_text (plain_fmtX 8 result.rmStatus) (.lit rfl rfl))) rfl

/-- The stack inside member `key` of section `name`, after the members `fields` of it. -/
def inside (members : List (List Char × Json)) (name : String) (fields : List (List Char × Json)) (key : String)
    (stack : List Frame) : List Frame :=
  .obj fields key.toList :: .obj members name.toList :: stack

/-- A loop that prints the first `count` items of an array. -/
theorem wp_entries {n count : Nat} (vs : Vector Json n) {body : Nat → Print PUnit} (hcount : count ≤ n)
    (hbody : ∀ i (hi : i < n) (us : List Json), us.length = i →
      Print.wp Json.step (body i) (fun _ st => st = ⟨.after vs[i], .arr us :: stack⟩) (itemsRead us stack)) :
    Print.wp Json.step (Print.forRange count body) (fun _ st => st = itemsRead (vs.toList.take count) stack)
      (itemsRead [] stack) := by
  have hlen : (vs.toList.take count).length = count := by simp [hcount]
  have hloop := Json.wp_items (vs.toList.take count) stack body fun i hi us hus => by
    have hat := hbody i (by simp at hi; omega) us hus
    simpa [Json.itemsRead_concat] using hat
  rwa [hlen] at hloop

/-- The items are printed when the control succeeded. -/
theorem wp_shown {n : Nat} (vs : Vector Json n) (count : Nat) {result : ControlResult} {p : Print PUnit}
    (h : Print.wp Json.step p (fun _ st => st = itemsRead (vs.toList.take count) stack) (itemsRead [] stack)) :
    Print.wp Json.step (Print.when (rmOk result) p) (fun _ st => st = itemsRead (listed result count vs) stack)
      (itemsRead [] stack) := by
  refine wp_when (fun hok => ?_) (fun hfail => ?_)
  · rwa [listed, if_pos hok]
  · rw [listed, if_neg hfail]

/-- The items are printed in a loop, with `tail` after it. -/
theorem wp_listed {n count : Nat} (vs : Vector Json n) {result : ControlResult} {body : Nat → Print PUnit}
    {tail rest : PUnit → Print PUnit} {Q : PUnit → State → Prop} (hcount : count ≤ n)
    (hbody : ∀ i (hi : i < n) (us : List Json), us.length = i →
      Print.wp Json.step (body i) (fun _ st => st = ⟨.after vs[i], .arr us :: stack⟩) (itemsRead us stack))
    (htail : ∀ us, Print.wp Json.step (tail ⟨⟩) (fun _ st => st = itemsRead us stack) (itemsRead us stack))
    (hrest : Print.wp Json.step (rest ⟨⟩) Q (itemsRead (listed result count vs) stack)) :
    Print.wp Json.step (Print.when (rmOk result) (Print.forRange count body >>= tail) >>= rest) Q
    (itemsRead [] stack) := by
  refine wp_bind ((wp_shown vs count (wp_bind ((wp_entries vs hcount hbody).mono ?_))).mono ?_)
  · rintro _ st rfl
    exact htail _
  · rintro _ st rfl
    exact hrest

theorem wp_space {us : List Json} {s : String} (hs : s.toList.all Json.isSpace = true) :
    Print.wp Json.step (printf [s]) (fun _ st => st = itemsRead us stack) (itemsRead us stack) :=
  wp_printf (.lit (Json.feed_itemsRead_space hs) rfl) rfl

theorem plain_speedText (value : NvU32) (dpField : Bool) : PlainText (speedText value dpField) := by
  rw [speedText]
  split
  · split
    · decide
    · split <;> decide
  · cases hname : speedNames[value.toNat]? with
    | none => rfl
    | some name =>
        obtain ⟨hlt, rfl⟩ := Vector.getElem?_eq_some_iff.mp hname
        exact plain_getElem (show speedNames.toList.all _ = true from rfl) hlt

theorem speedName_wp (value : NvU32) (dpField : Bool) :
    Print.wp Json.step (speedName value dpField) (fun speed st' => speed = speedText value dpField ∧ st' = st) st := by
  rw [speedName, speedText]
  refine Print.wp_ite (fun h => ?_) (fun h => ?_)
  · rw [if_pos h]
    exact wp_pure ⟨rfl, rfl⟩
  · rw [if_neg h]
    refine Print.wp_ite (fun hlt => ?_) (fun hge => ?_)
    · exact wp_get hlt ⟨by simp [hlt], rfl⟩
    · exact wp_pure ⟨by simp [hge], rfl⟩

theorem printV1_wp (hst : KeyNext st members stack) (result : ControlResult) (params : IssueRateModifier) :
    Print.wp Json.step (printV1 result params)
      (fun _ st' => st' = ⟨.key (members ++ [member "v1" (v1Json result params)]), stack⟩) st := by
  refine wp_bind ((printResultHeader_wp (by decide) hst _ result).mono ?_)
  rintro _ st rfl
  refine wp_printf_bind (itemsRead [] (inside members "v1" (resultMembers _ result) "values" stack)) (.lit rfl rfl) ?_
  refine wp_listed (Vector.ofFn fun i : Fin 9 => v1Item v1Names[i] params.values[i] (i.val == 2)) (Nat.le_refl 9) ?_
    (fun _ => wp_space (by decide)) (wp_printf (feeds_close (.lit rfl rfl)) rfl)
  intro i hi us hus
  refine wp_bind (wp_get hi (wp_bind (wp_get hi (wp_bind ((speedName_wp _ _).mono ?_)))))
  rintro _ st ⟨rfl, rfl⟩
  rw [Vector.getElem_ofFn]
  exact wp_printf (feeds_separator hus (fun _ _ => rfl) (feeds_item rfl rfl (feeds_text
    (plain_getElem (by decide) hi)
    (.lit rfl (feeds_word (Json.word_nat _) (feeds_delimiter (Json.word_nat _) rfl rfl rfl
      (feeds_text (plain_speedText _ _) (.lit rfl rfl)))))))) rfl

theorem plain_nameText {n : Nat} {names : Vector String n}
    (hnames : names.toList.all (fun name => name.toList.all Json.isPlain) = true) (index : NvU32) :
    PlainText (nameText names index) := by
  rw [nameText]
  cases hname : names[index.toNat]? with
  | none => rfl
  | some name =>
      obtain ⟨hlt, rfl⟩ := Vector.getElem?_eq_some_iff.mp hname
      exact plain_getElem hnames hlt

theorem nameAt_wp {n : Nat} (names : Vector String n) (index : NvU32) :
    Print.wp Json.step (nameAt names index) (fun name st' => name = nameText names index ∧ st' = st) st := by
  rw [nameAt, nameText]
  refine Print.wp_ite (fun hlt => ?_) (fun hge => ?_)
  · exact wp_get hlt ⟨by simp [hlt], rfl⟩
  · exact wp_pure ⟨by simp [hge], rfl⟩

theorem wp_space_when {us : List Json} {count : Nat} {s : String} (hs : s.toList.all Json.isSpace = true) :
    Print.wp Json.step (Print.when (count ≠ 0) (printf [s])) (fun _ st => st = itemsRead us stack)
    (itemsRead us stack) :=
  wp_when (fun _ => wp_space hs) fun _ => rfl

theorem printInfoList_wp {name : String} (hname : PlainText name) (hst : KeyNext st members stack) (command : NvU32)
    (result : ControlResult) (count : NvU32) (items : Vector Info issueRateMaxListSize) (v2Fields printSpeed : Bool) :
    Print.wp Json.step (printInfoList name command result count items v2Fields printSpeed true) (fun _ st' => st' =
      ⟨.key (members ++ [member name (infoListJson command result count items v2Fields printSpeed)]), stack⟩) st := by
  refine wp_bind ((printResultHeader_wp hname hst _ result).mono ?_)
  rintro _ st rfl
  refine wp_printf_bind (itemsRead [] (inside members name (resultMembers command result) "values" stack))
    (.lit rfl rfl) ?_
  refine wp_listed (items.map (infoItem v2Fields printSpeed)) (safeCount_le count _) ?_
    (fun _ => wp_space_when (by decide)) (wp_printf (feeds_close (.lit rfl (.lit rfl (.lit rfl rfl)))) rfl)
  intro i hi us hus
  rw [Vector.getElem_map]
  refine wp_bind (wp_get hi ?_)
  have hfield : Print.wp Json.step
      (if v2Fields then nameAt v2Names items[i].index else nameAt throttleNames items[i].index)
      (fun field st' => (field = (if v2Fields then nameText v2Names items[i].index
        else nameText throttleNames items[i].index) ∧ PlainText field) ∧ st' = itemsRead us
          (inside members name (resultMembers command result) "values" stack))
      (itemsRead us (inside members name (resultMembers command result) "values" stack)) := by
    refine Print.wp_ite (fun h => (nameAt_wp _ _).mono ?_) (fun h => (nameAt_wp _ _).mono ?_)
    · rintro _ _ ⟨rfl, rfl⟩
      exact ⟨⟨(if_pos h).symm, plain_nameText (by decide) _⟩, rfl⟩
    · rintro _ _ ⟨rfl, rfl⟩
      exact ⟨⟨(if_neg h).symm, plain_nameText (by decide) _⟩, rfl⟩
  refine wp_bind (hfield.mono ?_)
  rintro field st ⟨⟨hfield, hplain⟩, rfl⟩
  rw [infoItem, ← hfield]
  refine wp_printf_bind ⟨.word (fmtU items[i].data).toList,
    .obj [member "index" (natJson items[i].index), member "name" (textJson field)] "raw".toList :: .arr us ::
      inside members name (resultMembers command result) "values" stack⟩
    (feeds_separator hus (fun _ _ => rfl) (feeds_item rfl rfl (feeds_word (Json.word_nat _)
      (feeds_delimiter (Json.word_nat _) rfl rfl rfl (feeds_text hplain
        (.lit rfl (feeds_word (Json.word_nat _) rfl))))))) ?_
  refine wp_bind (wp_when (fun h => ?_) (fun h => ?_))
  · rw [if_pos h]
    refine wp_bind ((speedName_wp _ _).mono ?_)
    rintro _ st ⟨rfl, rfl⟩
    refine wp_printf (feeds_delimiter (Json.word_nat _) rfl rfl rfl (feeds_text (plain_speedText _ _) (.lit rfl rfl)))
      ?_
    exact wp_printf (.lit rfl rfl) rfl
  · rw [if_neg h]
    exact wp_printf (feeds_delimiter (Json.word_nat _) rfl rfl rfl rfl) rfl

theorem word_fmtBool (b : Bool) : Json.Word (fmtBool b) (.bool b) := Json.word_bool b

theorem printGpuInfo_wp (hst : KeyNext st members stack) (result : ControlResult)
    (items : Vector Info gpuInfoMaxListSize) : Print.wp Json.step (printGpuInfo result items)
      (fun _ st' => st' = ⟨.key (members ++ [member "gpu_info" (gpuInfoJson result items)]), stack⟩) st := by
  refine wp_bind ((printResultHeader_wp (by decide) hst _ result).mono ?_)
  rintro _ st rfl
  refine wp_printf_bind (itemsRead [] (inside members "gpu_info" (resultMembers _ result) "values" stack))
    (.lit rfl rfl) ?_
  refine wp_listed (Vector.ofFn fun i : Fin 4 => gpuInfoItem gpuInfoNames[i] items[i.val]) (Nat.le_refl 4) ?_
    (fun _ => wp_space (by decide)) (wp_printf (feeds_close (.lit rfl rfl)) rfl)
  intro i hi us hus
  rw [Vector.getElem_ofFn]
  have hname : PlainText gpuInfoNames[i] := plain_getElem (by decide) hi
  refine wp_bind (wp_get (Nat.lt_trans hi (by decide)) (wp_bind (wp_get hi ?_)))
  exact wp_printf (feeds_separator hus (fun _ _ => rfl) (feeds_item rfl rfl (feeds_word (Json.word_nat _)
    (feeds_delimiter (Json.word_nat _) rfl rfl rfl (feeds_text hname (.lit rfl (feeds_word (Json.word_nat _)
      (feeds_delimiter (Json.word_nat _) rfl rfl rfl (feeds_word (word_fmtBool _)
        (feeds_delimiter (word_fmtBool _) rfl rfl rfl rfl)))))))))) rfl

theorem printGrInfo_wp (hst : KeyNext st members stack) (result : ControlResult) (items : GrInfo) :
    Print.wp Json.step (printGrInfo result items)
      (fun _ st' => st' = ⟨.key (members ++ [member "gr_info" (grInfoJson result items)]), stack⟩) st := by
  refine wp_bind (wp_get (by decide) ?_)
  refine wp_bind ((printResultHeader_wp (by decide) hst _ result).mono ?_)
  rintro _ st rfl
  refine wp_printf_bind (itemsRead [] (inside members "gr_info" (resultMembers _ result) "values" stack))
    (.lit rfl rfl) ?_
  refine wp_listed (Vector.ofFn fun i : Fin 4 => grInfoItem grInfoNames[i] items[i]) (Nat.le_refl 4) ?_
    (fun _ => wp_space (by decide)) ?_
  · intro i hi us hus
    rw [Vector.getElem_ofFn]
    have hname : PlainText grInfoNames[i] := plain_getElem (by decide) hi
    refine wp_bind (wp_get hi (wp_bind (wp_get hi ?_)))
    exact wp_printf (feeds_separator hus (fun _ _ => rfl) (feeds_item rfl rfl (feeds_word (Json.word_nat _)
      (feeds_delimiter (Json.word_nat _) rfl rfl rfl (feeds_text hname (.lit rfl (feeds_word (Json.word_nat _)
        (feeds_delimiter (Json.word_nat _) rfl rfl rfl rfl)))))))) rfl
  · refine wp_printf_bind ⟨.key (resultMembers 0x20801201 result ++ [member "values" (.arr (listed result 4
      (Vector.ofFn fun i : Fin 4 => grInfoItem grInfoNames[i] items[i])))]), .obj members "gr_info".toList :: stack⟩
      (feeds_close (.lit rfl rfl)) ?_
    rw [grInfoJson]
    have hword : ∀ bit, Json.Word (fmtBool (capability items[3].data bit)) _ := fun bit => word_fmtBool _
    refine wp_bind (Print.wp_ite (fun h => ?_) (fun h => ?_))
    · rw [if_pos h]
      refine wp_printf (.lit rfl (feeds_word (hword 0x1) (feeds_delimiter (hword 0x1) rfl rfl rfl
        (feeds_word (hword 0x2) (feeds_delimiter (hword 0x2) rfl rfl rfl (feeds_word (hword 0x4)
          (feeds_delimiter (hword 0x4) rfl rfl rfl (feeds_word (hword 0x8) (feeds_delimiter (hword 0x8) rfl rfl rfl
            rfl))))))))) ?_
      exact wp_printf (.lit rfl rfl) rfl
    · rw [if_neg h]
      refine wp_printf (.lit rfl rfl) ?_
      exact wp_printf (.lit rfl rfl) rfl

theorem printContextBuffers_wp (hst : KeyNext st members stack)
    (buffers : Vector (ControlResult × ContextProperties) engineIdCount) :
    Print.wp Json.step (printContextBuffers (buffers.map (·.1)) (buffers.map (·.2)))
      (fun _ st' => st' = ⟨.key (members ++ [member "gr_context_buffers" (contextBuffersJson buffers)]),
        stack⟩) st := by
  refine wp_printf_bind ⟨.member, .obj members "gr_context_buffers".toList :: stack⟩
    (.lit hst (feeds_text (by decide) (.lit rfl rfl))) ?_
  refine wp_printf_bind ⟨.key [member "command" (hexJson 8 (0x2080122d : NvU32))],
    .obj members "gr_context_buffers".toList :: stack⟩ (.lit rfl (feeds_text (plain_fmtX 8 _) (.lit rfl rfl))) ?_
  refine wp_printf_bind (itemsRead [] (inside members "gr_context_buffers"
    [member "command" (hexJson 8 (0x2080122d : NvU32))] "entries" stack)) (.lit rfl rfl) ?_
  refine wp_bind ((wp_entries (Vector.ofFn fun i : Fin engineIdCount =>
      contextBufferItem i contextBufferNames[i] buffers[i].1 buffers[i].2) (Nat.le_refl _) ?_).mono fun _ st hst => ?_)
  · intro i hi us hus
    rw [Vector.getElem_ofFn]
    have hname : PlainText contextBufferNames[i] := plain_getElem (by decide) hi
    refine wp_bind (wp_get hi (wp_bind (wp_get hi (wp_bind (wp_get hi ?_)))))
    rw [Vector.getElem_map, Vector.getElem_map]
    exact wp_printf (feeds_separator hus (fun _ _ => rfl) (feeds_item rfl rfl (feeds_word (Json.word_nat _)
      (feeds_delimiter (Json.word_nat _) rfl rfl rfl (feeds_text hname (.lit rfl (feeds_word (Json.word_int _)
        (feeds_delimiter (Json.word_int _) rfl rfl rfl (feeds_text (plain_fmtX 8 _) (.lit rfl
          (feeds_word (Json.word_nat _) (feeds_delimiter (Json.word_nat _) rfl rfl rfl
            (feeds_word (Json.word_nat _) (feeds_delimiter (Json.word_nat _) rfl rfl rfl
              (feeds_word (word_fmtBool _) (feeds_delimiter (word_fmtBool _) rfl rfl rfl rfl)))))))))))))))) rfl
  · rw [show st = _ from hst, contextBuffersJson, List.take_of_length_le (by simp)]
    exact wp_printf (.lit (Json.feed_itemsRead_space (by decide)) (feeds_close (.lit rfl rfl))) rfl

theorem printConstructedFalcons_wp (hst : KeyNext st members stack) (result : ControlResult)
    (params : ConstructedFalcons) : Print.wp Json.step (printConstructedFalcons result params)
      (fun _ st' => st' = ⟨.key (members ++ [member "constructed_falcons" (falconsJson result params)]),
        stack⟩) st := by
  refine wp_bind ((printResultHeader_wp (by decide) hst _ result).mono ?_)
  rintro _ st rfl
  refine wp_printf_bind ⟨.key (resultMembers _ result ++ [member "num_falcons" (natJson params.numConstructedFalcons)]),
    .obj members "constructed_falcons".toList :: stack⟩
    (.lit rfl (feeds_word (Json.word_nat _) (feeds_delimiter (Json.word_nat _) rfl rfl rfl rfl))) ?_
  refine wp_printf_bind (itemsRead [] (inside members "constructed_falcons" (resultMembers _ result ++
    [member "num_falcons" (natJson params.numConstructedFalcons)]) "falcons" stack)) (.lit rfl rfl) ?_
  refine wp_listed (params.table.map falconItem) (safeCount_le _ _) ?_ (fun _ => wp_space_when (by decide))
    (wp_printf (feeds_close (.lit rfl rfl)) rfl)
  intro i hi us hus
  rw [Vector.getElem_map]
  refine wp_bind (wp_get hi ?_)
  exact wp_printf (feeds_separator hus (fun _ _ => rfl) (feeds_item rfl rfl (feeds_text (plain_fmtX 8 _)
    (.lit rfl (feeds_text (plain_fmtX 6 _) (.lit rfl (feeds_word (Json.word_nat _) (feeds_delimiter (Json.word_nat _)
      rfl rfl rfl (feeds_text (plain_fmtX 8 _)
        (.lit rfl (feeds_word (Json.word_nat _) (feeds_delimiter (Json.word_nat _)
        rfl rfl rfl (feeds_text (plain_fmtX 8 _) (.lit rfl (feeds_text (plain_fmtX 8 _) (.lit rfl rfl))))))))))))))))
        rfl

theorem plain_engineTypeName (engineType : NvU32) : PlainText (engineTypeName engineType) := by
  rw [engineTypeName]
  split
  · decide
  · split
    · decide
    · split
      · decide
      · split <;> decide

theorem printEngineList_wp (hst : KeyNext st members stack) (result : ControlResult) (params : Engines) :
    Print.wp Json.step (printEngineList result params)
      (fun _ st' => st' = ⟨.key (members ++ [member "engines_v2" (enginesJson result params)]), stack⟩) st := by
  refine wp_bind ((printResultHeader_wp (by decide) hst _ result).mono ?_)
  rintro _ st rfl
  refine wp_printf_bind ⟨.key (resultMembers _ result ++ [member "engine_count" (natJson params.engineCount)]),
    .obj members "engines_v2".toList :: stack⟩
    (.lit rfl (feeds_word (Json.word_nat _) (feeds_delimiter (Json.word_nat _) rfl rfl rfl rfl))) ?_
  refine wp_printf_bind (itemsRead [] (inside members "engines_v2" (resultMembers _ result ++
    [member "engine_count" (natJson params.engineCount)]) "engines" stack)) (.lit rfl rfl) ?_
  refine wp_listed (params.engineList.map engineItem) (safeCount_le _ _) ?_ (fun _ => wp_space_when (by decide))
    (wp_printf (feeds_close (.lit rfl rfl)) rfl)
  intro i hi us hus
  rw [Vector.getElem_map]
  refine wp_bind (wp_get hi ?_)
  exact wp_printf (feeds_separator hus (fun _ _ => rfl) (feeds_item rfl rfl (feeds_text (plain_fmtX 8 _)
    (.lit rfl (feeds_text (plain_engineTypeName _) (.lit rfl rfl)))))) rfl

theorem printEngineClasses_wp {query : EngineClassQuery} (hname : PlainText query.name) (hst : KeyNext st members stack)
    (trailingComma : Bool) : Print.wp Json.step (printEngineClasses query trailingComma) (fun _ st' => st' =
      if trailingComma then ⟨.key (members ++ [member query.name (engineClassesJson query)]), stack⟩
      else ⟨.after (engineClassesJson query), .obj members query.name.toList :: stack⟩) st := by
  refine wp_bind ((printResultHeader_wp hname hst _ query.result).mono ?_)
  rintro _ st rfl
  refine wp_printf_bind ⟨.key (resultMembers _ query.result ++ [member "engine_type" (hexJson 8 query.engineType)]),
    .obj members query.name.toList :: stack⟩ (.lit rfl (feeds_text (plain_fmtX 8 _) (.lit rfl rfl))) ?_
  refine wp_printf_bind ⟨.key (resultMembers _ query.result ++ [member "engine_type" (hexJson 8 query.engineType),
    member "capacity" (.int engineClassCapacity)]), .obj members query.name.toList :: stack⟩
    (.lit rfl (feeds_word (Json.word_nat _) (feeds_delimiter (Json.word_nat _) rfl rfl rfl rfl))) ?_
  refine wp_printf_bind ⟨.key (resultMembers _ query.result ++ [member "engine_type" (hexJson 8 query.engineType),
    member "capacity" (.int engineClassCapacity), member "num_classes" (natJson query.numClasses)]),
    .obj members query.name.toList :: stack⟩
    (.lit rfl (feeds_word (Json.word_nat _) (feeds_delimiter (Json.word_nat _) rfl rfl rfl rfl))) ?_
  refine wp_printf_bind (itemsRead [] (inside members query.name (resultMembers _ query.result ++ [
    member "engine_type" (hexJson 8 query.engineType), member "capacity" (.int engineClassCapacity),
    member "num_classes" (natJson query.numClasses)]) "classes" stack)) (.lit rfl rfl) ?_
  refine wp_bind ((wp_shown (query.classes.map (hexJson 8)) _ (wp_entries _ (safeCount_le _ _) ?_)).mono ?_)
  · intro i hi us hus
    rw [Vector.getElem_map]
    refine wp_bind (wp_get hi ?_)
    exact wp_printf (feeds_separator hus (fun _ _ => rfl)
      (feeds_item rfl rfl (feeds_text (plain_fmtX 8 _) (.lit rfl rfl)))) rfl
  · rintro _ st rfl
    cases trailingComma
    · exact wp_printf (feeds_close (.lit rfl (.lit rfl (.lit rfl rfl)))) rfl
    · exact wp_printf (feeds_close (.lit rfl (.lit rfl (.lit rfl rfl)))) rfl

/-- The bytes of a name, as digits of a string. -/
theorem printName_wp {n : Nat} (name : Vector NvU8 n) : Print.wp Json.step
      (Print.forRange n fun j => do
        let byte ← Print.get name j
        printf [fmtX 2 byte])
      (fun _ st => st = ⟨.string .value (name.toList.flatMap fun byte => (fmtX 2 byte).toList) .none, stack⟩)
      ⟨.string .value [] .none, stack⟩ := by
  refine (Print.wp_forRange (fun j st => st = ⟨.string .value ((name.toList.take j).flatMap
    fun byte => (fmtX 2 byte).toList) .none, stack⟩) ?_ rfl).mono ?_
  · rintro j hj st rfl
    refine wp_bind (wp_get hj (wp_printf (feeds_text (plain_fmtX 2 _) rfl) ?_))
    simp [List.take_add_one, hj]
  · rintro _ st rfl
    rw [List.take_of_length_le (by simp)]

theorem printDeviceInfoTable_wp (hst : KeyNext st members stack) (result : ControlResult) (params : DeviceInfoTable) :
    Print.wp Json.step (printDeviceInfoTable result params)
      (fun _ st' => st' = ⟨.key (members ++ [member "fifo_device_info" (deviceInfoJson result params)]),
        stack⟩) st := by
  refine wp_bind ((printResultHeader_wp (by decide) hst _ result).mono ?_)
  rintro _ st rfl
  refine wp_printf_bind ⟨.key (resultMembers _ result ++ [member "base_index" (natJson params.baseIndex)]),
    .obj members "fifo_device_info".toList :: stack⟩
    (.lit rfl (feeds_word (Json.word_nat _) (feeds_delimiter (Json.word_nat _) rfl rfl rfl rfl))) ?_
  refine wp_printf_bind ⟨.key (resultMembers _ result ++ [member "base_index" (natJson params.baseIndex),
    member "num_entries" (natJson params.numEntries)]), .obj members "fifo_device_info".toList :: stack⟩
    (.lit rfl (feeds_word (Json.word_nat _) (feeds_delimiter (Json.word_nat _) rfl rfl rfl rfl))) ?_
  refine wp_printf_bind ⟨.key (resultMembers _ result ++ [member "base_index" (natJson params.baseIndex),
    member "num_entries" (natJson params.numEntries), member "more" (.bool (params.more ≠ 0))]),
    .obj members "fifo_device_info".toList :: stack⟩
    (.lit rfl (feeds_word (word_fmtBool _) (feeds_delimiter (word_fmtBool _) rfl rfl rfl rfl))) ?_
  refine wp_printf_bind (itemsRead [] (inside members "fifo_device_info" (resultMembers _ result ++ [
    member "base_index" (natJson params.baseIndex), member "num_entries" (natJson params.numEntries),
    member "more" (.bool (params.more ≠ 0))]) "entries" stack)) (.lit rfl rfl) ?_
  refine wp_listed (params.entries.map deviceEntryItem) (safeCount_le _ _) ?_ (fun _ => wp_space_when (by decide))
    (wp_printf (feeds_close (.lit rfl rfl)) rfl)
  intro i hi us hus
  rw [Vector.getElem_map]
  refine wp_bind (wp_get hi ?_)
  refine wp_printf_bind ⟨.string .value [] .none, .obj [] "engine_name_hex".toList :: .arr us :: _⟩
    (feeds_separator hus (fun _ _ => rfl) (feeds_item rfl rfl rfl)) ?_
  refine wp_bind ((printName_wp params.entries[i].engineName).mono ?_)
  rintro _ st rfl
  refine wp_printf_bind (itemsRead [] (.obj [member "engine_name_hex" (.str (params.entries[i].engineName.toList.flatMap
      fun byte => (fmtX 2 byte).toList)), member "num_pbdmas" (natJson params.entries[i].numPbdmas)]
      "engine_data".toList :: .arr us :: _))
    (.lit rfl (feeds_word (Json.word_nat _) (feeds_delimiter (Json.word_nat _) rfl rfl rfl rfl))) ?_
  refine wp_bind ((wp_entries (params.entries[i].engineData.map (hexJson 8)) (Nat.le_refl 16) ?_).mono ?_)
  · intro j hj vs hvs
    rw [Vector.getElem_map]
    refine wp_bind (wp_get hj ?_)
    exact wp_printf (feeds_separator hvs (fun _ _ => rfl)
      (feeds_item rfl rfl (feeds_text (plain_fmtX 8 _) (.lit rfl rfl)))) rfl
  · intro _ st hst
    rw [show st = _ from hst, List.take_of_length_le (by simp), Vector.toList_map]
    exact wp_printf (feeds_close (.lit rfl rfl)) rfl

end Cmp50Unlock.Verify
