import Cmp50Unlock.Verify.Lemmas.Sections

/-!
# The report is read as a whole
-/

namespace Cmp50Unlock.Verify

open Lib
open Lib.Json (State Frame PlainText feeds_word feeds_delimiter)
open Lib.Print (wp_bind wp_printf wp_printf_bind wp_get wp_pure)

variable {members : List (List Char × Json)} {stack : List Frame}

theorem printQuery_wp {queries : Vector EngineClassQuery 4} (hnames : ∀ query ∈ queries.toList, PlainText query.name)
    {i : Nat} (hi : i < 4) {st : State} (hst : KeyNext st members stack) :
    Print.wp Json.step (do
        let query ← Print.get queries i
        printEngineClasses query (i + 1 < 4))
      (fun _ st' => st' =
        if i + 1 < 4 then ⟨.key (members ++ [member queries[i].name (engineClassesJson queries[i])]), stack⟩
        else ⟨.after (engineClassesJson queries[i]), .obj members queries[i].name.toList :: stack⟩) st := by
  have hname : PlainText queries[i].name := hnames _ (by simp)
  refine wp_bind (wp_get hi ((printEngineClasses_wp hname hst _).mono fun _ st' hst' => ?_))
  simpa using hst'

theorem printReport_wp (deviceIndex : Int) (c : Controls)
    (hnames : ∀ query ∈ c.engineClasses.toList, PlainText query.name) :
    Print.wp Json.step (printReport deviceIndex c)
      (fun _ st => st = ⟨.after (reportJson deviceIndex c), []⟩) Json.start := by
  refine wp_printf_bind ⟨.member, []⟩ (.lit rfl rfl) ?_
  refine wp_printf_bind ⟨.key [member "mode" (textJson "NVIDIA RM GET controls only")], []⟩ (.lit rfl rfl) ?_
  refine wp_printf_bind ⟨.key [member "mode" (textJson "NVIDIA RM GET controls only"),
    member "device_index" (.int deviceIndex)], []⟩
    (.lit rfl (feeds_word (Json.word_int _) (feeds_delimiter (Json.word_int _) rfl rfl rfl rfl))) ?_
  refine wp_printf_bind ⟨.member, [.obj [member "mode" (textJson "NVIDIA RM GET controls only"),
    member "device_index" (.int deviceIndex)] "controls".toList]⟩ (.lit rfl rfl) ?_
  refine wp_bind ((printV1_wp keyNext_member c.v1.1 c.v1.2).mono ?_)
  rintro _ st rfl
  refine wp_bind ((printInfoList_wp (by decide) keyNext_key _ c.v2.1 c.v2.2.listSize c.v2.2.list true false).mono ?_)
  rintro _ st rfl
  refine wp_bind ((printGpuInfo_wp keyNext_key c.gpuInfo.1 c.gpuInfo.2.list).mono ?_)
  rintro _ st rfl
  refine wp_bind ((printGrInfo_wp keyNext_key c.grInfo.1 c.grInfo.2).mono ?_)
  rintro _ st rfl
  refine wp_bind ((printContextBuffers_wp keyNext_key c.contextBuffers).mono ?_)
  rintro _ st rfl
  refine wp_bind ((printConstructedFalcons_wp keyNext_key c.falcons.1 c.falcons.2).mono ?_)
  rintro _ st rfl
  refine wp_bind ((printEngineList_wp keyNext_key c.engines.1 c.engines.2).mono ?_)
  rintro _ st rfl
  refine wp_bind ((printDeviceInfoTable_wp keyNext_key c.deviceInfo.1 c.deviceInfo.2).mono ?_)
  rintro _ st rfl
  refine wp_bind (wp_bind ((printQuery_wp hnames (by decide) keyNext_key).mono ?_))
  rintro _ st rfl
  refine wp_bind ((printQuery_wp hnames (by decide) keyNext_key).mono ?_)
  rintro _ st rfl
  refine wp_bind ((printQuery_wp hnames (by decide) keyNext_key).mono ?_)
  rintro _ st rfl
  refine wp_bind ((printQuery_wp hnames (by decide) keyNext_key).mono ?_)
  rintro _ st rfl
  refine wp_pure ?_
  refine wp_printf_bind ⟨.after (controlsJson c), [.obj [member "mode" (textJson "NVIDIA RM GET controls only"),
    member "device_index" (.int deviceIndex)] "controls".toList]⟩ (.lit ?_ rfl) ?_
  · rw [controlsJson, toList_eq]
    rfl
  · exact wp_printf (.lit rfl rfl) rfl

/-- The text of the report decodes, and no array is read outside its bounds. -/
theorem printReport_loads (deviceIndex : Int) (c : Controls)
    (hnames : ∀ query ∈ c.engineClasses.toList, PlainText query.name) :
    ∃ text, (printReport deviceIndex c).run "" = some (⟨⟩, text) ∧
    Json.loads text = some (reportJson deviceIndex c) := by
  obtain ⟨_, text, st, hrun, hfeed, rfl⟩ := printReport_wp deviceIndex c hnames ""
  refine ⟨text, by simpa using hrun, ?_⟩
  rw [Json.loads, hfeed]
  rfl

end Cmp50Unlock.Verify
