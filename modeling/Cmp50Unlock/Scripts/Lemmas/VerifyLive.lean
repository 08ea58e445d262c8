import Cmp50Unlock.Scripts.VerifyLive

/-!
# When the live verification succeeds, and what it prints
-/

namespace Cmp50Unlock.Scripts

open Lib
open Lib.Transcript (Leaves leaves_pure leaves_exit leaves_silent leaves_emit)
open Verify (verify passed)

variable {m : Machine} {index : List Char} {bdfs : List (List Char)} {round n : Nat} {event : LiveEvent} {text : String}

/-! ## A card -/

/-- The probe and the verdict accept what `argument` stands for. -/
def Machine.Accepts (m : Machine) (argument : List Char) : Prop :=
  ∃ report, m.probe argument = some (0, report) ∧ verify report = .ok passed

theorem verify_eq_passed {source verdict : String} (h : verify source = .ok verdict) : verdict = passed := by
  rw [verify] at h
  cases hloads : (Json.loads source).elim (Except.error Verify.PyError.jsonDecodeError) Except.ok with
  | error e =>
      rw [hloads] at h
      cases h
  | ok report =>
      rw [hloads] at h
      change (Verify.checkReport report >>= fun _ => Except.ok passed) = .ok verdict at h
      cases hreport : Verify.checkReport report with
      | error e =>
          rw [hreport] at h
          cases h
      | ok _ =>
          rw [hreport] at h
          cases h
          rfl

/-- The turn of a card, with what it leaves if the probe succeeds. -/
theorem result_checkCard : (checkCard m index).result = .ok ⟨⟩ ↔ m.Accepts index := by
  unfold checkCard Machine.Accepts
  cases hprobe : m.probe index with
  | none => simp
  | some outcome =>
      obtain ⟨status, report⟩ := outcome
      by_cases hstatus : status = 0
      · subst hstatus
        cases hverdict : verify report with
        | error e => simp [hverdict]
        | ok verdict => simp [hverdict, verify_eq_passed hverdict]
      · simp [hstatus]

theorem check_mem_checkCard {index' : List Char} {report : String} :
    .check index' report ∈ (checkCard m index).events ↔ index' = index ∧ m.probe index = some (0, report) := by
  unfold checkCard
  cases hprobe : m.probe index with
  | none => simp
  | some outcome =>
      obtain ⟨status, report'⟩ := outcome
      by_cases hstatus : status = 0
      · subst hstatus
        cases hverdict : verify report' with
        | error e => simp [hverdict, eq_comm]
        | ok verdict => simp [hverdict, eq_comm]
      · simp [hstatus]

theorem line_mem_checkCard :
    .line text ∈ (checkCard m index).events ↔ text = passRmLine index ∧ m.Accepts index := by
  unfold checkCard Machine.Accepts
  cases hprobe : m.probe index with
  | none => simp
  | some outcome =>
      obtain ⟨status, report⟩ := outcome
      by_cases hstatus : status = 0
      · subst hstatus
        cases hverdict : verify report with
        | error e => simp [hverdict]
        | ok verdict => simp [hverdict, verify_eq_passed hverdict]
      · simp [hstatus]

/-! ## What the other parts leave -/

/-- An event that is neither a check nor a line on stdout. -/
def LiveEvent.IsNote : LiveEvent → Prop
  | .output _ | .error _ => True
  | .check _ _ | .line _ => False

theorem quiet_fail {α : Type} {message : String} : (fail message : Live α).Leaves LiveEvent.IsNote :=
  (leaves_emit trivial).bind fun _ => leaves_exit

@[simp] theorem result_fail {α : Type} {message : String} {a : α} : (fail message : Live α).result ≠ .ok a := by
  unfold fail
  simp

theorem quiet_findArtifact {release : String} : (findArtifact m release).Leaves LiveEvent.IsNote :=
  leaves_silent.bind fun _ => leaves_pure.ite quiet_fail

theorem quiet_prepareLive : (prepareLive m).Leaves LiveEvent.IsNote := by
  refine leaves_silent.bind fun release => quiet_fail.ite ?_
  refine leaves_silent.bind fun table => (leaves_emit trivial).bind fun _ => ?_
  exact quiet_findArtifact.bind fun _ => leaves_silent.bind fun _ => leaves_pure

theorem quiet_checkMemory : (checkMemory m).Leaves LiveEvent.IsNote :=
  quiet_fail.ite (Leaves.forM fun _ => leaves_pure.ite quiet_fail)

theorem quiet_readSpeed {bdf : List Char} : (readSpeed m round bdf).Leaves LiveEvent.IsNote := by
  unfold readSpeed
  split
  · exact leaves_exit
  · exact leaves_pure

theorem quiet_allAtGen2 : (allAtGen2 m round bdfs).Leaves LiveEvent.IsNote := by
  induction bdfs with
  | nil => exact leaves_pure
  | cons bdf bdfs ih => exact quiet_readSpeed.bind fun _ => ih.bind fun _ => leaves_pure

theorem quiet_waitForGen2 : (waitForGen2 m round n).Leaves LiveEvent.IsNote := by
  induction n generalizing round with
  | zero => exact leaves_pure
  | succ n ih => exact quiet_allAtGen2.bind fun _ => leaves_pure.ite (leaves_silent.bind fun _ => ih)

theorem quiet_checkGen2 : (checkGen2 m).Leaves LiveEvent.IsNote := by
  refine quiet_fail.ite (quiet_fail.ite ?_)
  refine (Leaves.forM fun _ => leaves_pure.ite quiet_fail).bind fun _ => quiet_waitForGen2.bind fun _ => ?_
  refine leaves_pure.ite (Leaves.bind (Leaves.forM fun bdf => ?_) fun _ => leaves_exit)
  exact quiet_readSpeed.bind fun _ => leaves_emit trivial

/-! ## When they succeed -/

/-- What the lines before the loop ask for. -/
structure Machine.Starts (m : Machine) : Prop where
  listed : m.gpuIndices ≠ []
  table : ∃ table, m.gpuTable = .ok table
  artifact : ∃ release probe, m.uname = .ok release ∧ m.artifactProbe release = .ok probe ∧ m.isExecutable probe
  temporary : ∃ path, m.mktemp = .ok path

theorem result_prepareLive : (prepareLive m).result = .ok ⟨⟩ ↔ m.Starts := by
  have hartifact : ∀ release, (findArtifact m release).result = .ok ⟨⟩ ↔
      ∃ probe, m.artifactProbe release = .ok probe ∧ m.isExecutable probe := by
    intro release
    simp [findArtifact, apply_ite Transcript.result]
  unfold prepareLive
  by_cases hlisted : m.gpuIndices = []
  · simp only [hlisted, if_true, Transcript.result_bind, result_fail, and_false, exists_false, false_iff]
    exact fun h => h.listed hlisted
  · simp only [hlisted, if_false, Transcript.result_bind, Transcript.result_silent, hartifact]
    constructor
    · rintro ⟨release, hrelease, table, htable, -, -, -, ⟨probe, hprobe⟩, path, hpath, -⟩
      exact ⟨hlisted, ⟨table, htable⟩, ⟨release, probe, hrelease, hprobe⟩, ⟨path, hpath⟩⟩
    · rintro ⟨-, ⟨table, htable⟩, ⟨release, probe, hrelease, hprobe⟩, ⟨path, hpath⟩⟩
      exact ⟨release, hrelease, table, htable, ⟨⟩, rfl, ⟨⟩, ⟨probe, hprobe⟩, path, hpath, rfl⟩

/-- The totals are as many as the cards, and all are large enough. -/
def Machine.Enough (m : Machine) (least : Nat) (totals : List Word) : Prop :=
  totals.length = m.gpuIndices.length ∧ ∀ total ∈ totals, total.atLeast least

theorem result_checkMemory : (checkMemory m).result = .ok ⟨⟩ ↔ m.Enough 9500 (m.memoryTotals m.selectedGpus) := by
  unfold checkMemory Machine.Enough
  by_cases hlength : (m.memoryTotals m.selectedGpus).length = m.gpuIndices.length
  · rw [if_neg (not_not.mpr hlength), Transcript.result_forM]
    have hfst : ((m.memoryTotals m.selectedGpus).zip m.gpuIndices).map Prod.fst = m.memoryTotals m.selectedGpus :=
      List.map_fst_zip (Nat.le_of_eq hlength)
    nth_rewrite 3 [← hfst]
    simp [hlength, apply_ite Transcript.result]
  · rw [if_pos hlength]
    simp [hlength]

/-- The link is at Gen2 in a round. -/
def Machine.Gen2At (m : Machine) (round : Nat) (bdf : List Char) : Prop :=
  (m.linkSpeed round bdf).bind readLine = some gen2Speed.toList

theorem result_readSpeed {bdf speed : List Char} :
    (readSpeed m round bdf).result = .ok speed ↔ (m.linkSpeed round bdf).bind readLine = some speed := by
  unfold readSpeed
  cases (m.linkSpeed round bdf).bind readLine with
  | none => simp
  | some speed => simp

theorem result_allAtGen2 : (allAtGen2 m round bdfs).result = .ok true ↔ ∀ bdf ∈ bdfs, m.Gen2At round bdf := by
  induction bdfs with
  | nil => simp [allAtGen2]
  | cons bdf bdfs ih =>
      simp only [allAtGen2, Transcript.result_bind, Transcript.result_pure, result_readSpeed, Except.ok.injEq,
        Bool.and_eq_true, beq_iff_eq, List.forall_mem_cons, ← ih]
      constructor
      · rintro ⟨speed, hspeed, others, hothers, rfl, rfl⟩
        exact ⟨hspeed, hothers⟩
      · rintro ⟨hspeed, hothers⟩
        exact ⟨_, hspeed, true, hothers, rfl, rfl⟩

/-- The rounds find the links at Gen2 only if they are in one of them. -/
theorem gen2_of_waitForGen2 (h : (waitForGen2 m round n).result = .ok true) :
    ∃ k, k < n ∧ ∀ bdf ∈ m.cmpBdfs, m.Gen2At (round + k) bdf := by
  induction n generalizing round with
  | zero => cases h
  | succ n ih =>
      obtain ⟨all, hall, h⟩ := Transcript.result_bind.mp h
      cases all with
      | true => exact ⟨0, Nat.succ_pos n, result_allAtGen2.mp hall⟩
      | false =>
          obtain ⟨-, -, h⟩ := Transcript.result_bind.mp h
          obtain ⟨k, hk, hgen2⟩ := ih h
          rw [Nat.add_right_comm] at hgen2
          exact ⟨k + 1, Nat.succ_lt_succ hk, hgen2⟩

/-- The speeds can be read in every round. -/
def Machine.ReadsSpeeds (m : Machine) : Prop :=
  ∀ round, ∀ bdf ∈ m.cmpBdfs, ∃ speed, (m.linkSpeed round bdf).bind readLine = some speed

theorem allAtGen2_completes (h : ∀ bdf ∈ bdfs, ∃ speed, (m.linkSpeed round bdf).bind readLine = some speed) :
    ∃ all, (allAtGen2 m round bdfs).result = .ok all := by
  induction bdfs with
  | nil => exact ⟨true, rfl⟩
  | cons bdf bdfs ih =>
      obtain ⟨hbdf, hbdfs⟩ := List.forall_mem_cons.mp h
      obtain ⟨speed, hspeed⟩ := hbdf
      obtain ⟨all, hall⟩ := ih hbdfs
      refine ⟨speed == gen2Speed.toList && all, ?_⟩
      exact Transcript.result_bind.mpr ⟨speed, result_readSpeed.mpr hspeed, Transcript.result_bind.mpr ⟨all, hall, rfl⟩⟩

/-- They are found at Gen2 if they are in one of the rounds. -/
theorem waitForGen2_of_gen2 (hspeeds : m.ReadsSpeeds) (hsleep : m.sleep = .ok ⟨⟩) {k : Nat} (hk : k < n)
    (h : ∀ bdf ∈ m.cmpBdfs, m.Gen2At (round + k) bdf) : (waitForGen2 m round n).result = .ok true := by
  induction n generalizing round k with
  | zero => cases hk
  | succ n ih =>
      obtain ⟨all, hall⟩ := allAtGen2_completes (hspeeds round)
      apply Transcript.result_bind.mpr
      cases all with
      | true => exact ⟨true, hall, rfl⟩
      | false =>
          refine ⟨false, hall, Transcript.result_bind.mpr ⟨⟨⟩, hsleep, ?_⟩⟩
          cases k with
          | zero =>
              have htrue := result_allAtGen2.mpr h
              rw [Nat.add_zero, hall] at htrue
              cases htrue
          | succ k =>
              apply ih (Nat.lt_of_succ_lt_succ hk)
              rwa [Nat.add_right_comm]

theorem result_checkGen2 : (checkGen2 m).result = .ok ⟨⟩ ↔ m.isActive ∧
    m.Enough 16000 (m.bar1Totals m.selectedGpus) ∧ (waitForGen2 m 0 15).result = .ok true := by
  unfold checkGen2 Machine.Enough
  by_cases hactive : m.isActive
  · by_cases hlength : (m.bar1Totals m.selectedGpus).length = m.gpuIndices.length
    · rw [if_neg (not_not.mpr hactive), if_neg (not_not.mpr hlength)]
      simp only [Transcript.result_bind, hactive, hlength, true_and]
      constructor
      · rintro ⟨⟨⟩, htotals, all, hall, h⟩
        cases all with
        | true => exact ⟨by simpa [apply_ite Transcript.result] using Transcript.result_forM.mp htotals, hall⟩
        | false => simp at h
      · rintro ⟨htotals, hgen2⟩
        refine ⟨⟨⟩, Transcript.result_forM.mpr ?_, true, hgen2, rfl⟩
        simpa [apply_ite Transcript.result] using htotals
    · rw [if_neg (not_not.mpr hactive), if_pos hlength]
      simp [hlength]
  · rw [if_pos hactive]
    simp [hactive]

/-! ## The script -/

theorem quiet_checkService : (checkService m).Leaves LiveEvent.IsNote := quiet_checkGen2.ite leaves_pure

theorem result_checkService :
    (checkService m).result = .ok ⟨⟩ ↔ (m.isEnabled → (checkGen2 m).result = .ok ⟨⟩) := by
  unfold checkService
  split
  next henabled => simp [henabled]
  next henabled => simp [henabled]

theorem result_verifyLive : (verifyLive m).result = .ok ⟨⟩ ↔ m.Starts ∧ (∀ index ∈ m.gpuIndices, m.Accepts index) ∧
    m.Enough 9500 (m.memoryTotals m.selectedGpus) ∧ (m.isEnabled → (checkGen2 m).result = .ok ⟨⟩) := by
  have hcards : (m.gpuIndices.forM (checkCard m)).result = .ok ⟨⟩ ↔ ∀ index ∈ m.gpuIndices, m.Accepts index := by
    simp only [Transcript.result_forM, result_checkCard]
  rw [← result_prepareLive, ← hcards, ← result_checkMemory, ← result_checkService]
  unfold verifyLive
  simp only [Transcript.result_bind]
  constructor
  · rintro ⟨⟨⟩, hstarts, ⟨⟩, hcards, ⟨⟩, hmemory, ⟨⟩, hservice, -⟩
    exact ⟨hstarts, hcards, hmemory, hservice⟩
  · rintro ⟨hstarts, hcards, hmemory, hservice⟩
    exact ⟨⟨⟩, hstarts, ⟨⟩, hcards, ⟨⟩, hmemory, ⟨⟩, hservice, rfl⟩

/-- What the script leaves, apart from the notes. -/
theorem mem_verifyLive (hnote : ¬event.IsNote) : event ∈ (verifyLive m).events ↔
    (m.Starts ∧ event ∈ (m.gpuIndices.forM (checkCard m)).events) ∨
      ((verifyLive m).result = .ok ⟨⟩ ∧ event = .line (passLiveLine m.gpuIndices.length)) := by
  rw [← result_prepareLive]
  unfold verifyLive
  simp only [Transcript.mem_events_bind, Transcript.result_bind, Transcript.events_emit, List.mem_singleton]
  constructor
  · rintro (h | ⟨⟨⟩, hstarts, h | ⟨⟨⟩, hcards, h | ⟨⟨⟩, hmemory, h | ⟨⟨⟩, hservice, h⟩⟩⟩⟩)
    · exact absurd (quiet_prepareLive _ h) hnote
    · exact .inl ⟨hstarts, h⟩
    · exact absurd (quiet_checkMemory _ h) hnote
    · exact absurd (quiet_checkService _ h) hnote
    · exact .inr ⟨⟨⟨⟩, hstarts, ⟨⟩, hcards, ⟨⟩, hmemory, ⟨⟩, hservice, rfl⟩, h⟩
  · rintro (⟨hstarts, h⟩ | ⟨⟨⟨⟩, hstarts, ⟨⟩, hcards, ⟨⟩, hmemory, ⟨⟩, hservice, -⟩, h⟩)
    · exact .inr ⟨⟨⟩, hstarts, .inl h⟩
    · exact .inr ⟨⟨⟩, hstarts, .inr ⟨⟨⟩, hcards, .inr ⟨⟨⟩, hmemory, .inr ⟨⟨⟩, hservice, h⟩⟩⟩⟩

/-- The report that is checked for an index is what the probe printed for it. -/
theorem check_mem_verifyLive {report : String} (h : .check index report ∈ (verifyLive m).events) :
    index ∈ m.gpuIndices ∧ m.probe index = some (0, report) := by
  rcases (mem_verifyLive id).mp h with ⟨-, h⟩ | ⟨-, h⟩
  · obtain ⟨before, index', after, hindices, -, h⟩ := Transcript.mem_events_forM.mp h
    obtain ⟨rfl, hprobe⟩ := check_mem_checkCard.mp h
    rw [hindices]
    exact ⟨List.mem_append_right _ (.head _), hprobe⟩
  · cases h

theorem toList_passRmLine : (passRmLine index).toList = "PASS_CMP50_RM: GPU ".toList ++ index :=
  calc (passRmLine index).toList = "PASS_CMP50_RM: GPU ".toList ++ (String.ofList index).toList := String.toList_append
    _ = _ := congrArg (_ ++ ·) String.toList_ofList

theorem toList_passLiveLine :
    (passLiveLine n).toList = "PASS_CMP50_LIVE: ".toList ++ ((toString n).toList ++ " card(s) visible".toList) :=
  calc (passLiveLine n).toList = ("PASS_CMP50_LIVE: " ++ toString n).toList ++ " card(s) visible".toList :=
        String.toList_append
    _ = ("PASS_CMP50_LIVE: ".toList ++ (toString n).toList) ++ " card(s) visible".toList :=
        congrArg (· ++ _) String.toList_append
    _ = _ := List.append_assoc _ _ _

theorem passRmLine_injective {index' : List Char} (h : passRmLine index = passRmLine index') : index = index' :=
  List.append_cancel_left (toList_passRmLine.symm.trans ((congrArg String.toList h).trans toList_passRmLine))

theorem passLiveLine_ne : passLiveLine n ≠ passRmLine index := by
  intro h
  have hlist := toList_passLiveLine.symm.trans ((congrArg String.toList h).trans toList_passRmLine)
  generalize (toString n).toList ++ " card(s) visible".toList = text at hlist
  simp at hlist

/-- A card is reported in its turn. -/
theorem passRm_mem_verifyLive : .line (passRmLine index) ∈ (verifyLive m).events ↔ m.Starts ∧ m.Accepts index ∧
    ∃ before after, m.gpuIndices = before ++ index :: after ∧ ∀ i ∈ before, m.Accepts i := by
  rw [mem_verifyLive id, Transcript.mem_events_forM]
  constructor
  · rintro (⟨hstarts, before, index', after, hindices, hbefore, h⟩ | ⟨-, h⟩)
    · obtain ⟨hline, haccepts⟩ := line_mem_checkCard.mp h
      cases passRmLine_injective hline
      exact ⟨hstarts, haccepts, before, after, hindices, fun i hi => result_checkCard.mp (hbefore i hi)⟩
    · exact absurd (LiveEvent.line.inj h).symm passLiveLine_ne
  · rintro ⟨hstarts, haccepts, before, after, hindices, hbefore⟩
    refine .inl ⟨hstarts, before, index, after, hindices, fun i hi => result_checkCard.mpr (hbefore i hi), ?_⟩
    exact line_mem_checkCard.mpr ⟨rfl, haccepts⟩

theorem passLive_mem_verifyLive : .line (passLiveLine n) ∈ (verifyLive m).events ↔
    (verifyLive m).result = .ok ⟨⟩ ∧ passLiveLine n = passLiveLine m.gpuIndices.length := by
  rw [mem_verifyLive id, Transcript.mem_events_forM]
  constructor
  · rintro (⟨-, before, index', after, -, -, h⟩ | ⟨hresult, h⟩)
    · exact absurd (line_mem_checkCard.mp h).1 passLiveLine_ne
    · exact ⟨hresult, LiveEvent.line.inj h⟩
  · rintro ⟨hresult, h⟩
    exact .inr ⟨hresult, congrArg _ h⟩

end Cmp50Unlock.Scripts
