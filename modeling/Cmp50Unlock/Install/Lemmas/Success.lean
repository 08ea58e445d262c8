import Cmp50Unlock.Install.Lemmas.Changes

/-!
# An installation that succeeds
-/

namespace Cmp50Unlock.Install

open Lib
open Lib.Script (Meets meets_bind meets_pure meets_ite meets_when meets_sh meets_attempt meets_embed meets_throw
  meets_forM_all meets_orFail_of)
open Scripts (Signal)

variable {h : Host} {d : Disk} {w w' : World} {o : ChangeOp} {opts : Options} {p : Path} {backupDir : String}

/-! ## Rules -/

/-- What holds if the script returns. -/
abbrev Achieves (h : Host) {α : Type} (p : Change α) (w : World) (Q : α → World → Prop) : Prop :=
  Meets (ChangeStep h) p w Q fun _ _ => True

theorem sh_achieves {Q : o.Out → World → Prop} (hQ : ∀ out w', w.Frame h o w' → w.Changed h o w' → Q out w') :
    Achieves h (Change.sh o) w Q := by
  rw [Achieves, meets_sh]
  intro done w' hstep
  exact ⟨fun _ hstatus => hQ _ _ hstep.2.1 (hstep.2.2 hstatus), fun _ _ => trivial, fun _ _ => trivial⟩

theorem attempt_achieves {Q : Done Signal o.Out → World → Prop}
    (hQ : ∀ done w', w.Tells h o done → w.Frame h o w' → (done.status = 0 → w.Changed h o w') → Q done w') :
    Achieves h (Change.attempt o) w Q := by
  rw [Achieves, meets_attempt]
  intro done w' hstep
  exact ⟨fun hsignal => hQ _ _ (hstep.1 hsignal) hstep.2.1 hstep.2.2, fun _ _ => trivial⟩

theorem orDie_achieves {holds : Bool} {message : String} {Q : Unit → World → Prop} (hQ : holds = true → Q () w) :
    Achieves h (Scripts.Shell.orDie holds message) w Q := meets_orFail_of (fun _ _ _ => trivial) hQ

/-- A command that changes nothing that is modelled. -/
structure Quiet (h : Host) (o : ChangeOp) : Prop where
  files : ∀ p, ¬o.Targets h p
  enable : o ≠ .enable
  disable : o ≠ .disable
  depmod : o ≠ .depmod
  build : o ≠ .build

theorem Quiet.same (ho : Quiet h o) (hframe : w.Frame h o w') : w' = w := by
  have hdisk : w'.disk = w.disk :=
    Disk.ext (funext fun p => hframe.files p (ho.files p)) (hframe.wanted ho.enable ho.disable)
      (hframe.selected ho.depmod) hframe.rootMode
  have hbackup := hframe.backup
  have hartifacts := hframe.artifacts ho.build
  cases w
  cases w'
  simp only at hdisk hbackup hartifacts
  rw [hdisk, hbackup, hartifacts]

theorem quiet_sh {Q : o.Out → World → Prop} (ho : Quiet h o) (hQ : ∀ out, Q out w) : Achieves h (Change.sh o) w Q :=
  sh_achieves fun out w' hframe _ => by
    rw [ho.same hframe]
    exact hQ out

theorem quiet_attempt {Q : Done Signal o.Out → World → Prop} (ho : Quiet h o)
    (hQ : ∀ done, w.Tells h o done → Q done w) :
    Achieves h (Change.attempt o) w Q :=
  attempt_achieves fun done w' htells hframe _ => by
    rw [ho.same hframe]
    exact hQ done htells

/-! ## Up to the artifact -/

/-- The service is as it was. -/
structure Unserved (d d' : Disk) : Prop where
  helper : d'.files .helper = d.files .helper
  unit : d'.files .unit = d.files .unit
  wanted : d'.wanted = d.wanted

theorem Unserved.frame (hd : Unserved d w.disk) (hframe : w.Frame h o w') (hhelper : ¬o.Targets h .helper)
    (hunit : ¬o.Targets h .unit) (henable : o ≠ .enable) (hdisable : o ≠ .disable) : Unserved d w'.disk where
  helper := (hframe.files _ hhelper).trans hd.helper
  unit := (hframe.files _ hunit).trans hd.unit
  wanted := (hframe.wanted henable hdisable).trans hd.wanted

/-- Nothing is installed yet but the userspace. -/
structure Begun (h : Host) (opts : Options) (d d' : Disk) : Prop where
  files : ∀ p, ¬Foreign h opts.installUserland p → d'.files p = d.files p
  service : Unserved d d'

theorem begun_self : Begun h opts d d := ⟨fun _ _ => rfl, ⟨rfl, rfl, rfl⟩⟩

theorem installUserland_achieves (huserland : opts.installUserland = true) (hw : Begun h opts d w.disk) :
    Meets UserlandStep Userland.installUserland w (fun _ w' => Begun h opts d w'.disk) fun _ _ => True := by
  refine (Script.meets_inv (I := fun w => Begun h opts d w.disk) ?_ hw).mono (fun _ _ => id) fun _ _ _ => trivial
  rintro o w₁ done w₂ ⟨disk, rfl, hdisk, -⟩ hw₁
  refine ⟨fun p hp => ?_, ?_, ?_, ?_⟩
  · rw [hdisk.files p fun hlib => hp (.inr ⟨huserland, hlib⟩)]
    exact hw₁.files p hp
  · exact (hdisk.files _ (by simp [Path.isLib])).trans hw₁.service.helper
  · exact (hdisk.files _ (by simp [Path.isLib])).trans hw₁.service.unit
  · exact hdisk.wanted.trans hw₁.service.wanted

theorem checkUserspace_achieves : Achieves h Change.checkUserspace w fun _ w' => w' = w := by
  have hsource : Quiet h .sourceUserspace := ⟨fun _ => id, by simp, by simp, by simp, by simp⟩
  have hmatches : Quiet h .userspaceMatches := ⟨fun _ => id, by simp, by simp, by simp, by simp⟩
  simp only [Achieves, Change.checkUserspace, meets_bind]
  exact quiet_sh hsource fun _ => quiet_attempt hmatches fun _ _ => orDie_achieves fun _ => rfl

/-- A build changes the artifacts only. -/
theorem buildArtifact_achieves {release : Release} :
    Achieves h (Change.buildArtifact opts release) w fun _ w' => w'.disk = w.disk := by
  have htest : Quiet h .testChecksums := ⟨fun _ => id, by simp, by simp, by simp, by simp⟩
  have hverify : Quiet h .verifyArtifact := ⟨fun _ => id, by simp, by simp, by simp, by simp⟩
  have hlog : Quiet h (.log ("building stage " ++ opts.stage ++ " for " ++ String.ofList release)) :=
    ⟨fun _ => id, by simp, by simp, by simp, by simp⟩
  simp only [Achieves, Change.buildArtifact, meets_bind]
  refine quiet_attempt htest fun done _ => ?_
  rw [meets_when]
  refine ⟨fun _ => ?_, fun _ => quiet_sh hverify fun _ => rfl⟩
  rw [meets_bind]
  refine quiet_sh hlog fun _ => sh_achieves fun _ w₁ hframe _ => quiet_sh hverify fun _ => ?_
  exact Disk.ext (funext fun p => hframe.files p id) (hframe.wanted (by simp) (by simp)) (hframe.selected (by simp))
    hframe.rootMode

/-! ## The modules -/

/-- The modules are installed, and what is not to be written is as it was. -/
structure Placed (h : Host) (opts : Options) (d : Disk) (w : World) : Prop where
  modules : ∀ m content, w.artifacts m = some content → w.disk.files (updates h.release m) = some ⟨content, 0o644⟩
  others : ∀ p, ¬Written h opts w.artifacts p → w.disk.files p = d.files p

/-- While the modules are installed. -/
structure Placing (h : Host) (opts : Options) (d : Disk) (artifacts : Module → Option (List UInt8))
    (w : World) : Prop where
  others : ∀ p, ¬Written h opts artifacts p → w.disk.files p = d.files p
  service : Unserved d w.disk
  artifacts : w.artifacts = artifacts

theorem installModule_achieves {m : Module} {artifacts : Module → Option (List UInt8)}
    (hw : Placing h opts d artifacts w) :
    Achieves h (Change.installModule m) w fun _ w' =>
      (∀ content, artifacts m = some content → w'.disk.files (updates h.release m) = some ⟨content, 0o644⟩) ∧
        Placing h opts d artifacts w' ∧ ∀ p, p ≠ updates h.release m → w'.disk.files p = w.disk.files p := by
  have htest : Quiet h (.testArtifact m) := ⟨fun _ => id, by simp, by simp, by simp, by simp⟩
  rw [Achieves, Change.installModule, meets_bind]
  refine quiet_attempt htest fun done htells => ?_
  have hfound : done.status = 0 ↔ (artifacts m).isSome := hw.artifacts ▸ htells
  rw [meets_ite]
  refine ⟨fun hstatus => ?_, fun hstatus => ?_⟩
  · have hnone : artifacts m = none := by
      rw [← Option.not_isSome_iff_eq_none, ← hfound]
      exact hstatus
    rw [meets_pure]
    refine ⟨fun content hcontent => ?_, hw, fun _ _ => rfl⟩
    rw [hnone] at hcontent
    cases hcontent
  · have hsome : artifacts m ≠ none := Option.isSome_iff_ne_none.mp (hfound.mp (Classical.not_not.mp hstatus))
    refine sh_achieves fun _ w' hframe hchanged => ?_
    have hkeep : ∀ p, p ≠ updates h.release m → w'.disk.files p = w.disk.files p := fun p hp => hframe.files p hp
    refine ⟨fun content hcontent => ?_, ⟨fun p hp => ?_, ?_, ?_⟩, hkeep⟩
    · obtain ⟨bytes, hbytes, hfile⟩ := hchanged
      rw [hw.artifacts, hcontent] at hbytes
      cases hbytes
      exact hfile
    · have hne : p ≠ updates h.release m := by
        rintro rfl
        exact hp (.inl ⟨m, rfl, hsome⟩)
      rw [hkeep p hne, hw.others p hp]
    · exact hw.service.frame hframe (by simp [ChangeOp.Targets, updates])
        (by simp [ChangeOp.Targets, updates]) (by simp)
        (by simp)
    · rw [hframe.artifacts (by simp), hw.artifacts]

theorem installModules_achieves (hw : Begun h opts d w.disk) :
    Achieves h Change.installModules w fun _ w' => Placed h opts d w' ∧ Unserved d w'.disk := by
  have hcreate : Quiet h .createInstallDir := ⟨fun _ => id, by simp, by simp, by simp, by simp⟩
  rw [Achieves, Change.installModules, meets_bind]
  refine quiet_sh hcreate fun _ => ?_
  have hstart : Placing h opts d w.artifacts w := by
    refine ⟨fun p hp => hw.files p fun hforeign => hp ?_, hw.service, rfl⟩
    cases p with
    | lib names => exact .inr hforeign
    | _ => rcases hforeign with hindex | ⟨-, hlib⟩ <;> contradiction
  have hloop : Achieves h (modules.forM Change.installModule) w fun _ w' =>
      (∀ m ∈ modules, ∀ content, w.artifacts m = some content →
        w'.disk.files (updates h.release m) = some ⟨content, 0o644⟩) ∧ Placing h opts d w.artifacts w' := by
    refine meets_forM_all ?_ hstart
    intro m _ w₁ hw₁
    refine (installModule_achieves hw₁).mono ?_ fun _ _ => id
    rintro _ w₂ ⟨hm, hplacing, hkeep⟩
    refine ⟨hm, hplacing, fun m' _ hm' content hcontent => ?_⟩
    by_cases heq : m' = m
    · subst heq
      exact hm content hcontent
    · rw [hkeep _ fun hupdates => heq (updates_inj.mp hupdates)]
      exact hm' content hcontent
  refine hloop.mono ?_ fun _ _ => id
  rintro _ w' ⟨hmodules, hplacing⟩
  refine ⟨⟨fun m content hcontent => ?_, ?_⟩, hplacing.service⟩
  · rw [hplacing.artifacts] at hcontent
    exact hmodules m (mem_modules m) content hcontent
  · rw [hplacing.artifacts]
    exact hplacing.others

/-! ## The stage -/

/-- A command that writes no module. -/
structure Aside (h : Host) (opts : Options) (o : ChangeOp) : Prop where
  modules : ∀ m, ¬o.Targets h (updates h.release m)
  written : ∀ p artifacts, o.Targets h p → Written h opts artifacts p
  build : o ≠ .build

theorem Placed.aside (hw : Placed h opts d w) (ho : Aside h opts o) (hframe : w.Frame h o w') : Placed h opts d w' := by
  have hartifacts := hframe.artifacts ho.build
  refine ⟨fun m content hcontent => ?_, fun p hp => ?_⟩
  · rw [hartifacts] at hcontent
    rw [hframe.files _ (ho.modules m)]
    exact hw.modules m content hcontent
  · rw [hartifacts] at hp
    rw [hframe.files p fun ht => hp (ho.written p _ ht)]
    exact hw.others p hp

/-- The options and the service of a stage. -/
structure Staged (h : Host) (opts : Options) (d : Disk) : Prop where
  gen2 : opts.stage = "gen2" → d.Has .options (h.repo "config/cmp50-gen2.conf") 0o644 ∧
    d.Has .helper (h.repo "scripts/cmp50-gen2-second-pass.sh") 0o755 ∧
    d.Has .unit (h.repo "systemd/cmp50-gen2-second-pass.service") 0o644 ∧ d.wanted = true
  rebar : opts.stage = "rebar" → ∃ mode, d.files .options = some ⟨rebarOptions, mode⟩
  plain : opts.stage ≠ "gen2" → opts.stage ≠ "rebar" → d.files .options = none

/-- Nothing else is of account to it. -/
theorem Staged.same {d' : Disk} (hd : Staged h opts d) (hoptions : d'.files .options = d.files .options)
    (hservice : opts.stage = "gen2" → d'.files .helper = d.files .helper ∧ d'.files .unit = d.files .unit ∧
      d'.wanted = d.wanted) : Staged h opts d' where
  gen2 := by
    intro hstage
    obtain ⟨hhelper, hunit, hwanted⟩ := hservice hstage
    rw [Disk.Has, Disk.Has, Disk.Has, hoptions, hhelper, hunit, hwanted]
    exact hd.gen2 hstage
  rebar := by
    rw [hoptions]
    exact hd.rebar
  plain := by
    rw [hoptions]
    exact hd.plain

theorem aside_of_service (ho : ∀ p, o.Targets h p → p = .options ∨ p = .helper ∨ p = .unit) (hbuild : o ≠ .build) :
    Aside h opts o where
  modules := by
    intro m ht
    rcases ho _ ht with hp | hp | hp
    all_goals cases hp
  written := by
    intro p artifacts ht
    rcases ho p ht with rfl | rfl | rfl
    all_goals trivial
  build := hbuild

/-- The index is written for the installation. -/
theorem aside_depmod : Aside h opts .depmod where
  modules := fun _ => Bool.false_ne_true
  written := by
    intro p artifacts hindex
    cases p with
    | lib names => exact .inr (.inl hindex)
    | _ => cases hindex
  build := by simp

theorem installGen2_achieves (hw : Placed h opts d w) (hstage : opts.stage = "gen2") :
    Achieves h (do
        Change.sh .installOptions
        Change.sh .installHelper
        Change.sh .installUnit
        Change.sh .daemonReload
        Change.sh .enable) w fun _ w' => Placed h opts d w' ∧ Staged h opts w'.disk := by
  have hreload : Quiet h .daemonReload := ⟨fun _ => id, by simp, by simp, by simp, by simp⟩
  have hne : opts.stage ≠ "rebar" := by
    rw [hstage]
    decide
  simp only [Achieves, meets_bind]
  refine sh_achieves fun _ w₁ hframe₁ hoptions => sh_achieves fun _ w₂ hframe₂ hhelper =>
    sh_achieves fun _ w₃ hframe₃ hunit => quiet_sh hreload fun _ => sh_achieves fun _ w₄ hframe₄ hwanted => ⟨?_, ?_⟩
  · have hhelperAside : Aside h opts .installHelper := aside_of_service (fun _ hp => .inr (.inl hp)) (by simp)
    have hunitAside : Aside h opts .installUnit := aside_of_service (fun _ hp => .inr (.inr hp)) (by simp)
    have hw₁ := hw.aside (aside_of_service (fun _ => .inl) (by simp)) hframe₁
    have hw₃ := (hw₁.aside hhelperAside hframe₂).aside hunitAside hframe₃
    exact hw₃.aside (aside_of_service (fun _ => False.elim) (by simp)) hframe₄
  · refine ⟨fun _ => ⟨?_, ?_, ?_, hwanted⟩, fun hrebar => absurd hrebar hne, fun hnot => absurd hstage hnot⟩
    · rw [Disk.Has, hframe₄.files _ id, hframe₃.files .options (by simp [ChangeOp.Targets]),
        hframe₂.files .options (by simp [ChangeOp.Targets])]
      exact hoptions
    · rw [Disk.Has, hframe₄.files _ id, hframe₃.files .helper (by simp [ChangeOp.Targets])]
      exact hhelper
    · rw [Disk.Has, hframe₄.files _ id]
      exact hunit

theorem installStage_achieves (hw : Placed h opts d w) (hservice : Unserved d w.disk) :
    Achieves h (Change.installStage opts) w fun _ w' =>
      Placed h opts d w' ∧ Staged h opts w'.disk ∧ (opts.stage ≠ "gen2" → Unserved d w'.disk) := by
  rw [Achieves, Change.installStage, meets_ite]
  refine ⟨fun hgen2 => ?_, fun hgen2 => ?_⟩
  · refine (installGen2_achieves hw hgen2).mono ?_ fun _ _ => id
    exact fun _ w' hw' => ⟨hw'.1, hw'.2, fun hnot => absurd hgen2 hnot⟩
  rw [meets_ite]
  refine ⟨fun hrebar => sh_achieves fun _ w' hframe hchanged => ⟨?_, ?_, fun _ => ?_⟩,
    fun hplain => sh_achieves fun _ w' hframe hchanged => ⟨?_, ?_, fun _ => ?_⟩⟩
  · exact hw.aside (aside_of_service (fun _ => .inl) (by simp)) hframe
  · exact ⟨fun hstage => absurd hstage hgen2, fun _ => hchanged, fun _ hnot => absurd hrebar hnot⟩
  · exact hservice.frame hframe (by simp [ChangeOp.Targets]) (by simp [ChangeOp.Targets]) (by simp) (by simp)
  · exact hw.aside (aside_of_service (fun _ => .inl) (by simp)) hframe
  · exact ⟨fun hstage => absurd hstage hgen2, fun hstage => absurd hstage hplain, fun _ _ => hchanged⟩
  · exact hservice.frame hframe (by simp [ChangeOp.Targets]) (by simp [ChangeOp.Targets]) (by simp) (by simp)

/-- For another stage than the one of the service: its files are gone if systemd has found the unit, and it is as it was
otherwise. -/
structure Freed (h : Host) (d d' : Disk) : Prop where
  removed : d.hasUnit h → d'.files .helper = none ∧ d'.files .unit = none
  unserved : d.hasUnit h = false → d'.files .helper = d.files .helper ∧ d'.files .unit = none ∧ d'.wanted = d.wanted

theorem Freed.same {d₁ d₂ : Disk} (hd : Freed h d d₁) (hservice : Unserved d₁ d₂) : Freed h d d₂ where
  removed := by
    rw [hservice.helper, hservice.unit]
    exact hd.removed
  unserved := by
    rw [hservice.helper, hservice.unit, hservice.wanted]
    exact hd.unserved

theorem removeService_achieves (hw : Placed h opts d w) (hstaged : Staged h opts w.disk)
    (hservice : opts.stage ≠ "gen2" → Unserved d w.disk) :
    Achieves h (Change.removeService opts) w fun _ w' =>
      Placed h opts d w' ∧ Staged h opts w'.disk ∧ (opts.stage ≠ "gen2" → Freed h d w'.disk) := by
  have hcat : Quiet h .catUnit := ⟨fun _ => id, by simp, by simp, by simp, by simp⟩
  have hreload : Quiet h .daemonReload := ⟨fun _ => id, by simp, by simp, by simp, by simp⟩
  rw [Achieves, Change.removeService, meets_when]
  refine ⟨fun hstage => ?_, fun hstage => ⟨hw, hstaged, fun hnot => absurd hnot hstage⟩⟩
  have hsame := hservice hstage
  have hunit : w.disk.hasUnit h = d.hasUnit h := by rw [Disk.hasUnit, Disk.hasUnit, hsame.unit]
  rw [meets_bind]
  refine quiet_attempt hcat fun done htells => ?_
  have hfound : done.status = 0 ↔ d.hasUnit h := hunit ▸ htells
  rw [meets_when]
  refine ⟨fun hstatus => ?_, fun hstatus => ⟨hw, hstaged, fun _ => ⟨fun hhas => ?_, fun hnot => ?_⟩⟩⟩
  · simp only [meets_bind]
    refine attempt_achieves fun _ w₁ _ hframe₁ _ => sh_achieves fun _ w₂ hframe₂ hremoved =>
      quiet_sh hreload fun _ => ⟨?_, ?_, fun _ => ⟨fun _ => hremoved, fun hnot => ?_⟩⟩
    · have hw₁ := hw.aside (aside_of_service (fun _ => False.elim) (by simp)) hframe₁
      exact hw₁.aside (aside_of_service (fun _ => .inr) (by simp)) hframe₂
    · refine hstaged.same ?_ fun hgen2 => absurd hgen2 hstage
      rw [hframe₂.files .options (by simp [ChangeOp.Targets]), hframe₁.files _ id]
    · rw [hfound.mp hstatus] at hnot
      cases hnot
  · exact absurd (hfound.mpr hhas) hstatus
  · refine ⟨hsame.helper, ?_, hsame.wanted⟩
    rw [Disk.hasUnit, Bool.or_eq_false_iff] at hnot
    rw [hsame.unit]
    exact Option.not_isSome_iff_eq_none.mp (Bool.eq_false_iff.mp hnot.1)

/-! ## The selected module -/

/-- What the driver's part has established. -/
structure Driven (h : Host) (opts : Options) (d : Disk) (w : World) : Prop where
  placed : Placed h opts d w
  staged : Staged h opts w.disk
  freed : opts.stage ≠ "gen2" → Freed h d w.disk
  selected : w.disk.selected .nvidia = some (updatesNames h.release .nvidia)

theorem checkSelected_achieves (hw : Placed h opts d w) (hstaged : Staged h opts w.disk)
    (hfreed : opts.stage ≠ "gen2" → Freed h d w.disk) :
    Achieves h (Change.checkSelected h.release backupDir) w fun _ => Driven h opts d := by
  have hversion : Quiet h .moduleVersion := ⟨fun _ => id, by simp, by simp, by simp, by simp⟩
  have hselected : Quiet h .selectedModule := ⟨fun _ => id, by simp, by simp, by simp, by simp⟩
  simp only [Achieves, Change.checkSelected, meets_bind]
  refine sh_achieves fun _ w₁ hframe _ => quiet_attempt hversion fun _ _ => orDie_achieves fun _ =>
    quiet_attempt hselected fun done htells => orDie_achieves fun hout => ⟨?_, ?_, ?_, ?_⟩
  · exact hw.aside aside_depmod hframe
  · exact hstaged.same (hframe.files _ Bool.false_ne_true) fun _ =>
      ⟨hframe.files _ Bool.false_ne_true, hframe.files _ Bool.false_ne_true, hframe.wanted (by simp) (by simp)⟩
  · have hsame : Unserved w.disk w₁.disk := Unserved.frame ⟨rfl, rfl, rfl⟩ hframe Bool.false_ne_true Bool.false_ne_true
      (by simp) (by simp)
    exact fun hstage => (hfreed hstage).same hsame
  · have htold : done.out = w₁.disk.selected .nvidia := htells
    rw [← htold]
    exact beq_iff_eq.mp hout

theorem installDriver_achieves (hw : Begun h opts d w.disk) :
    Achieves h (Change.installDriver opts h.release backupDir) w fun _ => Driven h opts d := by
  simp only [Achieves, Change.installDriver, meets_bind]
  refine checkUserspace_achieves.mono ?_ fun _ _ => id
  rintro _ w₁ rfl
  refine buildArtifact_achieves.mono ?_ fun _ _ => id
  intro _ w₂ hw₂
  have hplaces : Achieves h Change.installModules w₂ fun _ w' => Placed h opts d w' ∧ Unserved d w'.disk :=
    installModules_achieves (hw₂ ▸ hw)
  refine hplaces.mono ?_ fun _ _ => id
  intro _ w₃ hw₃
  refine (installStage_achieves hw₃.1 hw₃.2).mono ?_ fun _ _ => id
  intro _ w₄ hw₄
  refine (removeService_achieves hw₄.1 hw₄.2.1 hw₄.2.2).mono ?_ fun _ _ => id
  intro _ w₅ hw₅
  exact checkSelected_achieves hw₅.1 hw₅.2.1 hw₅.2.2

/-! ## The rest -/

theorem finish_achieves {Q : World → Prop} (hQ : Q w)
    (hinitrd : ∀ w', opts.rebuildInitramfs → w.Frame h .updateInitramfs w' → Q w') :
    Achieves h (Change.finish opts) w fun _ => Q := by
  have hgovernor : Quiet h .installGovernor := ⟨fun _ => id, by simp, by simp, by simp, by simp⟩
  have hfind : Quiet h (.commandV "update-initramfs") := ⟨fun _ => id, by simp, by simp, by simp, by simp⟩
  have hreport : Quiet h .report := ⟨fun _ => id, by simp, by simp, by simp, by simp⟩
  have hmain : Achieves h (do
      Script.when opts.rebuildInitramfs do
        let found ← Change.attempt (.commandV "update-initramfs")
        Scripts.Shell.orDie (found.status == 0) "update-initramfs is unavailable"
        Change.sh .updateInitramfs
      Change.sh .report) w fun _ => Q := by
    rw [Achieves, meets_bind, meets_when]
    refine ⟨fun hrebuild => ?_, fun _ => quiet_sh hreport fun _ => hQ⟩
    simp only [meets_bind]
    exact quiet_attempt hfind fun _ _ => orDie_achieves fun _ => sh_achieves fun _ w' hframe _ =>
      quiet_sh hreport fun _ => hinitrd w' hrebuild hframe
  rw [Achieves, Change.finish, meets_bind, meets_when]
  exact ⟨fun _ => quiet_sh hgovernor fun _ => hmain, fun _ => hmain⟩

/-- The policy is no part of the driver. -/
theorem Driven.policy {file : Option File} (hw : Driven h opts d w) (hdisable : opts.disableNouveau = true) :
    Driven h opts d { w with disk := w.disk.set .nouveauPolicy file } where
  placed := by
    refine ⟨fun m content hcontent => ?_, fun p hp => ?_⟩
    · exact (files_set_ne (by simp [updates])).trans (hw.placed.modules m content hcontent)
    · have hne : p ≠ .nouveauPolicy := by
        rintro rfl
        exact hp hdisable
      exact (files_set_ne hne).trans (hw.placed.others p hp)
  staged := hw.staged.same (files_set_ne (by simp)) fun _ => ⟨files_set_ne (by simp), files_set_ne (by simp), rfl⟩
  freed := fun hstage => (hw.freed hstage).same ⟨files_set_ne (by simp), files_set_ne (by simp), rfl⟩
  selected := hw.selected

theorem installed_of_driven (hw : Driven h opts d w) (hpolicy : opts.disableNouveau = true →
    w.disk.Has .nouveauPolicy (h.repo "config/cmp50-disable-nouveau.conf") 0o644) : Installed h opts d w where
  modules := hw.placed.modules
  selected := hw.selected
  gen2 := by
    intro hstage
    obtain ⟨hoptions, hhelper, hunit, hwanted⟩ := hw.staged.gen2 hstage
    refine ⟨hoptions, hhelper, hunit, ?_⟩
    obtain ⟨bytes, -, hfile⟩ := hunit
    simp [Disk.isEnabled, Disk.hasUnit, hwanted, hfile]
  rebar := hw.staged.rebar
  plain := hw.staged.plain
  removed := fun hstage => (hw.freed hstage).removed
  unserved := fun hstage => (hw.freed hstage).unserved
  policy := hpolicy
  others := hw.placed.others

/-- The initrd is no part of anything else. -/
theorem Installed.initramfs (hw : Installed h opts d w) (hrebuild : opts.rebuildInitramfs = true)
    (hframe : w.Frame h .updateInitramfs w') : Installed h opts d w' := by
  have hkeep : ∀ p, p ≠ .initrd h.release → w'.disk.files p = w.disk.files p := fun p hp => hframe.files p hp
  have hwanted := hframe.wanted (by simp) (by simp)
  have hartifacts := hframe.artifacts (by simp)
  refine ⟨fun m content hcontent => ?_, ?_, ?_, ?_, ?_, ?_, ?_, ?_, fun p hp => ?_⟩
  · rw [hartifacts] at hcontent
    rw [hkeep _ (by simp [updates])]
    exact hw.modules m content hcontent
  · rw [hframe.selected (by simp)]
    exact hw.selected
  · simp only [Disk.Has, Disk.isEnabled, Disk.hasUnit, hwanted, hkeep _ (Path.noConfusion : Path.options ≠ .initrd _),
      hkeep _ (Path.noConfusion : Path.helper ≠ .initrd _), hkeep _ (Path.noConfusion : Path.unit ≠ .initrd _)]
    exact hw.gen2
  · rw [hkeep _ (by simp)]
    exact hw.rebar
  · rw [hkeep _ (by simp)]
    exact hw.plain
  · rw [hkeep _ (by simp), hkeep _ (by simp)]
    exact hw.removed
  · rw [hkeep _ (by simp), hkeep _ (by simp), hwanted]
    exact hw.unserved
  · rw [Disk.Has, hkeep _ (by simp)]
    exact hw.policy
  · rw [hartifacts] at hp
    have hne : p ≠ .initrd h.release := by
      rintro rfl
      exact hp ⟨hrebuild, rfl⟩
    rw [hkeep p hne]
    exact hw.others p hp

theorem stageInstall_achieves (hdisk : w.disk = d) (hcomplete : w.backup.complete = false) :
    Meets (InstallStep h) (stageInstall h.release opts) w (fun _ => Installed h opts d) fun _ _ => True := by
  rw [stageInstall, meets_bind, meets_embed]
  refine (backUp_meets hdisk hcomplete).mono ?_ fun _ _ _ => trivial
  intro backupDir w₁ hw₁
  have hdriver : ∀ w₂, Begun h opts d w₂.disk → Meets (InstallStep h) (do
      Script.embed InstallOp.change (Change.installDriver opts h.release backupDir)
      Script.when opts.disableNouveau (Scripts.Shell.sh InstallOp.installPolicy)
      Script.embed InstallOp.change (Change.finish opts)) w₂ (fun _ => Installed h opts d) fun _ _ => True := by
    intro w₂ hw₂
    rw [meets_bind, meets_embed]
    refine (installDriver_achieves hw₂).mono ?_ fun _ _ => id
    intro _ w₃ hw₃
    rw [meets_bind, meets_when]
    refine ⟨fun hdisable => ?_, fun hdisable => ?_⟩
    · rw [meets_sh]
      intro done w₄ hstep
      refine ⟨fun _ hstatus => ?_, fun _ _ => trivial, fun _ _ => trivial⟩
      rw [meets_embed]
      obtain ⟨⟨file, rfl⟩, hchanged⟩ := hstep
      have hw₄ := installed_of_driven (hw₃.policy hdisable) fun _ => hchanged hstatus
      exact finish_achieves hw₄ fun w' hrebuild hframe => hw₄.initramfs hrebuild hframe
    · rw [meets_embed]
      have hw₄ := installed_of_driven hw₃ fun hon => absurd hon hdisable
      exact finish_achieves hw₄ fun w' hrebuild hframe => hw₄.initramfs hrebuild hframe
  have hbegun : Begun h opts d w₁.disk := by
    rw [hw₁.1]
    exact begun_self
  rw [meets_bind, meets_when]
  refine ⟨fun huserland => ?_, fun _ => hdriver w₁ hbegun⟩
  rw [meets_embed]
  exact (installUserland_achieves huserland hbegun).mono (fun _ => hdriver) fun _ _ => id

/-- A run that succeeds has installed what the options that it has read ask for. -/
theorem install_achieves {args : List String} {artifacts : Module → Option (List UInt8)} {A : Options → Prop}
    (hparse : Shows h (Check.parseOptions args defaultOptions) A) :
    Meets (InstallStep h) (install h.release args) (.start d artifacts)
      (fun o w' => Installed h o d w' ∧ A o ∧ Ready h o) fun _ _ => True := by
  rw [install, meets_bind, meets_embed]
  refine ((checks_show_of hparse).meets (I := fun w => w = .start d artifacts) ?_ ?_ rfl).mono ?_ fun _ _ _ => trivial
  · exact fun _ _ _ _ hstep => hstep.1
  · exact fun _ _ _ _ hstep hw => hstep.2.trans hw
  rintro o w' ⟨⟨hasked, hready⟩, rfl⟩
  rw [meets_bind]
  refine (stageInstall_achieves rfl rfl).mono ?_ fun _ _ => id
  exact fun _ w₁ hw₁ => meets_pure.mpr ⟨hw₁, hasked, hready⟩

end Cmp50Unlock.Install
