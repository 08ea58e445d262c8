import Cmp50Unlock.Install.Governor.Lemmas.Service

/-!
# Runs of the governor's installer
-/

namespace Cmp50Unlock.Install.Governor

open Lib
open Lib.Script (Meets meets_bind meets_pure meets_ite meets_sh meets_sh_of meets_attempt_of meets_embed meets_onExit)
open Scripts (Signal)

variable {h : Host} {o : Options} {profile : List Char} {w₀ w w₁ w' : World} {c : ControlOp} {s : ServiceOp}
  {d : Done Signal Unit} {log : Log} {P : Done Signal Unit → Prop}

/-! ## From the environment on -/

/-- What the rest of the script keeps. -/
structure Finishing (o : Options) (w w' : World) : Prop where
  requests : Written w.requests w'.requests
  temp : w'.temp = w.temp
  directory : w'.directory = w.directory
  environment : w.environment ≠ none → w'.environment = w.environment
  service : w'.service = w.service ∨ w'.Names (environmentLine o.dataDir)
  log : Orderly o.startNow w'.log

/-- What the rest of the script has done when it returns. -/
structure Finished (h : Host) (o : Options) (w w' : World) : Prop where
  placed : Placement o w w'
  files : Files h w'
  ended : Ended o.startNow w'.log

theorem Settling.finishing (hw : Settling w w') (hlog : Early w.log) : Finishing o w w' :=
  ⟨hw.requests, hw.temp, hw.directory, hw.environment, .inl hw.service, (hw.log hlog).orderly⟩

theorem Serving.finishing (hw : Settling w w₁) (hplaced : Placement o w w₁) (hw' : Serving o.startNow w₁ w') :
    Finishing o w w' where
  requests := hw.requests.trans hw'.requests
  temp := hw'.temp.trans hw.temp
  directory := hw'.directory.trans hw.directory
  environment := fun hne => hw'.environment.trans (hw.environment hne)
  service := by
    obtain ⟨environment, henvironment, hmem⟩ := hplaced.1
    exact .inr ⟨environment, hw'.environment.trans henvironment, hmem⟩
  log := hw'.log

theorem finish_meets (hlog : Early w.log) :
    Meets (InstallStep h) (finish o) w (fun _ w' => Finishing o w w' ∧ Finished h o w w') fun _ => Finishing o w := by
  rw [finish, meets_bind, meets_embed]
  refine placeEnvironment_meets.mono ?_ fun _ w₁ hw₁ => hw₁.finishing hlog
  rintro _ w₁ ⟨hw₁, hplaced⟩
  rw [meets_embed]
  refine (installService_meets (hw₁.log hlog)).mono ?_ fun _ w' hw' => hw'.finishing hw₁ hplaced
  rintro _ w' ⟨hw', hfiles, hended⟩
  refine ⟨hw'.finishing hw₁ hplaced, ⟨?_, fun hnone => hw'.environment.trans (hplaced.2 hnone)⟩, hfiles, hended⟩
  obtain ⟨environment, henvironment, hmem⟩ := hplaced.1
  exact ⟨environment, hw'.environment.trans henvironment, hmem⟩

/-! ## The request -/

/-- What the commands for the request keep. -/
structure Placing (h : Host) (o : Options) (profile : List Char) (w w' : World) : Prop where
  requests : Written w.requests w'.requests ∨ Placed (requestFile h o profile) w.requests w'.requests
  environment : w'.environment = w.environment
  service : w'.service = w.service
  log : Early w'.log

theorem Placing.step (hw : Placing h o profile w₀ w) (hc : c ≠ .link) (hstep : InstallStep h (.control c) w d w') :
    Placing h o profile w₀ w' := by
  obtain ⟨requests, directory, temp, hwritten, rfl⟩ := control_step hc hstep
  refine ⟨?_, hw.environment, hw.service, hw.log.cons fun s heq => by cases heq⟩
  exact hw.requests.imp (fun h => h.trans hwritten) fun h => h.trans hwritten

theorem Placing.sh {Q : Unit → World → Prop} (hw : Placing h o profile w₀ w) (hc : c ≠ .link)
    (hQ : ∀ d w', InstallStep h (.control c) w d w' → d.status = 0 → Placing h o profile w₀ w' → Q () w') :
    Meets (fun c => InstallStep h (.control c)) (Control.sh c) w Q fun _ => Placing h o profile w₀ :=
  meets_sh_of (fun _ _ hstep => hw.step hc hstep) fun d w' hstep _ hstatus => hQ d w' hstep hstatus (hw.step hc hstep)

/-- The link adds the request where there is none, if it does anything. -/
theorem Placing.link (hw : Placing h o profile w₀ w) (hwritten : Written w₀.requests w.requests)
    (htemp : w.temp = some (requestFile h o profile)) (hstep : InstallStep h (.control .link) w d w') :
    Placing h o profile w₀ w' ∧
      (d.status = 0 → Placed (requestFile h o profile) w₀.requests w'.requests ∧ w'.directory = w.directory) := by
  obtain ⟨requests, w₁, hpanel, ⟨hdone, hfailed, -⟩, rfl⟩ := hstep
  have hlinked : ∀ w₁ : World, World.Links { w with requests := requests } w₁ →
      Placed (requestFile h o profile) w₀.requests w₁.requests ∧ w₁.environment = w.environment ∧
      w₁.service = w.service ∧
        w₁.directory = w.directory := by
    rintro _ ⟨hnone, rfl⟩
    refine ⟨⟨requests, hwritten.trans hpanel, hnone, ?_⟩, rfl, rfl, rfl⟩
    rw [← htemp]
    exact Written.refl
  have hlog : Early (⟨.control .link, d⟩ :: w.log) := hw.log.cons fun s heq => by cases heq
  by_cases hstatus : d.status = 0
  · obtain ⟨hplaced, henvironment, hservice, hdirectory⟩ := hlinked w₁ (hdone hstatus)
    refine ⟨⟨.inr hplaced, henvironment.trans hw.environment, ?_, hlog⟩, fun _ => ⟨hplaced, hdirectory⟩⟩
    exact hservice.trans hw.service
  · refine ⟨?_, fun hzero => absurd hzero hstatus⟩
    rcases hfailed hstatus with rfl | hlinks
    · exact ⟨.inl (hwritten.trans hpanel), hw.environment, hw.service, hlog⟩
    · obtain ⟨hplaced, henvironment, hservice, -⟩ := hlinked w₁ hlinks
      exact ⟨.inr hplaced, henvironment.trans hw.environment, hservice.trans hw.service, hlog⟩

/-- The state of a command that succeeds, apart from the request. -/
theorem controlled_step (hstep : InstallStep h (.control c) w d w') (hstatus : d.status = 0) :
    ∃ requests w₁, Written w.requests requests ∧ World.Controlled h { w with requests := requests } c w₁ ∧
      w'.requests = w₁.requests ∧ w'.temp = w₁.temp ∧ w'.directory = w₁.directory := by
  obtain ⟨requests, w₁, hwritten, ⟨hdone, -, -⟩, rfl⟩ := hstep
  exact ⟨requests, w₁, hwritten, hdone hstatus, rfl, rfl, rfl⟩

theorem placeControl_meets (hw : Placing h o profile w₀ w) (hwritten : Written w₀.requests w.requests)
    (htemp : w.temp = some ⟨"", 0o600, rootOwner⟩) (hdirectory : w.directory ≠ none) :
    Meets (fun c => InstallStep h (.control c)) (Control.placeControl o profile) w
      (fun _ w' => Placing h o profile w₀ w' ∧ Placed (requestFile h o profile) w₀.requests w'.requests ∧
        w'.directory = some (h.dataOwner o.dataDir)) fun _ => Placing h o profile w₀ := by
  rw [Control.placeControl, meets_bind]
  refine hw.sh (by simp) fun d₁ w₁ hstep₁ hstatus₁ hw₁ => ?_
  obtain ⟨_, _, hwritten₁, rfl, hrequests₁, htemp₁, hdirectory₁⟩ := controlled_step hstep₁ hstatus₁
  rw [meets_bind]
  refine hw₁.sh (by simp) fun d₂ w₂ hstep₂ hstatus₂ hw₂ => ?_
  obtain ⟨_, _, hwritten₂, rfl, hrequests₂, htemp₂, hdirectory₂⟩ := controlled_step hstep₂ hstatus₂
  rw [meets_bind]
  refine hw₂.sh (by simp) fun d₃ w₃ hstep₃ hstatus₃ hw₃ => ?_
  obtain ⟨_, _, hwritten₃, rfl, hrequests₃, htemp₃, hdirectory₃⟩ := controlled_step hstep₃ hstatus₃
  have hpanel : Written w₀.requests w₃.requests := by
    rw [hrequests₃]
    rw [hrequests₁] at hwritten₂
    rw [hrequests₂] at hwritten₃
    exact ((hwritten.trans hwritten₁).trans hwritten₂).trans hwritten₃
  have hfile : w₃.temp = some (requestFile h o profile) := by
    rw [htemp₃, htemp₂, htemp₁, htemp]
    rfl
  have howner : w₃.directory = some (h.dataOwner o.dataDir) := by
    obtain ⟨owner, howner⟩ := Option.ne_none_iff_exists'.mp hdirectory
    rw [hdirectory₃, hdirectory₂, hdirectory₁, howner]
    rfl
  rw [meets_bind]
  refine meets_sh_of (fun d w' hstep => (hw₃.link hpanel hfile hstep).1) fun d₄ w₄ hstep₄ _ hstatus₄ => ?_
  obtain ⟨hw₄, hlinked⟩ := hw₃.link hpanel hfile hstep₄
  obtain ⟨hplaced, hdirectory₄⟩ := hlinked hstatus₄
  refine hw₄.sh (by simp) fun d₅ w₅ hstep₅ hstatus₅ hw₅ => ?_
  obtain ⟨_, _, hwritten₅, rfl, hrequests₅, -, hdirectory₅⟩ := controlled_step hstep₅ hstatus₅
  refine ⟨hw₅, ?_, hdirectory₅.trans (hdirectory₄.trans howner)⟩
  rw [hrequests₅]
  exact hplaced.trans hwritten₅

/-- A command of the first two leaves the temporary file alone. -/
theorem same_temp (hc : c = .createDir ∨ c = .testControl) (hstep : InstallStep h (.control c) w d w') :
    w'.temp = w.temp := by
  obtain ⟨requests, w₁, -, ⟨hdone, hfailed, -⟩, rfl⟩ := hstep
  by_cases hstatus : d.status = 0
  · have heq := hdone hstatus
    rcases hc with rfl | rfl <;>
      · cases heq
        rfl
  · have heq := hfailed hstatus
    rcases hc with rfl | rfl
    · obtain ⟨_, rfl⟩ := heq
      rfl
    · cases heq
      rfl

/-- The test finds what there is when it is made. -/
theorem tested_step (hstep : InstallStep h (.control .testControl) w d w') (hsignal : d.signal = none) :
    Written w.requests w'.requests ∧ w'.directory = w.directory ∧ (d.status = 0 ↔ current w'.requests = none) := by
  obtain ⟨requests, w₁, hwritten, ⟨hdone, hfailed, htold⟩, rfl⟩ := hstep
  have hsame : w₁ = { w with requests := requests } := by
    by_cases hstatus : d.status = 0
    · exact hdone hstatus
    · exact hfailed hstatus
  subst hsame
  exact ⟨hwritten, rfl, htold hsignal rfl⟩

/-- The directory is there, and so is a request unless the script goes on to place one. -/
theorem testControl_meets (hw : Placing h o profile w₀ w) (hwritten : Written w₀.requests w.requests)
    (htemp : w.temp = none) :
    Meets (fun c => InstallStep h (.control c)) Control.testControl w
      (fun absent w' => Placing h o profile w₀ w' ∧ Written w₀.requests w'.requests ∧
        w'.temp = none ∧ w'.directory ≠ none ∧
        (absent = false → current w'.requests ≠ none))
      fun _ w' => Placing h o profile w₀ w' ∧ w'.temp = none := by
  rw [Control.testControl, meets_bind]
  have hcreate : ∀ d w', InstallStep h (.control .createDir) w d w' → Placing h o profile w₀ w' ∧ w'.temp = none :=
    fun d w' hstep => ⟨hw.step (by simp) hstep, (same_temp (.inl rfl) hstep).trans htemp⟩
  refine meets_sh_of hcreate fun d₁ w₁ hstep₁ _ hstatus₁ => ?_
  obtain ⟨hw₁, htemp₁⟩ := hcreate d₁ w₁ hstep₁
  obtain ⟨_, _, hpanel₁, rfl, hrequests₁, -, hdirectory₁⟩ := controlled_step hstep₁ hstatus₁
  have htest : ∀ d w', InstallStep h (.control .testControl) w₁ d w' → Placing h o profile w₀ w' ∧ w'.temp = none :=
    fun d w' hstep => ⟨hw₁.step (by simp) hstep, (same_temp (.inr rfl) hstep).trans htemp₁⟩
  rw [meets_bind]
  refine meets_attempt_of htest fun d₂ w₂ hstep₂ hsignal₂ => ?_
  obtain ⟨hw₂, htemp₂⟩ := htest d₂ w₂ hstep₂
  obtain ⟨hpanel₂, hdirectory₂, habsent⟩ := tested_step hstep₂ hsignal₂
  rw [hrequests₁] at hpanel₂
  refine meets_pure.mpr ⟨hw₂, (hwritten.trans hpanel₁).trans hpanel₂, htemp₂, ?_, fun hfound hnone => ?_⟩
  · rw [hdirectory₂, hdirectory₁]
    simp
  · exact (beq_eq_false_iff_ne.mp hfound) (habsent.mpr hnone)

/-! ## The script -/

theorem Placing.kept (hw : Placing h o profile w₀ w) : Kept h o profile w₀ w :=
  ⟨hw.requests, fun _ => hw.environment, .inl hw.service, hw.log.orderly⟩

theorem Finishing.kept (hw : Placing h o profile w₀ w) (hw' : Finishing o w w') : Kept h o profile w₀ w' where
  requests := hw.requests.imp (fun hrequests => hrequests.trans hw'.requests)
    fun hrequests => hrequests.trans hw'.requests
  environment := by
    rw [← hw.environment]
    exact hw'.environment
  service := hw'.service.imp_left fun hservice => hservice.trans hw.service
  log := hw'.log

/-- What the run has established, whatever becomes of the temporary file. -/
theorem installed_of_finished (hw : Placing h o profile w₀ w) (hw' : Finishing o w w') (hfinished : Finished h o w w')
    (hrequests : (∃ seen, Written w₀.requests seen ∧ current seen ≠ none ∧ Written seen w'.requests) ∨
      Placed (requestFile h o profile) w₀.requests w'.requests ∧ w'.directory = some (h.dataOwner o.dataDir)) :
    Installed h o profile w₀ { w' with temp := none } where
  requests := hrequests
  temp := rfl
  environment := hfinished.placed.1
  fresh := fun hnone => hfinished.placed.2 (hw.environment.trans hnone)
  kept := (hw'.kept hw).environment
  binary := hfinished.files.binary
  unit := hfinished.files.unit
  legacy := hfinished.files.legacy
  enabled := hfinished.files.enabled
  up := hfinished.ended.up
  down := hfinished.ended.down

/-! ### The trap -/

theorem ran_cons_control : Ran (⟨.control c, d⟩ :: log) s P ↔ Ran log s P := by
  constructor
  · rintro ⟨d', hd', hmem⟩
    cases hmem with
    | tail _ hmem => exact ⟨d', hd', hmem⟩
  · exact Ran.cons

theorem Up.cons_control (hup : Up log) : Up (⟨.control c, d⟩ :: log) := by
  obtain ⟨later, earlier, d', rfl, hstatus, hstart, hstop⟩ := hup
  refine ⟨⟨.control c, d⟩ :: later, earlier, d', rfl, hstatus, hstart, fun event hmem => ?_⟩
  rcases List.mem_cons.mp hmem with rfl | hmem
  · simp
  · exact hstop event hmem

/-- The state when the trap has removed the temporary file. -/
def World.cleared (w : World) (requests : List Request) (d : Done Signal Unit) : World :=
  { w with requests := requests, temp := none, log := ⟨.control .removeTemp, d⟩ :: w.log }

theorem Kept.cleared {requests : List Request} (hw : Kept h o profile w₀ w) (hwritten : Written w.requests requests) :
    Kept h o profile w₀ (w.cleared requests d) where
  requests := hw.requests.imp (fun hrequests => hrequests.trans hwritten) fun hrequests => hrequests.trans hwritten
  environment := hw.environment
  service := hw.service
  log := ⟨trivial, hw.log⟩

theorem Installed.cleared {requests : List Request} (hw : Installed h o profile w₀ { w with temp := none })
    (hwritten : Written w.requests requests) : Installed h o profile w₀ (w.cleared requests d) where
  requests := by
    rcases hw.requests with ⟨seen, hseen, hfound, hlater⟩ | ⟨hplaced, hdirectory⟩
    · exact .inl ⟨seen, hseen, hfound, hlater.trans hwritten⟩
    · exact .inr ⟨hplaced.trans hwritten, hdirectory⟩
  temp := rfl
  environment := hw.environment
  fresh := hw.fresh
  kept := hw.kept
  binary := hw.binary
  unit := hw.unit
  legacy := hw.legacy
  enabled := hw.enabled
  up := fun hstop => (hw.up (hstop.imp_right ran_cons_control.mp)).cons_control
  down := fun hstop hran => hw.down (fun hstop' => hstop (hstop'.imp_right Ran.cons)) (ran_cons_control.mp hran)

/-- The trap removes the temporary file or fails, and leaves the rest. -/
theorem handler_meets {Q : Unit → World → Prop} (hw : Kept h o profile w₀ w)
    (hQ : ∀ requests d, Written w.requests requests → Q () (w.cleared requests d)) :
    Meets (InstallStep h) (Script.embed InstallOp.control (Control.sh .removeTemp)) w Q
    fun _ => Safe h o profile w₀ := by
  have hcleared : ∀ d w', InstallStep h (.control .removeTemp) w d w' → d.status = 0 →
      ∃ requests, Written w.requests requests ∧ w' = w.cleared requests d := by
    rintro d w' ⟨requests, w₁, hwritten, ⟨hdone, -, -⟩, rfl⟩ hstatus
    cases hdone hstatus
    exact ⟨requests, hwritten, rfl⟩
  rw [meets_embed]
  refine meets_sh_of (fun d w' hstep => ?_) fun d w' hstep _ hstatus => ?_
  · by_cases hstatus : d.status = 0
    · obtain ⟨requests, hwritten, rfl⟩ := hcleared d w' hstep hstatus
      exact ⟨hw.cleared hwritten, .inl rfl⟩
    · have hlog := log_step hstep
      obtain ⟨requests, directory, temp, hwritten, rfl⟩ := control_step (by simp) hstep
      refine ⟨⟨?_, hw.environment, hw.service, trivial, hw.log⟩,
        .inr ⟨.removeTemp, d, w.log, hlog, .inr ⟨rfl, hstatus⟩⟩⟩
      exact hw.requests.imp (fun hrequests => hrequests.trans hwritten) fun hrequests => hrequests.trans hwritten
  · obtain ⟨requests, hwritten, rfl⟩ := hcleared d w' hstep hstatus
    exact hQ requests d hwritten

/-! ### Everything after the checks -/

/-- The rest of the script, once it has a temporary file. -/
theorem guarded_meets (hw : Placing h o profile w₀ w) (hwritten : Written w₀.requests w.requests)
    (htemp : w.temp = some ⟨"", 0o600, rootOwner⟩) (hdirectory : w.directory ≠ none) :
    Meets (InstallStep h) (do Script.embed InstallOp.control (Control.placeControl o profile); finish o) w
      (fun _ w' => Kept h o profile w₀ w' ∧ Installed h o profile w₀ { w' with temp := none })
      fun _ => Kept h o profile w₀ := by
  rw [meets_bind, meets_embed]
  refine (placeControl_meets hw hwritten htemp hdirectory).mono ?_ fun _ w₁ hw₁ => hw₁.kept
  rintro _ w₁ ⟨hw₁, hplaced, howner⟩
  refine (finish_meets hw₁.log).mono ?_ fun _ w' hw' => hw'.kept hw₁
  rintro _ w' ⟨hw', hfinished⟩
  refine ⟨hw'.kept hw₁, installed_of_finished hw₁ hw' hfinished (.inr ⟨hplaced.trans hw'.requests, ?_⟩)⟩
  exact hw'.directory.trans howner

theorem changes_meets (hw : Placing h o profile w₀ w) (hwritten : Written w₀.requests w.requests)
    (htemp : w.temp = none) :
    Meets (InstallStep h) (changes o profile) w (fun _ w' => Safe h o profile w₀ w' ∧ Installed h o profile w₀ w')
      fun _ => Safe h o profile w₀ := by
  rw [changes, meets_bind, meets_embed]
  refine (testControl_meets hw hwritten htemp).mono ?_ fun _ w₁ hw₁ => ⟨hw₁.1.kept, .inl hw₁.2⟩
  rintro absent w₁ ⟨hw₁, hwritten₁, htemp₁, hdirectory₁, hfound⟩
  rw [meets_ite]
  constructor
  · intro _
    rw [meets_bind, meets_embed, meets_sh]
    intro d w₂ hstep₂
    have hw₂ := hw₁.step (by simp) hstep₂
    have hfailed : d.status ≠ 0 ∨ d.signal ≠ none → Safe h o profile w₀ w₂ :=
      fun hd => ⟨hw₂.kept, .inr ⟨.mktemp, d, w₁.log, log_step hstep₂, .inl ⟨rfl, hd⟩⟩⟩
    refine ⟨fun _ hstatus => ?_, fun _ hstatus => hfailed (.inl hstatus),
      fun _ hsignal => hfailed (.inr (by simp [hsignal]))⟩
    obtain ⟨_, _, hpanel₂, rfl, hrequests₂, htemp₂, hdirectory₂⟩ := controlled_step hstep₂ hstatus
    have hwritten₂ : Written w₀.requests w₂.requests := hrequests₂ ▸ hwritten₁.trans hpanel₂
    rw [meets_onExit]
    refine (guarded_meets hw₂ hwritten₂ htemp₂ (hdirectory₂ ▸ hdirectory₁)).mono ?_ fun _ w₃ hw₃ => ?_
    · rintro _ w₃ ⟨hw₃, hinstalled⟩
      exact handler_meets hw₃ fun requests d hpanel => ⟨⟨hw₃.cleared hpanel, .inl rfl⟩, hinstalled.cleared hpanel⟩
    · exact handler_meets hw₃ fun requests d hpanel => ⟨hw₃.cleared hpanel, .inl rfl⟩
  · intro habsent
    refine (finish_meets hw₁.log).mono ?_ fun _ w' hw' => ⟨hw'.kept hw₁, .inl (hw'.temp.trans htemp₁)⟩
    rintro _ w' ⟨hw', hfinished⟩
    have htemp' := hw'.temp.trans htemp₁
    have hseen : ∃ seen, Written w₀.requests seen ∧ current seen ≠ none ∧ Written seen w'.requests :=
      ⟨w₁.requests, hwritten₁, hfound (Bool.eq_false_iff.mpr habsent), hw'.requests⟩
    have hinstalled := installed_of_finished hw₁ hw' hfinished (.inl hseen)
    rw [← htemp'] at hinstalled
    exact ⟨⟨hw'.kept hw₁, .inl htemp'⟩, hinstalled⟩

/-! ### With the checks -/

theorem Unchanged.step {k : CheckOp} {a : Done Signal k.Out} (hw : Unchanged w₀ w)
    (hstep : InstallStep h (.check k) w a w') :
    Unchanged w₀ w' := by
  obtain ⟨requests, w₁, hwritten, ⟨-, rfl⟩, rfl⟩ := hstep
  refine ⟨hw.requests.trans hwritten, ?_⟩
  rw [hw.others]

theorem unchanged_begin : Unchanged w₀ w₀.begin := ⟨.refl, rfl⟩

theorem Unchanged.placing (hw : Unchanged w₀ w) (hlog : Early w.log) : Placing h o profile w₀ w where
  requests := .inl hw.requests
  environment := by rw [hw.others]; rfl
  service := by rw [hw.others]; rfl
  log := hlog

/-- A run that changes anything has passed the checks, with the options that it has read. -/
theorem install_meets {args : List String} {A : Options → Prop}
    (hparse : Shows h (Check.parseOptions args defaultOptions) A) :
    Meets (InstallStep h) (install args) w₀.begin
      (fun o w' => A o ∧ ∃ profile, Ready h o profile ∧ Safe h o profile w₀ w' ∧ Installed h o profile w₀ w')
      fun _ w' => Unchanged w₀ w' ∨ ∃ o profile, A o ∧ Ready h o profile ∧ Safe h o profile w₀ w' := by
  rw [install, meets_bind, meets_embed]
  refine ((checks_show hparse).meets (I := fun w => Unchanged w₀ w ∧ Early w.log) ?_ ?_ ?_).mono ?_
    fun _ w' hw' => .inl hw'.1
  · rintro k w a w' ⟨requests, w₁, -, ⟨htold, -⟩, -⟩
    exact htold
  · intro k w a w' hstep hw
    refine ⟨hw.1.step hstep, ?_⟩
    rw [log_step hstep]
    exact hw.2.cons fun s heq => by cases heq
  · exact ⟨unchanged_begin, fun _ hmem => absurd hmem List.not_mem_nil⟩
  · rintro ⟨o, profile⟩ w₁ ⟨⟨hasked, hready⟩, hw₁, hlog₁⟩
    have htemp₁ : w₁.temp = none := by rw [hw₁.others]; rfl
    rw [meets_bind]
    refine (changes_meets (hw₁.placing hlog₁) hw₁.requests htemp₁).mono ?_ ?_
    · rintro _ w' ⟨hsafe, hinstalled⟩
      exact meets_pure.mpr ⟨hasked, profile, hready, hsafe, hinstalled⟩
    · exact fun _ w' hsafe => .inr ⟨o, profile, hasked, hready, hsafe⟩

end Cmp50Unlock.Install.Governor
