import Cmp50Unlock.Install.Governor.Lemmas.Checks

/-!
# A run after the checks
-/

namespace Cmp50Unlock.Install.Governor

open Lib
open Lib.Script (Meets meets_bind meets_pure meets_throw meets_ite meets_sh_of meets_attempt_of meets_orFail_of)
open Scripts (Signal)

variable {h : Host} {o : Options} {profile : List Char} {file : Owned} {w w₁ w' : World} {c : ControlOp}
  {e : EnvironmentOp} {s : ServiceOp} {d : Done Signal Unit} {startNow : Bool} {log : Log}

/-! ## Requests -/

section
variable {requests requests₁ requests' : List Request}

theorem Written.refl : Written requests requests := ⟨[], rfl, fun _ hmem => absurd hmem List.not_mem_nil⟩

theorem Written.trans (hw : Written requests requests₁) (hw' : Written requests₁ requests') :
    Written requests requests' := by
  obtain ⟨entries, rfl, hpanel⟩ := hw
  obtain ⟨entries', rfl, hpanel'⟩ := hw'
  refine ⟨entries' ++ entries, (List.append_assoc ..).symm, fun entry hmem => ?_⟩
  rcases List.mem_append.mp hmem with hmem | hmem
  · exact hpanel' entry hmem
  · exact hpanel entry hmem

theorem Placed.trans (hp : Placed file requests requests₁) (hw : Written requests₁ requests') :
    Placed file requests requests' := by
  obtain ⟨earlier, hearlier, hnone, hlater⟩ := hp
  exact ⟨earlier, hearlier, hnone, hlater.trans hw⟩

end

/-! ## What a command leaves alone -/

theorem control_step (hc : c ≠ .link) (hstep : InstallStep h (.control c) w d w') : ∃ requests directory temp,
    Written w.requests requests ∧
      w' = { w with requests := requests, directory := directory, temp := temp, log := ⟨.control c, d⟩ :: w.log } := by
  obtain ⟨requests, w₁, hwritten, ⟨hdone, hfailed, -⟩, rfl⟩ := hstep
  by_cases hstatus : d.status = 0
  · have heq := hdone hstatus
    cases c with
    | link => exact absurd rfl hc
    | _ =>
        cases heq
        exact ⟨_, _, _, hwritten, rfl⟩
  · have heq := hfailed hstatus
    cases c with
    | link => exact absurd rfl hc
    | createDir | mktemp | writeTemp | chmodTemp | removeTemp =>
        obtain ⟨_, rfl⟩ := heq
        exact ⟨_, _, _, hwritten, rfl⟩
    | chown =>
        obtain ⟨_, _, rfl⟩ := heq
        exact ⟨_, _, _, hwritten, rfl⟩
    | testControl =>
        cases heq
        exact ⟨_, _, _, hwritten, rfl⟩

theorem environment_step (hstep : InstallStep h (.environment e) w d w') : ∃ requests environment,
    Written w.requests requests ∧
      w' = { w with requests := requests, environment := environment, log := ⟨.environment e, d⟩ :: w.log } := by
  obtain ⟨requests, w₁, hwritten, ⟨hdone, hfailed, -⟩, rfl⟩ := hstep
  by_cases hstatus : d.status = 0
  · have heq := hdone hstatus
    cases e with
    | writeEnvironment =>
        obtain ⟨_, rfl⟩ := heq
        exact ⟨_, _, hwritten, rfl⟩
    | _ =>
        cases heq
        exact ⟨_, _, hwritten, rfl⟩
  · have heq := hfailed hstatus
    cases e with
    | writeEnvironment | chmodEnvironment =>
        obtain ⟨_, rfl⟩ := heq
        exact ⟨_, _, hwritten, rfl⟩
    | _ =>
        cases heq
        exact ⟨_, _, hwritten, rfl⟩

theorem service_step (hstep : InstallStep h (.service s) w d w') : ∃ requests binary unit legacy enabled,
    Written w.requests requests ∧ w' = { w with
      requests := requests, binary := binary, unit := unit, legacy := legacy, enabled := enabled
      log := ⟨.service s, d⟩ :: w.log } := by
  obtain ⟨requests, w₁, hwritten, ⟨hdone, hfailed, -⟩, rfl⟩ := hstep
  by_cases hstatus : d.status = 0
  · have heq := hdone hstatus
    cases s with
    | installBinary =>
        obtain ⟨_, _, rfl⟩ := heq
        exact ⟨_, _, _, _, _, hwritten, rfl⟩
    | _ =>
        cases heq
        exact ⟨_, _, _, _, _, hwritten, rfl⟩
  · have heq := hfailed hstatus
    cases s with
    | installBinary | installUnit | removeLegacy | enable =>
        obtain ⟨_, rfl⟩ := heq
        exact ⟨_, _, _, _, _, hwritten, rfl⟩
    | _ =>
        cases heq
        exact ⟨_, _, _, _, _, hwritten, rfl⟩

/-! ## The environment -/

/-- No command of the service has been run. -/
def Early (log : Log) : Prop := ∀ event ∈ log, ∀ s, event.1 ≠ .service s

theorem Early.cons {i : InstallOp} {d : Done Signal i.Out} (hlog : Early log) (hi : ∀ s, i ≠ .service s) :
    Early (⟨i, d⟩ :: log) := by
  intro event hmem
  rcases List.mem_cons.mp hmem with rfl | hmem
  · exact hi
  · exact hlog event hmem

/-- What the commands for the environment keep. -/
structure Settling (w w' : World) : Prop where
  requests : Written w.requests w'.requests
  temp : w'.temp = w.temp
  directory : w'.directory = w.directory
  environment : w.environment ≠ none → w'.environment = w.environment
  service : w'.service = w.service
  log : Early w.log → Early w'.log

theorem Settling.refl : Settling w w := ⟨.refl, rfl, rfl, fun _ => rfl, rfl, id⟩

theorem Settling.step (hw : Settling w w₁) (hstep : InstallStep h (.environment e) w₁ d w')
    (he : w.environment ≠ none → w'.environment = w₁.environment) : Settling w w' := by
  obtain ⟨requests, environment, hwritten, rfl⟩ := environment_step hstep
  exact {
    requests := hw.requests.trans hwritten
    temp := hw.temp
    directory := hw.directory
    environment := fun hne => (he hne).trans (hw.environment hne)
    service := hw.service
    log := fun hlog => (hw.log hlog).cons fun s heq => by cases heq }

/-- A command that does not write the environment. -/
theorem same_environment (hstep : InstallStep h (.environment e) w d w') (hwrite : ∀ line, e ≠ .writeEnvironment line)
    (hchmod : e ≠ .chmodEnvironment) : w'.environment = w.environment := by
  obtain ⟨requests, w₁, -, ⟨hdone, hfailed, -⟩, rfl⟩ := hstep
  have hsame : w₁ = { w with requests := requests } := by
    cases e with
    | writeEnvironment line => exact absurd rfl (hwrite line)
    | chmodEnvironment => exact absurd rfl hchmod
    | _ =>
        by_cases hstatus : d.status = 0
        · exact hdone hstatus
        · exact hfailed hstatus
  rw [hsame]

/-- The environment names the directory, in a file of its own where there was none. -/
def Placement (o : Options) (w w' : World) : Prop :=
  w'.Names (environmentLine o.dataDir) ∧
    (w.environment = none → w'.environment = some ⟨[environmentLine o.dataDir], 0o644⟩)

theorem orDie_settling {holds : Bool} {message : String} (hw : Settling w w₁) :
    Meets (fun e => InstallStep h (.environment e)) (Scripts.Shell.orDie holds message) w₁
      (fun _ w' => holds = true ∧ w' = w₁) fun _ => Settling w := by
  refine meets_orFail_of (fun d w' hstep => hw.step hstep fun _ => ?_) fun hholds => ⟨hholds, rfl⟩
  exact same_environment hstep (by simp [Script.Stderr.logError]) (by simp [Script.Stderr.logError])

theorem placeEnvironment_meets : Meets (fun e => InstallStep h (.environment e)) (Settings.placeEnvironment o) w
    (fun _ w' => Settling w w' ∧ Placement o w w') fun _ => Settling w := by
  rw [Settings.placeEnvironment, meets_bind]
  have htest : ∀ d w', InstallStep h (.environment .testEnvironment) w d w' → Settling w w' :=
    fun d w' hstep => Settling.refl.step hstep fun _ => same_environment hstep (by simp) (by simp)
  refine meets_attempt_of htest fun d w₁ hstep₁ hsignal => ?_
  have hw₁ := htest d w₁ hstep₁
  have hsame₁ : w₁.environment = w.environment := same_environment hstep₁ (by simp) (by simp)
  have habsent : d.status = 0 ↔ w.environment = none := by
    obtain ⟨requests, _, -, ⟨-, -, htold⟩, -⟩ := hstep₁
    exact htold hsignal
  rw [meets_ite]
  constructor
  · intro hstatus
    have hnone := habsent.mp hstatus
    have hwrite : ∀ {e d w₁ w'}, Settling w w₁ → InstallStep h (.environment e) w₁ d w' → Settling w w' :=
      fun hw₁ hstep => hw₁.step hstep fun hne => absurd hnone hne
    rw [meets_bind]
    refine meets_sh_of (fun d w' => hwrite hw₁) fun d₂ w₂ hstep₂ _ hstatus₂ => ?_
    have hw₂ := hwrite hw₁ hstep₂
    refine meets_sh_of (fun d w' => hwrite hw₂) fun d₃ w₃ hstep₃ _ hstatus₃ => ?_
    refine ⟨hwrite hw₂ hstep₃, ?_⟩
    obtain ⟨_, _, -, ⟨hdone₂, -, -⟩, rfl⟩ := hstep₂
    obtain ⟨mode, rfl⟩ := hdone₂ hstatus₂
    obtain ⟨_, _, -, ⟨hdone₃, -, -⟩, rfl⟩ := hstep₃
    cases hdone₃ hstatus₃
    exact ⟨⟨_, rfl, by simp⟩, fun _ => rfl⟩
  · intro hstatus
    have hne : w.environment ≠ none := fun hnone => hstatus (habsent.mpr hnone)
    rw [meets_bind]
    have hgrep : ∀ d w', InstallStep h (.environment (.grepEnvironment (environmentLine o.dataDir))) w₁ d w' →
        Settling w w' :=
      fun d w' hstep => hw₁.step hstep fun _ => same_environment hstep (by simp) (by simp)
    refine meets_attempt_of hgrep fun d₂ w₂ hstep₂ hsignal₂ => ?_
    have hw₂ := hgrep d₂ w₂ hstep₂
    refine (orDie_settling hw₂).mono ?_ fun _ _ => id
    rintro _ w₂ ⟨hfound, rfl⟩
    have hsame₂ : w₂.environment = w₁.environment := same_environment hstep₂ (by simp) (by simp)
    obtain ⟨_, _, -, ⟨-, -, htold⟩, -⟩ := hstep₂
    obtain ⟨environment, henvironment, hmem⟩ := (htold hsignal₂).mp (beq_iff_eq.mp hfound)
    exact ⟨hw₂, ⟨environment, hsame₂.trans henvironment, hmem⟩, fun hnone => absurd hnone hne⟩

end Cmp50Unlock.Install.Governor
