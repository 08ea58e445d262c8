import Cmp50Unlock.Install.All.Lemmas.Checks
import Cmp50Unlock.Install.Governor.Lemmas.Loud
import Cmp50Unlock.Install.Governor.Lemmas.Runs
import Cmp50Unlock.Install.Lemmas.Loud

/-!
# Runs of the installer of everything
-/

namespace Cmp50Unlock.Install.Governor

open Lib

variable {h : Host} {o : Options} {profile : List Char} {file : Owned} {w₀ w w' : World}
  {requests requests₁ requests' : List Request}

/-! ## What the panel does around a run of the governor's installer -/

theorem Placed.before (hw : Written requests requests₁) (hp : Placed file requests₁ requests') :
    Placed file requests requests' := by
  obtain ⟨earlier, hearlier, hnone, hlater⟩ := hp
  exact ⟨earlier, hw.trans hearlier, hnone, hlater⟩

theorem Unchanged.environment (hw : Unchanged w₀ w) : w.environment = w₀.environment := by
  rw [hw.others]
  rfl

theorem Unchanged.service (hw : Unchanged w₀ w) : w.service = w₀.service := by
  rw [hw.others]
  rfl

theorem Unchanged.trans (hw : Unchanged w₀ w) (hw' : Unchanged w w') : Unchanged w₀ w' := by
  refine ⟨hw.requests.trans hw'.requests, ?_⟩
  rw [hw'.others, hw.others]
  rfl

theorem Unchanged.waits (hw : Unchanged w₀ w) (hwritten : Written w.requests requests) :
    Unchanged w₀ { w with requests := requests } := by
  refine ⟨hw.requests.trans hwritten, ?_⟩
  rw [hw.others]

theorem Safe.before (hw : Unchanged w₀ w) (hsafe : Safe h o profile w w') : Safe h o profile w₀ w' where
  requests := hsafe.requests.imp hw.requests.trans fun hplaced => hplaced.before hw.requests
  environment := by
    rw [← hw.environment]
    exact hsafe.environment
  service := hsafe.service.imp_left fun hservice => hservice.trans hw.service
  log := hsafe.log
  temp := hsafe.temp

theorem Safe.after (hsafe : Safe h o profile w w') (hwritten : Written w'.requests requests) :
    Safe h o profile w { w' with requests := requests } where
  requests := hsafe.requests.imp (fun hpanel => hpanel.trans hwritten) fun hplaced => hplaced.trans hwritten
  environment := hsafe.environment
  service := hsafe.service
  log := hsafe.log
  temp := hsafe.temp

theorem Installed.before (hw : Unchanged w₀ w) (hinstalled : Installed h o profile w w') :
    Installed h o profile w₀ w' :=
  { hinstalled with
    requests := by
      rcases hinstalled.requests with ⟨seen, hseen, hfound, hlater⟩ | ⟨hplaced, hdirectory⟩
      · exact .inl ⟨seen, hw.requests.trans hseen, hfound, hlater⟩
      · exact .inr ⟨hplaced.before hw.requests, hdirectory⟩
    fresh := by
      rw [← hw.environment]
      exact hinstalled.fresh
    kept := by
      rw [← hw.environment]
      exact hinstalled.kept }

theorem Installed.after (hinstalled : Installed h o profile w w') (hwritten : Written w'.requests requests) :
    Installed h o profile w { w' with requests := requests } :=
  { hinstalled with
    requests := by
      rcases hinstalled.requests with ⟨seen, hseen, hfound, hlater⟩ | ⟨hplaced, hdirectory⟩
      · exact .inl ⟨seen, hseen, hfound, hlater.trans hwritten⟩
      · exact .inr ⟨hplaced.trans hwritten, hdirectory⟩ }

end Cmp50Unlock.Install.Governor

namespace Cmp50Unlock.Install.All

open Lib
open Lib.Script (Meets meets_bind meets_pure meets_sh meets_when meets_embed shows_pure)
open Scripts (Signal)

variable {h : Host} {o : Options} {args : List String} {disk : Disk} {artifacts : Module → Option (List UInt8)}
  {governor : Governor.World} {w w' : World} {d : Done Signal Unit} {userspace : Bool} {deps : Prop}

/-! ## The arguments of the installers -/

section
variable (rest : List String) (o : Install.Options)

theorem parseOptions_stage : Install.Check.parseOptions ("--stage" :: "gen2" :: rest) o =
    Install.Check.parseOptions rest { o with stage := "gen2" } := by
  rw [Install.Check.parseOptions, if_pos rfl, if_neg (by decide)]

theorem parseOptions_installUserland : Install.Check.parseOptions ("--install-userland" :: rest) o =
    Install.Check.parseOptions rest { o with installUserland := true } := by
  rw [Install.Check.parseOptions.eq_def]
  exact (if_neg (by decide)).trans (if_pos rfl)

theorem parseOptions_initramfs : Install.Check.parseOptions ("--initramfs" :: rest) o =
    Install.Check.parseOptions rest { o with rebuildInitramfs := true } := by
  rw [Install.Check.parseOptions.eq_def]
  exact (if_neg (by decide)).trans ((if_neg (by decide)).trans (if_pos rfl))

theorem parseOptions_disableNouveau : Install.Check.parseOptions ("--disable-nouveau" :: rest) o =
    Install.Check.parseOptions rest { o with disableNouveau := true } := by
  rw [Install.Check.parseOptions.eq_def]
  exact (if_neg (by decide)).trans ((if_neg (by decide)).trans ((if_neg (by decide)).trans ((if_neg (by decide)).trans
    (if_pos rfl))))

theorem parseOptions_allowGen2 : Install.Check.parseOptions ("--allow-experimental-gen2" :: rest) o =
    Install.Check.parseOptions rest { o with allowGen2 := true } := by
  rw [Install.Check.parseOptions.eq_def]
  exact (if_neg (by decide)).trans ((if_neg (by decide)).trans ((if_neg (by decide)).trans ((if_neg (by decide)).trans
    ((if_neg (by decide)).trans ((if_neg (by decide)).trans (if_pos rfl))))))

end

theorem parseOptions_installArgs (userspace : Bool) :
    Install.Check.parseOptions (installArgs userspace) Install.defaultOptions = pure (driverOptions userspace) := by
  rw [installArgs, List.cons_append, List.cons_append, parseOptions_stage, List.cons_append, parseOptions_allowGen2,
    List.cons_append, parseOptions_initramfs, List.cons_append, parseOptions_disableNouveau, List.nil_append]
  cases userspace with
  | false =>
      rw [if_neg (by decide), parseOptions_installUserland, Install.Check.parseOptions]
      rfl
  | true =>
      rw [if_pos rfl, Install.Check.parseOptions]
      rfl

theorem parseOptions_governorArgs (hdir : o.dataDir.head? = some '/') :
    Governor.Check.parseOptions (governorArgs o) Governor.defaultOptions = pure (governorOptions o) := by
  have hne : String.ofList o.dataDir ≠ "" := by
    intro heq
    rw [← String.toList_inj, String.toList_ofList, String.toList_empty] at heq
    rw [heq, List.head?_nil] at hdir
    exact Option.some_ne_none _ hdir.symm
  rw [governorArgs, Governor.Check.parseOptions, if_pos rfl, if_neg hne, Governor.Check.parseOptions,
    String.toList_ofList]
  rfl

/-! ## One command after the other -/

theorem installArgs_userland : "--install-userland" ∈ installArgs userspace ↔ userspace = false := by
  cases userspace <;> decide

/-- Only the packages and the panel have changed something. -/
def Preparing (deps : Prop) (disk : Disk) (artifacts : Module → Option (List UInt8))
    (governor : Governor.World) (w : World) :
    Prop :=
  ∃ disk', Prepared deps disk disk' ∧ Untouched disk' artifacts governor w

theorem untouched_check {o : CheckOp} {done : Done Signal o.Out} (hstep : InstallStep h (.check o) w done w')
    (hw : Untouched disk artifacts governor w) : Untouched disk artifacts governor w' := by
  obtain ⟨-, requests, hwritten, rfl⟩ := hstep
  exact ⟨hw.1, hw.2.waits hwritten⟩

theorem preparing_deps {o : DepsOp} {done : Done Signal o.Out} (hstep : InstallStep h (.deps o) w done w')
    (hdeps : deps)
    (hw : Preparing deps disk artifacts governor w) : Preparing deps disk artifacts governor w' := by
  obtain ⟨disk₁, hprepared, hdriver, hgovernor⟩ := hw
  obtain ⟨disk₂, _, ⟨hchanged, -⟩, ⟨requests, hwritten, rfl⟩, rfl⟩ := hstep
  rw [hdriver] at hchanged
  refine ⟨disk₂, ⟨hprepared.changed.trans hchanged, fun hnot => absurd hdeps hnot⟩, ?_, hgovernor.waits hwritten⟩
  rw [hdriver]
  rfl

/-- A run of `install.sh`, as far as its status tells. -/
theorem install_step (huserspace : userspace = true ↔ h.Userspace driverVersion)
    (hdriver : w.driver = .start disk artifacts)
    (hgovernor : Governor.Unchanged governor w.governor)
    (hstep : InstallStep h (.install (installArgs userspace)) w d w') :
    Install.Safe h.install (¬h.Userspace driverVersion) disk w'.driver ∧ Governor.Unchanged governor w'.governor ∧
      (d.status = 0 → DriverInstalled h disk w'.driver) := by
  obtain ⟨r, driver, w₁, hrun, hstatus, ⟨requests, hwritten, rfl⟩, rfl⟩ := hstep
  rw [hdriver] at hrun
  have huserland : "--install-userland" ∈ installArgs userspace → ¬h.Userspace driverVersion := by
    rw [installArgs_userland, ← huserspace]
    exact fun hfalse => by simp [hfalse]
  refine ⟨hrun.safe.imp huserland, hgovernor.waits hwritten, fun hzero => ?_⟩
  have hparse := parseOptions_installArgs userspace
  obtain ⟨o', rfl, -⟩ := (install_loud hparse).returned hrun (hstatus.symm.trans hzero)
  have hinstalled := install_achieves (A := fun o => o = driverOptions userspace) (hparse ▸ shows_pure rfl) _ _ hrun
  obtain ⟨hinstalled, rfl, hready⟩ := hinstalled
  exact ⟨userspace, huserspace, hready, hinstalled⟩

/-- A run of `install-governor.sh`, as far as its status tells. -/
theorem governor_step (hready : Ready h o) (hgovernor : Governor.Unchanged governor w.governor)
    (hstep : InstallStep h (.installGovernor (governorArgs o)) w d w') :
    w'.driver = w.driver ∧
      (Governor.Unchanged governor w'.governor ∨ ∃ profile, Governor.Ready h.governor (governorOptions o) profile ∧
        Governor.Safe h.governor (governorOptions o) profile governor w'.governor) ∧
      (d.status = 0 → ∃ profile, Governor.Ready h.governor (governorOptions o) profile ∧
        Governor.Safe h.governor (governorOptions o) profile governor w'.governor ∧
        Governor.Installed h.governor (governorOptions o) profile governor w'.governor) := by
  obtain ⟨r, governor', hrun, hstatus, rfl⟩ := hstep
  have hparse := parseOptions_governorArgs hready.dataDir.1
  have hmeets := Governor.install_meets (A := fun o' => o' = governorOptions o) (hparse ▸ shows_pure rfl) _ _ hrun
  refine ⟨rfl, ?_, fun hzero => ?_⟩
  · cases r with
    | ok o' =>
        obtain ⟨rfl, profile, hprofile, hsafe, -⟩ := hmeets
        exact .inr ⟨profile, hprofile, hsafe.before hgovernor⟩
    | error n =>
        obtain hsame | ⟨o', profile, rfl, hprofile, hsafe⟩ := hmeets
        · exact .inl (hgovernor.trans hsame)
        · exact .inr ⟨profile, hprofile, hsafe.before hgovernor⟩
  · obtain ⟨o', rfl, -⟩ := (Governor.install_loud hparse).returned hrun (hstatus.symm.trans hzero)
    obtain ⟨rfl, profile, hprofile, hsafe, hinstalled⟩ := hmeets
    exact ⟨profile, hprofile, hsafe.before hgovernor, hinstalled.before hgovernor⟩

/-! ## The script -/

/-- The installers, on the disk with the packages. -/
theorem installers_meet (hready : Ready h o) (huserspace : userspace = true ↔ h.Userspace driverVersion)
    (hw : Untouched disk artifacts governor w) :
    Meets (InstallStep h) (do
        Scripts.Shell.sh (InstallOp.install (installArgs userspace))
        Scripts.Shell.sh (InstallOp.installGovernor (governorArgs o))
        Scripts.Shell.sh (InstallOp.log "PASS_CMP50_ALL_STAGED")
        return o) w
      (fun o' w' => o' = o ∧ Staged h o disk governor w' ∧ Safe h o disk governor w')
        fun _ => Safe h o disk governor := by
  rw [meets_bind]
  refine Script.meets_sh_of (fun d w₂ hstep₂ => ?_) fun d w₂ hstep₂ _ hstatus₂ => ?_
  · obtain ⟨hsafe₂, hgovernor₂, -⟩ := install_step huserspace hw.1 hw.2 hstep₂
    exact ⟨hsafe₂, .inl hgovernor₂⟩
  obtain ⟨hsafe₂, hgovernor₂, hinstalled₂⟩ := install_step huserspace hw.1 hw.2 hstep₂
  have hdriver₂ := hinstalled₂ hstatus₂
  rw [meets_bind]
  refine Script.meets_sh_of (fun d w₃ hstep₃ => ?_) fun d w₃ hstep₃ _ hstatus₃ => ?_
  · obtain ⟨hsame₃, hgovernor₃, -⟩ := governor_step hready hgovernor₂ hstep₃
    exact ⟨hsame₃ ▸ hsafe₂, hgovernor₃.imp_right fun hsafe₃ => ⟨hsame₃ ▸ hdriver₂, hsafe₃⟩⟩
  obtain ⟨hsame₃, -, hinstalled₃⟩ := governor_step hready hgovernor₂ hstep₃
  obtain ⟨profile, hprofile, hsafe₃, hgovernor₃⟩ := hinstalled₃ hstatus₃
  have hsafe₃' : Install.Safe h.install (¬h.Userspace driverVersion) disk w₃.driver := hsame₃ ▸ hsafe₂
  have hdriver₃ : DriverInstalled h disk w₃.driver := hsame₃ ▸ hdriver₂
  -- the panel may still write while the last line is printed
  have hlast : ∀ w', w₃.Waits w' → Staged h o disk governor w' ∧ Safe h o disk governor w' := by
    rintro w' ⟨requests, hwritten, rfl⟩
    have hsafe' := hsafe₃.after hwritten
    exact ⟨⟨hdriver₃, profile, hprofile, hsafe', hgovernor₃.after hwritten⟩,
      ⟨hsafe₃', .inr ⟨hdriver₃, profile, hprofile, hsafe'⟩⟩⟩
  rw [meets_bind]
  refine Script.meets_sh_of (fun d w' hstep => ?_) fun d w' hstep _ _ => ?_
  · exact (hlast w' hstep).2
  · exact meets_pure.mpr ⟨rfl, hlast w' hstep⟩

/-- What a run leaves, wherever it stops. -/
def Stopped (h : Host) (args : List String) (disk : Disk) (artifacts : Module → Option (List UInt8))
    (governor : Governor.World)
    (w : World) : Prop :=
  ∃ disk', Prepared ("--install-deps" ∈ args) disk disk' ∧
    (Untouched disk' artifacts governor w ∨ ∃ o, Asked args o ∧ Ready h o ∧ Safe h o disk' governor w)

theorem Prepared.asked {disk' : Disk} (hdisk : Prepared o.installDeps disk disk') (hasked : Asked args o) :
    Prepared ("--install-deps" ∈ args) disk disk' :=
  ⟨hdisk.changed, fun hnot => hdisk.same (mt hasked.installDeps hnot)⟩

theorem stopped_of_preparing (hasked : Asked args o) (hw : Preparing o.installDeps disk artifacts governor w) :
    Stopped h args disk artifacts governor w := by
  obtain ⟨disk', hdisk', hw⟩ := hw
  exact ⟨disk', hdisk'.asked hasked, .inl hw⟩

theorem preparing_self (hw : Untouched disk artifacts governor w) : Preparing deps disk artifacts governor w :=
  ⟨disk, ⟨.refl, fun _ => rfl⟩, hw⟩

/-- From the packages on. -/
theorem staging_meets (hasked : Asked args o) (hhost : o.allowGen2 ∧ h.install.root ∧
      String.ofList h.install.release ∈ Scripts.secondPassKernels ∧
      (o.dataDir.head? = some '/' ∧ Install.Check.dataDirAllowed o.dataDir) ∧ h.install.machine = "x86_64")
    (hw : Preparing o.installDeps disk artifacts governor w) :
    Meets (InstallStep h) (do
        let userspace ← Script.embed InstallOp.check Check.checkStaging
        Scripts.Shell.sh (InstallOp.install (installArgs userspace))
        Scripts.Shell.sh (InstallOp.installGovernor (governorArgs o))
        Scripts.Shell.sh (InstallOp.log "PASS_CMP50_ALL_STAGED")
        return o) w
      (fun o w' => Asked args o ∧ Ready h o ∧ ∃ disk', Prepared o.installDeps disk disk' ∧
        Staged h o disk' governor w' ∧ Safe h o disk' governor w')
      fun _ => Stopped h args disk artifacts governor := by
  obtain ⟨disk', hdisk', hw⟩ := hw
  obtain ⟨hallow, hroot, hkernel, hdir, hmachine⟩ := hhost
  rw [meets_bind, meets_embed]
  refine ((checkStaging_shows (h := h)).meets (I := Untouched disk' artifacts governor) ?_ ?_ hw).mono ?_
    fun _ w' hw' => ⟨disk', hdisk'.asked hasked, .inl hw'⟩
  · exact fun _ _ _ _ hstep => hstep.1
  · exact fun _ _ _ _ => untouched_check
  rintro userspace w₁ ⟨⟨hflock, ⟨hcards, hverified, hexecutes⟩, huserspace⟩, hw₁⟩
  have hready : Ready h o := {
    allowGen2 := hallow
    root := hroot
    kernel := hkernel
    dataDir := hdir
    machine := hmachine
    flock := hflock
    cards := hcards
    verified := hverified
    executes := hexecutes }
  refine (installers_meet hready huserspace hw₁).mono ?_ fun _ w' hw' => ?_
  · rintro _ w' ⟨rfl, hw'⟩
    exact ⟨hasked, hready, disk', hdisk', hw'⟩
  · exact ⟨disk', hdisk'.asked hasked, .inr ⟨o, hasked, hready, hw'⟩⟩

/-- A run that changes anything but by the packages has passed the checks, with options that were given. -/
theorem installAll_meets (args : List String) :
    Meets (InstallStep h) (installAll args) ⟨.start disk artifacts, governor.begin⟩
      (fun o w' => Asked args o ∧ Ready h o ∧ ∃ disk', Prepared o.installDeps disk disk' ∧
        Staged h o disk' governor w' ∧ Safe h o disk' governor w')
      fun _ => Stopped h args disk artifacts governor := by
  rw [installAll, meets_bind, meets_embed]
  refine ((checkOptions_shows (h := h) args).meets (I := Untouched disk artifacts governor) ?_ ?_ ?_).mono ?_ ?_
  · exact fun _ _ _ _ hstep => hstep.1
  · exact fun _ _ _ _ => untouched_check
  · exact ⟨rfl, Governor.unchanged_begin⟩
  · rintro o w₁ ⟨⟨hasked, hhost⟩, hw₁⟩
    have hstart : Preparing o.installDeps disk artifacts governor w₁ := preparing_self hw₁
    rw [meets_bind, meets_when]
    refine ⟨fun hdeps => ?_, fun _ => staging_meets hasked hhost hstart⟩
    rw [meets_embed]
    have hkeeps : Meets (fun e => InstallStep h (.deps e)) Deps.installDeps w₁
        (fun _ => Preparing o.installDeps disk artifacts governor) fun _ =>
          Preparing o.installDeps disk artifacts governor :=
      Script.meets_inv (fun _ _ _ _ hstep => preparing_deps hstep hdeps) hstart
    exact hkeeps.mono (fun _ _ => staging_meets hasked hhost) fun _ _ => stopped_of_preparing hasked
  · exact fun _ w' hw' => ⟨disk, ⟨.refl, fun _ => rfl⟩, .inl hw'⟩

end Cmp50Unlock.Install.All
