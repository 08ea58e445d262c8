import Cmp50Unlock.Install.Spec

/-!
# A rollback, command by command
-/

namespace Cmp50Unlock.Install

open Lib
open Lib.Script (Meets meets_bind meets_pure meets_ite meets_when meets_sh meets_attempt meets_throw)
open Scripts (Signal)

variable {h : Host} {running : Release} {b : Backup} {d d' : Disk} {p : Path} {release : Release}

/-! ## Rules -/

def RollbackStep (h : Host) (running : Release) (b : Backup) (o : RollbackOp) (d : Disk) (done : Done Signal o.Out)
    (d' : Disk) : Prop := done = (respond h running b o d).1 ∧ d' = (respond h running b o d).2

abbrev Rolls (h : Host) (running : Release) (b : Backup) {α : Type} (p : Rollback α) (d : Disk) (Q : α → Disk → Prop)
    (E : Nat → Disk → Prop) : Prop := Meets (RollbackStep h running b) p d Q E

variable {E : Nat → Disk → Prop}

/-- A rollback ends as its rules say. -/
theorem rollBack_outcome {Q : Unit → Disk → Prop} {backupDir : String}
    (hmeets : Rolls h running b (rollback backupDir) d Q E) :
    Script.Outcome Q E (rollBack h running b backupDir d).1 (rollBack h running b backupDir d).2 :=
  hmeets _ _ (Prog.exec_interp id (fun _ _ => ⟨rfl, rfl⟩) _ d)

theorem attempt_rolls {o : RollbackOp} {Q : Done Signal o.Out → Disk → Prop}
    (hsignal : (respond h running b o d).1.signal = none)
    (hQ : Q (respond h running b o d).1 (respond h running b o d).2) :
    Rolls h running b (Rollback.attempt o) d Q E := by
  rw [Rolls, meets_attempt]
  rintro done d' ⟨rfl, rfl⟩
  refine ⟨fun _ => hQ, fun sig hsig => ?_⟩
  rw [hsignal] at hsig
  cases hsig

theorem sh_rolls {o : RollbackOp} {Q : o.Out → Disk → Prop} (hsignal : (respond h running b o d).1.signal = none)
    (hstatus : (respond h running b o d).1.status = 0)
    (hQ : Q (respond h running b o d).1.out (respond h running b o d).2) :
    Rolls h running b (Rollback.sh o) d Q E := by
  rw [Rolls, meets_sh]
  rintro done d' ⟨rfl, rfl⟩
  refine ⟨fun _ _ => hQ, fun _ hne => absurd hstatus hne, fun sig hsig => ?_⟩
  rw [hsignal] at hsig
  cases hsig

/-- A command that fails ends the script. -/
theorem sh_fails {o : RollbackOp} {Q : o.Out → Disk → Prop} (hsignal : (respond h running b o d).1.signal = none)
    (hstatus : (respond h running b o d).1.status ≠ 0)
    (hE : E (respond h running b o d).1.status (respond h running b o d).2) :
    Rolls h running b (Rollback.sh o) d Q E := by
  rw [Rolls, meets_sh]
  rintro done d' ⟨rfl, rfl⟩
  refine ⟨fun _ hzero => absurd hzero hstatus, fun _ _ => hE, fun sig hsig => ?_⟩
  rw [hsignal] at hsig
  cases hsig

theorem orExit_rolls {holds : Bool} {status : Nat} {message : String} {Q : Unit → Disk → Prop} (hholds : holds = true)
    (hQ : Q () d) : Rolls h running b (Scripts.Shell.orExit holds status message) d Q E := by
  subst hholds
  exact meets_pure.mpr hQ

theorem tested_status {holds : Bool} : (tested holds d).1.status = 0 ↔ holds = true := by
  cases holds <;> simp [tested]

/-! ## Single files -/

theorem set_none (hp : d.files p = none) : d.set p none = d := by
  have hfiles : (d.set p none).files = d.files := by
    funext q
    by_cases hq : q = p
    · rw [hq, hp]
      exact files_set_same
    · exact files_set_ne hq
  cases d
  exact congrArg (fun files => Disk.mk files _ _ _) hfiles

theorem set_set {file file' : Option File} : (d.set p file).set p file' = d.set p file' := by
  have hfiles : ((d.set p file).set p file').files = (d.set p file').files := by
    funext q
    by_cases hq : q = p
    · rw [hq, files_set_same, files_set_same]
    · rw [files_set_ne hq, files_set_ne hq, files_set_ne hq]
  exact congrArg (fun files => Disk.mk files _ _ _) hfiles

/-- A copy that exists is put to its path. -/
def Disk.restored (d : Disk) (b : Backup) (p : Path) : Disk := if (b.file p).isSome then d.set p (b.file p) else d

theorem restored_of_none (hd : d.files p = none) : d.restored b p = d.set p (b.file p) := by
  rw [Disk.restored]
  split
  next => rfl
  next hcopy =>
    rw [Option.not_isSome_iff_eq_none.mp hcopy]
    exact (set_none hd).symm

/-- The command puts the copy of a file to its path. -/
def PutsCopy (h : Host) (running : Release) (b : Backup) (command : Path → RollbackOp) : Prop :=
  ∀ p d, (respond h running b (command p) d).1.signal = none ∧ (respond h running b (command p) d).1.status = 0 ∧
    (respond h running b (command p) d).2 = d.set p (b.file p)

theorem putsCopy_restore : PutsCopy h running b .restore := fun _ _ => ⟨rfl, rfl, rfl⟩

theorem putsCopy_restoreService : PutsCopy h running b .restoreService := fun _ _ => ⟨rfl, rfl, rfl⟩

theorem restoreWith_rolls {command : Path → RollbackOp} (hcommand : PutsCopy h running b command) :
    Rolls h running b (Rollback.restoreWith command p) d (fun _ d' => d' = d.restored b p) E := by
  rw [Rolls, Rollback.restoreWith, meets_bind]
  refine attempt_rolls rfl ?_
  rw [meets_ite]
  refine ⟨fun hstatus => ?_, fun hstatus => ?_⟩
  · obtain ⟨hsignal, hzero, hafter⟩ := hcommand p d
    rw [meets_bind]
    refine sh_rolls hsignal hzero ?_
    rw [meets_pure, Disk.restored, if_pos (tested_status.mp hstatus)]
    exact hafter
  · rw [meets_pure, Disk.restored, if_neg fun hcopy => hstatus (tested_status.mpr hcopy)]
    rfl

theorem replace_rolls : Rolls h running b (Rollback.replace p) d (fun _ d' => d' = d.set p (b.file p)) E := by
  rw [Rolls, Rollback.replace, meets_bind]
  refine sh_rolls rfl rfl ?_
  refine (restoreWith_rolls putsCopy_restore).mono ?_ fun _ _ => id
  rintro _ d' rfl
  rw [restored_of_none]
  · exact set_set
  · exact files_set_same

/-! ## The modules -/

/-- Some modules are moved away. -/
def Disk.without (d : Disk) (release : Release) (ms : List Module) : Disk :=
  { d with files := fun p => if p ∈ ms.map (updates release) then none else d.files p }

theorem files_without {ms : List Module} (hp : p ∉ ms.map (updates release)) :
    (d.without release ms).files p = d.files p := if_neg hp

theorem without_cons {m : Module} {ms : List Module} :
    d.without release (m :: ms) = (d.set (updates release m) none).without release ms := by
  have hfiles : (d.without release (m :: ms)).files = ((d.set (updates release m) none).without release ms).files := by
    funext q
    simp only [Disk.without, Disk.set, List.map_cons, List.mem_cons]
    by_cases hq : q = updates release m <;> by_cases hmem : q ∈ ms.map (updates release) <;> simp [hq, hmem]
  exact congrArg (fun files => Disk.mk files _ _ _) hfiles

theorem moveModule_rolls (m : Module) :
    Rolls h running b (Rollback.moveModule release m) d (fun _ d' => d' = d.set (updates release m) none) E := by
  rw [Rolls, Rollback.moveModule, meets_bind]
  refine attempt_rolls rfl ?_
  rw [meets_ite]
  refine ⟨fun _ => sh_rolls rfl rfl rfl, fun hstatus => ?_⟩
  have hnone : d.files (updates release m) = none := by
    rw [← Option.not_isSome_iff_eq_none, ← tested_status]
    exact hstatus
  rw [meets_pure]
  exact (set_none hnone).symm

theorem moveModules_rolls (ms : List Module) :
    Rolls h running b (ms.forM (Rollback.moveModule release)) d (fun _ d' => d' = d.without release ms) E := by
  induction ms generalizing d with
  | nil =>
      rw [Rolls, List.forM, meets_pure]
      simp [Disk.without]
  | cons m ms ih =>
      rw [Rolls, List.forM, meets_bind]
      refine (moveModule_rolls m).mono ?_ fun _ _ => id
      rintro _ d' rfl
      rw [without_cons]
      exact ih

/-- The copies of the modules are put back. -/
def Disk.withModules (d : Disk) (b : Backup) : Disk :=
  { d with
    rootMode := b.modulesMode
    files := fun p => if p.isLib then (b.file p).orElse fun _ => d.files p else d.files p }

/-! ## The service and the configuration -/

/-- The service is as it was saved. -/
def Disk.withService (d : Disk) (b : Backup) : Disk :=
  { (d.set .helper (b.file .helper)).set .unit (b.file .unit) with wanted := b.enabled }

theorem enable_rolls {Q : Unit → Disk → Prop} (hunit : d.hasUnit h = true) (hQ : Q () { d with wanted := true }) :
    Rolls h running b (Rollback.sh .enable) d Q E := by
  have hresponse : respond h running b .enable d = succeeds { d with wanted := true } := if_pos hunit
  refine sh_rolls ?_ ?_ ?_
  · rw [hresponse]
    rfl
  · rw [hresponse]
    rfl
  · rw [hresponse]
    exact hQ

theorem restoreService_rolls (henabled : b.enabled = true → (d.withService b).hasUnit h = true) :
    Rolls h running b Rollback.restoreService d (fun _ d' => d' = d.withService b) E := by
  rw [Rolls, Rollback.restoreService, meets_bind]
  refine attempt_rolls rfl ?_
  rw [meets_bind]
  refine sh_rolls rfl rfl ?_
  rw [meets_bind]
  refine (restoreWith_rolls putsCopy_restoreService).mono ?_ fun _ _ => id
  rintro _ d₁ rfl
  rw [restored_of_none (files_set_ne (by decide)), meets_bind]
  refine (restoreWith_rolls putsCopy_restoreService).mono ?_ fun _ _ => id
  rintro _ d₂ rfl
  rw [restored_of_none (files_set_ne (by decide)), meets_bind]
  refine sh_rolls rfl rfl ?_
  rw [meets_bind]
  refine attempt_rolls rfl ?_
  have hfiles : (((({ d with wanted := false }.set .helper none).set .unit none).set .helper (b.file .helper)).set .unit
      (b.file .unit)).files = (d.withService b).files := by
    funext q
    simp only [Disk.set, Disk.withService]
    by_cases hunit : q = .unit <;> by_cases hhelper : q = .helper <;> simp [hunit, hhelper]
  rw [meets_when]
  refine ⟨fun hstatus => ?_, fun hstatus => ?_⟩
  · have hon : b.enabled = true := tested_status.mp hstatus
    have hunit := henabled hon
    rw [Disk.hasUnit, ← hfiles] at hunit
    exact enable_rolls hunit (Disk.ext hfiles hon.symm rfl rfl)
  · have hoff : b.enabled = false := by
      rw [← Bool.not_eq_true, ← tested_status]
      exact hstatus
    exact Disk.ext hfiles hoff.symm rfl rfl

theorem restoreConfig_rolls :
    Rolls h running b Rollback.restoreConfig d
      (fun _ d' => d' = if b.managed then (d.set .options (b.file .options)).set .nouveauPolicy (b.file .nouveauPolicy)
        else d.set .options (b.file .options)) E := by
  rw [Rolls, Rollback.restoreConfig, meets_bind]
  refine replace_rolls.mono ?_ fun _ _ => id
  rintro _ d₁ rfl
  rw [meets_bind]
  refine attempt_rolls rfl ?_
  rw [meets_when]
  refine ⟨fun hstatus => ?_, fun hstatus => ?_⟩
  · rw [if_pos (tested_status.mp hstatus)]
    exact replace_rolls
  · rw [if_neg fun hmanaged => hstatus (tested_status.mpr hmanaged)]
    rfl

/-! ## The whole script -/

/-- What a rollback leaves. -/
def Disk.rolledBack (d : Disk) (release : Release) (b : Backup) : Disk :=
  let restored := ((d.without release modules).withModules b).withService b
  let configured := restored.set .options (b.file .options)
  let policed := if b.managed then configured.set .nouveauPolicy (b.file .nouveauPolicy) else configured
  policed.restored b (.initrd release)

/-- The installer has made the backup. -/
structure Backup.Made (b : Backup) (text : List Char) (backupDir : String) : Prop where
  uname : b.uname = some text
  dir : Back.backupsDir.toList <+: backupDir.toList

theorem checkBackup_rolls {text : List Char} {backupDir : String} (hb : b.Made text backupDir) :
    Rolls h running b (Rollback.checkBackup backupDir) d (fun _ d' => d' = d) E := by
  have hne : backupDir ≠ "" := by
    rintro rfl
    have hlength := hb.dir.length_le
    revert hlength
    decide
  rw [Rolls, Rollback.checkBackup, meets_bind]
  refine attempt_rolls rfl ?_
  rw [meets_bind]
  refine orExit_rolls rfl ?_
  rw [meets_bind]
  refine attempt_rolls rfl ?_
  rw [meets_bind]
  have hfound : (backupDir != "" && (0 : Nat) == 0) = true := by simpa using hne
  refine orExit_rolls hfound ?_
  exact orExit_rolls (List.isPrefixOf_iff_prefix.mpr hb.dir) rfl

theorem readRelease_rolls {text : List Char} {backupDir : String} (hb : b.Made text backupDir) :
    Rolls h running b Rollback.readRelease d (fun r d' => r = rollbackRelease text running ∧ d' = d) E := by
  have hstatus : (respond h running b .readRelease d).1.status = 0 := by
    rw [respond, hb.uname]
    rfl
  have hout : (respond h running b .readRelease d).1.out = genericRelease text := by
    rw [respond, hb.uname]
    rfl
  rw [Rolls, Rollback.readRelease, meets_bind]
  refine sh_rolls rfl hstatus ?_
  rw [hout, meets_ite, rollbackRelease]
  refine ⟨fun hempty => ?_, fun hsome => ?_⟩
  · rw [if_pos hempty]
    exact sh_rolls rfl rfl ⟨rfl, rfl⟩
  · rw [if_neg hsome, meets_pure]
    exact ⟨rfl, rfl⟩

/-- The commands up to the copies of the modules. -/
theorem rollback_rolls {text : List Char} {backupDir : String} (hb : b.Made text backupDir) {Q : Unit → Disk → Prop}
    (hrest : ∀ release, release = rollbackRelease text running → Rolls h running b (do
        Rollback.sh .restoreModules
        Rollback.restoreService
        Rollback.restoreConfig
        Rollback.restoreWith .restore (.initrd release)
        Rollback.sh (.depmod release)
        Rollback.sh (.report ("PASS_CMP50_ROLLBACK: reboot into " ++ String.ofList release)))
      (d.without release modules) Q E) :
    Rolls h running b (rollback backupDir) d Q E := by
  rw [Rolls, rollback, meets_bind]
  refine (checkBackup_rolls hb).mono ?_ fun _ _ => id
  rintro _ d₁ rfl
  rw [meets_bind]
  refine (readRelease_rolls hb).mono ?_ fun _ _ => id
  rintro release d₂ ⟨hrelease, rfl⟩
  rw [meets_bind]
  refine sh_rolls rfl rfl ?_
  rw [meets_bind]
  refine (moveModules_rolls modules).mono ?_ fun _ _ => id
  rintro _ d₃ rfl
  exact hrest release hrelease

/-- The index of the release is of no account here. -/
def Disk.SameBut (release : Release) (d d' : Disk) : Prop :=
  (∀ p, p.isIndex release = false → d'.files p = d.files p) ∧ d'.wanted = d.wanted ∧ d'.rootMode = d.rootMode

theorem rollback_completes {text : List Char} {backupDir : String} (hb : b.Made text backupDir)
    (hlib : (h.libLink && b.hasModule) = false)
    (henabled : b.enabled = true → ((b.file .unit).isSome || h.vendorUnit) = true) :
    Rolls h running b (rollback backupDir) d
      (fun _ d' => (d.rolledBack (rollbackRelease text running) b).SameBut (rollbackRelease text running) d')
      fun _ _ => False := by
  refine rollback_rolls hb fun release hrelease => ?_
  have hmodules : respond h running b .restoreModules (d.without release modules) =
      succeeds ((d.without release modules).withModules b) := by
    rw [respond, restoreModules, hlib]
    rfl
  rw [Rolls, meets_bind]
  refine sh_rolls (by rw [hmodules]; rfl) (by rw [hmodules]; rfl) ?_
  rw [hmodules, meets_bind]
  refine (restoreService_rolls henabled).mono ?_ fun _ _ => id
  rintro _ d₁ rfl
  rw [meets_bind]
  refine restoreConfig_rolls.mono ?_ fun _ _ => id
  rintro _ d₂ rfl
  rw [meets_bind]
  refine (restoreWith_rolls putsCopy_restore).mono ?_ fun _ _ => id
  rintro _ d₃ rfl
  rw [meets_bind]
  refine sh_rolls rfl rfl (sh_rolls rfl rfl ?_)
  subst hrelease
  exact ⟨fun p hp => files_indexed (by simp [hp]), rfl, rfl⟩

/-- `cp` refuses to put the directory `lib` in the place of the symbolic link. -/
theorem rollback_stops {text : List Char} {backupDir : String} (hb : b.Made text backupDir)
    (hlib : (h.libLink && b.hasModule) = true) :
    Rolls h running b (rollback backupDir) d (fun _ _ => False) fun n d' =>
      n = 1 ∧ d' = { d.without (rollbackRelease text running) modules with rootMode := b.modulesMode } := by
  refine rollback_rolls hb fun release hrelease => ?_
  have hmodules : respond h running b .restoreModules (d.without release modules) =
      (⟨1, (), none⟩, { d.without release modules with rootMode := b.modulesMode }) := by
    rw [respond, restoreModules, hlib]
    rfl
  rw [Rolls, meets_bind]
  refine sh_fails (by rw [hmodules]) ?_ ?_
  · rw [hmodules]
    exact Nat.one_ne_zero
  · rw [hmodules, hrelease]
    exact ⟨rfl, rfl⟩

end Cmp50Unlock.Install
