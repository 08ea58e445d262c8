import Cmp50Unlock.Install.Lemmas.Changes
import Cmp50Unlock.Install.Lemmas.Rollback

/-!
# A rollback after an installation
-/

namespace Cmp50Unlock.Install

open Lib

variable {h : Host} {running release : Release} {b : Backup} {d d' d'' : Disk} {userland : Prop}
  {p : Path} {backupDir : String}

/-! ## The files after a rollback -/

theorem files_rolledBack_lib {names : List (List Char)} : (d.rolledBack release b).files (.lib names) =
    (b.file (.lib names)).or (if .lib names ∈ modules.map (updates release) then none else d.files (.lib names)) := by
  simp only [Disk.rolledBack, Disk.restored, Disk.set, Disk.withService, Disk.withModules, Disk.without, Path.isLib]
  cases hfile : b.file (.lib names) <;> cases b.managed <;> cases (b.file (.initrd release)) <;> simp [hfile]

theorem files_rolledBack_options : (d.rolledBack release b).files .options = b.file .options := by
  simp only [Disk.rolledBack, Disk.restored, Disk.set]
  cases b.managed <;> cases (b.file (.initrd release)) <;> simp

theorem files_rolledBack_policy : (d.rolledBack release b).files .nouveauPolicy =
    if b.managed then b.file .nouveauPolicy else d.files .nouveauPolicy := by
  simp only [Disk.rolledBack, Disk.restored, Disk.set, Disk.withService, Disk.withModules, Disk.without, Path.isLib]
  cases b.managed <;> cases (b.file (.initrd release)) <;> simp [updates, modules]

theorem files_rolledBack_helper : (d.rolledBack release b).files .helper = b.file .helper := by
  simp only [Disk.rolledBack, Disk.restored, Disk.set, Disk.withService]
  cases b.managed <;> cases (b.file (.initrd release)) <;> simp

theorem files_rolledBack_unit : (d.rolledBack release b).files .unit = b.file .unit := by
  simp only [Disk.rolledBack, Disk.restored, Disk.set, Disk.withService]
  cases b.managed <;> cases (b.file (.initrd release)) <;> simp

theorem files_rolledBack_initrd {release' : Release} : (d.rolledBack release b).files (.initrd release') =
    if release' = release then (b.file (.initrd release)).or (d.files (.initrd release))
    else d.files (.initrd release') := by
  simp only [Disk.rolledBack, Disk.restored, Disk.set, Disk.withService, Disk.withModules, Disk.without, Path.isLib]
  by_cases heq : release' = release
  · subst heq
    cases b.managed <;> cases (b.file (.initrd release')) <;> simp [updates, modules]
  · cases b.managed <;> cases (b.file (.initrd release)) <;> simp [updates, modules, heq]

theorem wanted_rolledBack : (d.rolledBack release b).wanted = b.enabled := by
  simp only [Disk.rolledBack, Disk.restored]
  cases b.managed <;> cases (b.file (.initrd release)) <;> rfl

theorem rootMode_rolledBack : (d.rolledBack release b).rootMode = b.modulesMode := by
  simp only [Disk.rolledBack, Disk.restored]
  cases b.managed <;> cases (b.file (.initrd release)) <;> rfl

/-! ## What the backup is good for -/

theorem mem_updates {names : List (List Char)} :
    .lib names ∈ modules.map (updates release) ↔ ∃ m, names = updatesNames release m := by
  simp only [List.mem_map]
  constructor
  · rintro ⟨m, -, hm⟩
    exact ⟨m, (Path.lib.inj hm).symm⟩
  · rintro ⟨m, rfl⟩
    exact ⟨m, mem_modules m, rfl⟩

theorem mem_updates_of_managed {managed : Bool} {names : List (List Char)} (hmanaged : Managed h managed (.lib names)) :
    .lib names ∈ modules.map (updates h.release) :=
  mem_updates.mpr hmanaged

theorem copied_of_mem (hsaved : Saved h d b) {copy : Path × File} (hmem : copy ∈ b.copies) :
    Copied h d copy.1 ∧ b.file copy.1 ≠ none := by
  have hfile : b.file copy.1 ≠ none := by
    intro hnone
    rw [Backup.file, List.lookup_eq_none_iff] at hnone
    exact absurd (hnone copy hmem) (by simp)
  exact ⟨Classical.byContradiction fun hnot => hfile (hsaved.others _ hnot), hfile⟩

theorem hasModule_iff (hsaved : Saved h d b) :
    b.hasModule = true ↔ ∃ m names, d.selected m = some names ∧ d.files (.lib names) ≠ none := by
  rw [Backup.hasModule, List.any_eq_true]
  constructor
  · rintro ⟨⟨q, file⟩, hmem, hlib⟩
    obtain ⟨hcopied, hfile⟩ := copied_of_mem hsaved hmem
    rcases hcopied with hq | ⟨m, names, hselected, rfl⟩
    · simp only [Back.backedUp, List.mem_cons, List.not_mem_nil, or_false] at hq
      rcases hq with rfl | rfl | rfl | rfl | rfl <;> cases hlib
    · refine ⟨m, names, hselected, ?_⟩
      rw [← hsaved.copied _ (.inr ⟨m, names, hselected, rfl⟩)]
      exact hfile
  · rintro ⟨m, names, hselected, hfile⟩
    rw [← hsaved.copied _ (.inr ⟨m, names, hselected, rfl⟩)] at hfile
    obtain ⟨file, hfile⟩ := Option.ne_none_iff_exists'.mp hfile
    exact ⟨_, mem_of_lookup hfile, rfl⟩

theorem made_of_saved (hsaved : Saved h d b) (hdir : Back.backupsDir.toList <+: backupDir.toList) :
    b.Made h.uname.text backupDir := ⟨hsaved.uname, hdir⟩

/-- A file that the rollback removes, or has a copy of, or that was left alone. -/
theorem file_restored (hsaved : Saved h d b) (hr : Recoverable h running d)
    (hkept : ¬PutBack h b p → d'.files p = d.files p) :
    Restored h d (d'.rolledBack h.release b) p := by
  intro hp
  have hlisted : ∀ q ∈ Back.backedUp h.release, b.file q = d.files q := fun q hq => hsaved.copied q (.inl hq)
  cases p with
  | lib names =>
      rw [files_rolledBack_lib]
      cases hfile : b.file (.lib names) with
      | some file =>
          have hcopied : Copied h d (.lib names) := by
            refine Classical.byContradiction fun hnot => ?_
            rw [hsaved.others _ hnot] at hfile
            cases hfile
          rw [← hsaved.copied _ hcopied, hfile, Option.some_or]
      | none =>
          rw [Option.none_or]
          split
          next hmem =>
            obtain ⟨m, rfl⟩ := mem_updates.mp hmem
            refine Classical.byContradiction fun hne => ?_
            obtain ⟨m', hselected⟩ := hr.selected m (Ne.symm hne)
            rw [hsaved.copied _ (.inr ⟨m', _, hselected, rfl⟩)] at hfile
            exact hne hfile.symm
          next hnot =>
            refine hkept fun hput => ?_
            rcases hput with hmanaged | ⟨-, hcopy⟩
            · exact hnot (mem_updates_of_managed hmanaged)
            · exact hcopy hfile
  | options =>
      rw [files_rolledBack_options]
      exact hlisted _ (by simp [Back.backedUp])
  | nouveauPolicy =>
      rw [files_rolledBack_policy]
      split
      next => exact hlisted _ (by simp [Back.backedUp])
      next hnot =>
        refine hkept fun hput => ?_
        rcases hput with hmanaged | ⟨hlib, -⟩
        · exact hnot hmanaged
        · cases hlib
  | helper =>
      rw [files_rolledBack_helper]
      exact hlisted _ (by simp [Back.backedUp])
  | unit =>
      rw [files_rolledBack_unit]
      exact hlisted _ (by simp [Back.backedUp])
  | initrd release =>
      rw [files_rolledBack_initrd]
      split
      next heq =>
        subst heq
        obtain ⟨file, hfile⟩ := Option.ne_none_iff_exists'.mp (hp rfl)
        rw [hlisted _ (by simp [Back.backedUp]), hfile, Option.some_or]
      next hne =>
        refine hkept fun hput => ?_
        rcases hput with hmanaged | ⟨hlib, -⟩
        · exact hne hmanaged
        · cases hlib

/-- `cp` can write to `/lib`. -/
theorem libLink_iff (hsaved : Saved h d b) : (h.libLink && b.hasModule) = false ↔
    (h.libLink → ∀ m names, d.selected m = some names → d.files (.lib names) = none) := by
  rw [Bool.and_eq_false_imp, ← Bool.not_eq_true, hasModule_iff hsaved]
  refine imp_congr_right fun _ => ⟨fun hnone m names hselected => ?_, ?_⟩
  · exact Classical.byContradiction fun hfile => hnone ⟨m, names, hselected, hfile⟩
  · rintro hnone ⟨m, names, hselected, hfile⟩
    exact hfile (hnone m names hselected)

/-- The service is enabled as it was. -/
theorem isEnabled_restored (hsaved : Saved h d b) (hd : (d'.rolledBack release b).SameBut release d'') :
    d''.isEnabled h = d.isEnabled h := by
  obtain ⟨hfiles, hwanted, -⟩ := hd
  have hunit : b.file .unit = d.files .unit := hsaved.copied _ (.inl (by simp [Back.backedUp]))
  rw [Disk.isEnabled, Disk.hasUnit, hfiles .unit rfl, hwanted, files_rolledBack_unit, wanted_rolledBack, hunit,
    hsaved.enabled, Disk.isEnabled, Disk.hasUnit, Bool.and_assoc, Bool.and_self]

/-! ## A module of the installation -/

theorem rollBack_completes (running : Release) (hsaved : Saved h d b)
    (hdir : Back.backupsDir.toList <+: backupDir.toList) (hlib : (h.libLink && b.hasModule) = false) (d' : Disk) :
    (rollBack h running b backupDir d').1 = .ok () ∧
      (d'.rolledBack (rollbackRelease h.uname.text running) b).SameBut (rollbackRelease h.uname.text running)
        (rollBack h running b backupDir d').2 := by
  have hunit : b.file .unit = d.files .unit := hsaved.copied _ (.inl (by simp [Back.backedUp]))
  have henabled : b.enabled = true → ((b.file .unit).isSome || h.vendorUnit) = true := by
    rw [hsaved.enabled, hunit]
    intro hon
    exact (Bool.and_eq_true_iff.mp hon).2
  have hrolls : Rolls h running b (rollback backupDir) d'
      (fun _ d'' => (d'.rolledBack (rollbackRelease h.uname.text running) b).SameBut
        (rollbackRelease h.uname.text running) d'')
      fun _ _ => False := rollback_completes (made_of_saved hsaved hdir) hlib henabled
  have houtcome := rollBack_outcome hrolls
  cases hresult : (rollBack h running b backupDir d').1 with
  | error n =>
      rw [hresult] at houtcome
      exact houtcome.elim
  | ok _ =>
      rw [hresult] at houtcome
      exact ⟨rfl, houtcome⟩

theorem rollBack_stops (hsaved : Saved h d b) (hdir : Back.backupsDir.toList <+: backupDir.toList)
    (hlib : (h.libLink && b.hasModule) = true) :
    (rollBack h running b backupDir d').1 = .error 1 ∧ (rollBack h running b backupDir d').2 =
      { d'.without (rollbackRelease h.uname.text running) modules with rootMode := b.modulesMode } := by
  have hrolls : Rolls h running b (rollback backupDir) d' (fun _ _ => False) fun n d'' =>
      n = 1 ∧ d'' = { d'.without (rollbackRelease h.uname.text running) modules with rootMode := b.modulesMode } :=
    rollback_stops (made_of_saved hsaved hdir) hlib
  have houtcome := rollBack_outcome hrolls
  cases hresult : (rollBack h running b backupDir d').1 with
  | ok _ =>
      rw [hresult] at houtcome
      exact houtcome.elim
  | error n =>
      rw [hresult] at houtcome
      obtain ⟨rfl, hdisk⟩ := houtcome
      exact ⟨rfl, hdisk⟩

end Cmp50Unlock.Install
