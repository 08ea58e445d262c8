import Cmp50Unlock.Install.Spec

/-!
# A run up to the backup
-/

namespace Cmp50Unlock.Install

open Lib
open Lib.Script (Meets meets_bind meets_pure meets_ite meets_when meets_sh meets_attempt meets_forM_all)
open Scripts (Signal)

variable {h : Host} {d : Disk} {w w' : World} {release : Release} {p : Path}

/-! ## The copies so far -/

/-- The disk is untouched, and what is copied is as on the disk. -/
structure Backing (h : Host) (d : Disk) (w : World) : Prop where
  disk : w.disk = d
  copies : ∀ copy ∈ w.backup.copies, Copied h d copy.1 ∧ d.files copy.1 = some copy.2
  enabled : w.backup.enabled = false
  managed : w.backup.managed = false
  modulesMode : w.backup.modulesMode = 0o700
  complete : w.backup.complete = false

theorem mem_of_lookup {copies : List (Path × File)} {file : File} (h : copies.lookup p = some file) :
    (p, file) ∈ copies := by
  obtain ⟨l₁, l₂, heq, -⟩ := List.lookup_eq_some_iff.mp h
  rw [heq]
  exact List.mem_append_right l₁ (.head l₂)

/-- A file that does not exist has no copy. -/
theorem Backing.none (hw : Backing h d w) (hp : d.files p = none) : w.backup.file p = none := by
  cases hfile : w.backup.file p with
  | none => rfl
  | some file =>
      have hcopy := (hw.copies _ (mem_of_lookup hfile)).2
      rw [hp] at hcopy
      cases hcopy

theorem Backing.uncopied (hw : Backing h d w) (hp : ¬Copied h d p) : w.backup.file p = Option.none := by
  cases hfile : w.backup.file p with
  | none => rfl
  | some file => exact absurd (hw.copies _ (mem_of_lookup hfile)).1 hp

/-- A command that only looks. -/
theorem backing_of_after {o : BackupOp} {done : Done Signal o.Out} (hstep : BackupStep h o w done w')
    (hafter : ∀ b disk, Backup.after h b disk o = b) (hfails : ∀ b b', Backup.Fails b o b' → b' = b) : w' = w := by
  obtain ⟨-, b, rfl, hok, herror⟩ := hstep
  by_cases hstatus : done.status = 0
  · rw [hok hstatus, hafter]
  · rw [hfails _ _ (herror hstatus)]

theorem test_step {done : Done Signal Unit} (hstep : BackupStep h (.test p) w done w') : w' = w :=
  backing_of_after hstep (fun _ _ => rfl) fun _ _ => id

theorem copied_files (b : Backup) (disk : Disk) (q : Path) :
    (b.after h disk (.copy p)).file q = if q = p then (disk.files p).or (b.file p) else b.file q := by
  rw [Backup.after, Backup.file]
  cases hp : disk.files p with
  | none =>
      split
      next hq => rw [hq]; rfl
      next hq => rfl
  | some file =>
      simp only [Option.toList_some, List.map_cons, List.map_nil, List.singleton_append,
        List.lookup_cons, Option.some_or]
      by_cases hq : q = p
      · simp [hq]
      · have hbeq : (q == p) = false := beq_eq_false_iff_ne.mpr hq
        simp only [hq, hbeq, if_false, Backup.file]

theorem copy_step {done : Done Signal Unit} (hstep : BackupStep h (.copy p) w done w') (hw : Backing h d w)
    (hp : Copied h d p) (hstatus : done.status = 0) :
    Backing h d w' ∧ w'.backup.file p = (d.files p).or (w.backup.file p) ∧
      ∀ q, w.backup.file q = d.files q → w'.backup.file q = d.files q := by
  obtain ⟨-, b, rfl, hok, -⟩ := hstep
  have hb := hok hstatus
  rw [hw.disk] at hb
  subst hb
  refine ⟨⟨hw.disk, ?_, hw.enabled, hw.managed, hw.modulesMode, hw.complete⟩, ?_, ?_⟩
  · intro copy hmem
    simp only [Backup.after, List.mem_append, List.mem_map, Option.mem_toList] at hmem
    rcases hmem with ⟨file, hfile, rfl⟩ | hmem
    · exact ⟨hp, hfile⟩
    · exact hw.copies copy hmem
  · simp only [copied_files, if_true]
  · intro q hq
    simp only [copied_files]
    split
    next heq =>
      subst heq
      rw [hq, Option.or_self]
    next => exact hq

/-! ## A file -/

theorem backUpFile_meets (hw : Backing h d w) (hp : Copied h d p) :
    Meets (BackupStep h) (Back.backUpFile p) w
      (fun _ w' => w'.backup.file p = d.files p ∧ Backing h d w' ∧
        ∀ q, w.backup.file q = d.files q → w'.backup.file q = d.files q)
      fun _ w' => w'.disk = d ∧ w'.backup.complete = false := by
  rw [Back.backUpFile, meets_bind, meets_attempt]
  intro done w₁ hstep
  obtain rfl := test_step hstep
  refine ⟨fun hsignal => ?_, fun _ _ => ⟨hw.disk, hw.complete⟩⟩
  have htells : done.status = 0 ↔ (d.files p).isSome := hw.disk ▸ hstep.1 hsignal
  rw [meets_ite]
  refine ⟨fun hstatus => ?_, fun hstatus => ?_⟩
  · obtain ⟨file, hfile⟩ := Option.isSome_iff_exists.mp (htells.mp hstatus)
    rw [meets_sh]
    intro done' w₂ hcopy
    have hfails : w₂.disk = d ∧ w₂.backup.complete = false := by
      obtain ⟨-, b, rfl, hok, herror⟩ := hcopy
      by_cases hstatus' : done'.status = 0
      · rw [hok hstatus']
        exact ⟨hw.disk, hw.complete⟩
      · exact ⟨hw.disk, (herror hstatus').trans hw.complete⟩
    refine ⟨fun _ hstatus' => ?_, fun _ _ => hfails, fun _ _ => hfails⟩
    obtain ⟨hbacking, hcopied, hkeep⟩ := copy_step hcopy hw hp hstatus'
    refine ⟨?_, hbacking, hkeep⟩
    rw [hcopied, hfile, Option.some_or]
  · have hnone : d.files p = Option.none := by
      rw [← Option.not_isSome_iff_eq_none, ← htells]
      exact hstatus
    rw [meets_pure]
    exact ⟨by rw [hw.none hnone, hnone], hw, fun _ => id⟩

/-- What the copies of a module are to be. -/
def ModuleCopied (d : Disk) (m : Module) (w : World) : Prop :=
  ∀ names, d.selected m = some names → w.backup.file (.lib names) = d.files (.lib names)

theorem backUpModule_meets {m : Module} (hw : Backing h d w) :
    Meets (BackupStep h) (Back.backUpModule m) w
      (fun _ w' => ModuleCopied d m w' ∧ Backing h d w' ∧
        ∀ q, w.backup.file q = d.files q → w'.backup.file q = d.files q)
      fun _ w' => w'.disk = d ∧ w'.backup.complete = false := by
  rw [Back.backUpModule, meets_bind, meets_attempt]
  intro done w₁ hstep
  obtain rfl : w₁ = w := backing_of_after hstep (fun _ _ => rfl) fun _ _ => id
  refine ⟨fun hsignal => ?_, fun _ _ => ⟨hw.disk, hw.complete⟩⟩
  have htells : done.out = d.selected m := hw.disk ▸ hstep.1 hsignal
  cases hout : done.out with
  | none =>
      refine meets_pure.mpr ⟨fun names hnames => ?_, hw, fun _ => id⟩
      rw [← htells, hout] at hnames
      cases hnames
  | some names =>
      have hselected : d.selected m = some names := htells.symm.trans hout
      refine (backUpFile_meets hw (.inr ⟨m, names, hselected, rfl⟩)).mono ?_ fun _ _ => id
      intro _ w₂ hfile
      refine ⟨fun names' hnames => ?_, hfile.2⟩
      rw [hselected] at hnames
      cases hnames
      exact hfile.1

/-! ## The whole backup -/

/-- The files besides the modules. -/
theorem backUpFiles_meets (hw : Backing h d w) (hmodules : ∀ m, ModuleCopied d m w) :
    Meets (BackupStep h) ((Back.backedUp h.release).forM Back.backUpFile) w
      (fun _ w' => Backing h d w' ∧ ∀ q, Copied h d q → w'.backup.file q = d.files q)
      fun _ w' => w'.disk = d ∧ w'.backup.complete = false := by
  have hall : Meets (BackupStep h) ((Back.backedUp h.release).forM Back.backUpFile) w
      (fun _ w' => (∀ q ∈ Back.backedUp h.release, w'.backup.file q = d.files q) ∧
        Backing h d w' ∧ ∀ m, ModuleCopied d m w')
      fun _ w' => w'.disk = d ∧ w'.backup.complete = false := by
    refine meets_forM_all ?_ ⟨hw, hmodules⟩
    intro q hq w₁ hw₁
    refine (backUpFile_meets hw₁.1 (.inl hq)).mono ?_ fun _ _ => id
    intro _ w₂ hw₂
    obtain ⟨hfile, hbacking, hkeep⟩ := hw₂
    exact ⟨hfile, ⟨hbacking, fun m names hnames => hkeep _ (hw₁.2 m names hnames)⟩, fun q' _ => hkeep q'⟩
  refine hall.mono ?_ fun _ _ => id
  intro _ w' hw'
  obtain ⟨hfiles, hbacking, hmods⟩ := hw'
  refine ⟨hbacking, fun q hq => ?_⟩
  rcases hq with hq | ⟨m, names, hselected, rfl⟩
  · exact hfiles q hq
  · exact hmods m names hselected

theorem backUpModules_meets (hw : Backing h d w) :
    Meets (BackupStep h) (modules.forM Back.backUpModule) w
      (fun _ w' => Backing h d w' ∧ ∀ m, ModuleCopied d m w')
      fun _ w' => w'.disk = d ∧ w'.backup.complete = false := by
  have hall : Meets (BackupStep h) (modules.forM Back.backUpModule) w
      (fun _ w' => (∀ m ∈ modules, ModuleCopied d m w') ∧ Backing h d w')
      fun _ w' => w'.disk = d ∧ w'.backup.complete = false := by
    refine meets_forM_all ?_ hw
    intro m _ w₁ hw₁
    refine (backUpModule_meets hw₁).mono ?_ fun _ _ => id
    intro _ w₂ hw₂
    obtain ⟨hcopied, hbacking, hkeep⟩ := hw₂
    exact ⟨hcopied, hbacking, fun m' _ hm' names hnames => hkeep _ (hm' names hnames)⟩
  refine hall.mono ?_ fun _ _ => id
  intro _ w' hw'
  exact ⟨hw'.2, fun m => hw'.1 m (mem_modules m)⟩

/-- A command of the backup that leaves the disk, and leaves a complete backup only if it is right. -/
theorem sh_meets {o : BackupOp} {Q : o.Out → World → Prop} (hdisk : w.disk = d)
    (hafter : (w.backup.after h d o).complete = true → Saved h d (w.backup.after h d o))
    (hfails : ∀ b, w.backup.Fails o b → b.complete = true → Saved h d b)
    (hQ : ∀ out, Q out { w with backup := w.backup.after h d o }) :
    Meets (BackupStep h) (Back.sh o) w Q fun _ w' => w'.disk = d ∧
    (w'.backup.complete = true → Saved h d w'.backup) := by
  rw [meets_sh]
  intro done w' hstep
  obtain ⟨-, b, rfl, hok, herror⟩ := hstep
  rw [hdisk] at hok
  have hend : b.complete = true → Saved h d b := by
    by_cases hstatus : done.status = 0
    · rw [hok hstatus]
      exact hafter
    · exact hfails b (herror hstatus)
  refine ⟨fun _ hstatus => ?_, fun _ _ => ⟨hdisk, hend⟩, fun _ _ => ⟨hdisk, hend⟩⟩
  rw [hok hstatus]
  exact hQ done.out

/-- What has been copied, marked and noted is a backup of the disk. -/
theorem saved_of_backing {enabled managed complete : Bool} (hw : Backing h d w)
    (hcopied : ∀ q, Copied h d q → w.backup.file q = d.files q) (henabled : enabled = d.isEnabled h) :
    Saved h d { w.backup with
      enabled := enabled, managed := managed, uname := some h.uname.text, complete := complete } where
  copied := hcopied
  others := fun _ => hw.uncopied
  enabled := henabled
  uname := rfl
  modulesMode := hw.modulesMode

theorem not_saved_of_incomplete {b : Backup} (hb : b.complete = false) : b.complete = true → Saved h d b := by
  intro hb'
  rw [hb] at hb'
  cases hb'

theorem backUpEnabled_meets (hw : Backing h d w) (hcopied : ∀ q, Copied h d q → w.backup.file q = d.files q) :
    Meets (BackupStep h) Back.backUpEnabled w
      (fun _ w' => w'.disk = d ∧ w'.backup = { w.backup with enabled := d.isEnabled h })
      fun _ w' => w'.disk = d ∧ (w'.backup.complete = true → Saved h d w'.backup) := by
  rw [Back.backUpEnabled, meets_bind, meets_attempt]
  intro done w' hstep
  obtain rfl : w' = w := backing_of_after hstep (fun _ _ => rfl) fun _ _ => id
  refine ⟨fun hsignal => ?_, fun _ _ => ⟨hw.disk, not_saved_of_incomplete hw.complete⟩⟩
  have htells : done.status = 0 ↔ d.isEnabled h := hw.disk ▸ hstep.1 hsignal
  rw [meets_when]
  refine ⟨fun hstatus => ?_, fun hstatus => ⟨hw.disk, ?_⟩⟩
  · refine sh_meets hw.disk (not_saved_of_incomplete hw.complete) ?_ fun _ => ⟨hw.disk, ?_⟩
    · intro b hb
      exact not_saved_of_incomplete (hb.trans hw.complete)
    · rw [htells.mp hstatus]
      rfl
  · have hnot : d.isEnabled h = false := by
      rw [← Bool.not_eq_true, ← htells]
      exact hstatus
    rw [hnot, ← hw.enabled]

/-- The disk is saved when the backup is announced, whatever comes afterwards. -/
theorem announce_meets {disableNouveau : Bool} {dir : String} (hdisk : w.disk = d)
    (hsaved : ∀ managed complete, Saved h d { w.backup with managed := managed, complete := complete })
    (hmanaged : w.backup.managed = false) :
    Meets (BackupStep h) (Back.announce disableNouveau dir) w
      (fun _ w' => w'.disk = d ∧ Saved h d w'.backup ∧ w'.backup.complete = true ∧ w'.backup.managed = disableNouveau)
      fun _ w' => w'.disk = d ∧ (w'.backup.complete = true → Saved h d w'.backup) := by
  rw [Back.announce, meets_bind]
  refine sh_meets hdisk (fun _ => hsaved _ _) ?_ fun _ => ?_
  · rintro b rfl -
    exact hsaved w.backup.managed w.backup.complete
  · rw [meets_when]
    refine ⟨fun hdisable => ?_, fun hdisable => ⟨hdisk, hsaved _ _, rfl, ?_⟩⟩
    · refine sh_meets hdisk (fun _ => hsaved _ _) ?_ fun _ => ⟨hdisk, hsaved _ _, rfl, hdisable.symm⟩
      rintro b ⟨managed, rfl⟩ -
      exact hsaved managed true
    · rw [Bool.eq_false_iff.mpr hdisable]
      exact hmanaged

theorem backUp_meets {disableNouveau : Bool} (hdisk : w.disk = d) (hcomplete : w.backup.complete = false) :
    Meets (BackupStep h) (Back.backUp h.release disableNouveau) w
      (fun _ w' => w'.disk = d ∧ Saved h d w'.backup ∧ w'.backup.complete = true ∧ w'.backup.managed = disableNouveau)
      fun _ w' => w'.disk = d ∧ (w'.backup.complete = true → Saved h d w'.backup) := by
  simp only [Back.backUp, meets_bind]
  refine sh_meets hdisk (not_saved_of_incomplete hcomplete) ?_ fun timestamp => ?_
  · rintro b rfl
    exact not_saved_of_incomplete hcomplete
  refine sh_meets hdisk (not_saved_of_incomplete rfl) ?_ fun _ => ?_
  · intro b hb
    exact not_saved_of_incomplete (hb.trans hcomplete)
  have hcreated : Backing h d { w with backup := .created } :=
    ⟨hdisk, fun _ hmem => absurd hmem List.not_mem_nil, rfl, rfl, rfl, rfl⟩
  refine (backUpModules_meets hcreated).mono ?_ fun _ w' hw' => ⟨hw'.1, not_saved_of_incomplete hw'.2⟩
  intro _ w₁ hw₁
  refine (backUpFiles_meets hw₁.1 hw₁.2).mono ?_ fun _ w' hw' => ⟨hw'.1, not_saved_of_incomplete hw'.2⟩
  intro _ w₂ hw₂
  obtain ⟨hbacking, hcopied⟩ := hw₂
  refine (backUpEnabled_meets hbacking hcopied).mono ?_ fun _ _ => id
  intro _ w₃ hw₃
  obtain ⟨hdisk₃, hbackup₃⟩ := hw₃
  have hcomplete₃ : w₃.backup.complete = false := by rw [hbackup₃]; exact hbacking.complete
  refine sh_meets hdisk₃ (not_saved_of_incomplete hcomplete₃) ?_ fun _ => ?_
  · intro b hb
    exact not_saved_of_incomplete (hb.trans hcomplete₃)
  refine sh_meets hdisk₃ (not_saved_of_incomplete hcomplete₃) ?_ fun _ => ?_
  · rintro b rfl
    exact not_saved_of_incomplete hcomplete₃
  simp only [meets_pure]
  refine announce_meets hdisk₃ ?_ ?_
  · intro managed complete
    simp only [Backup.after, hbackup₃]
    exact saved_of_backing hbacking hcopied rfl
  · simp only [Backup.after, hbackup₃]
    exact hbacking.managed

end Cmp50Unlock.Install
