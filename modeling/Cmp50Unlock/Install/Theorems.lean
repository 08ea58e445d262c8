import Cmp50Unlock.Install.Answer
import Cmp50Unlock.Install.Lemmas.History
import Cmp50Unlock.Install.Lemmas.Release
import Cmp50Unlock.Install.Lemmas.Success

/-!
# Theorems on the installer and the rollback

The runs of `install.sh` are those of `Installs`: any command may fail, and a signal may end the script at any of them.
A rollback that is not interrupted is computed by `rollBack`.
-/

namespace Cmp50Unlock.Install

open Lib

variable {h : Host} {running : Release} {userland : Prop} {args : List String}
  {artifacts : Module → Option (List UInt8)}
  {r : Except Nat Options} {o : Options} {b : Backup} {d d' d₀ : Disk} {w : World} {s : Server} {m : Module}
  {names : List (List Char)} {backupDir : String}

/-! ## The example -/

def exampleUname : Uname := ⟨"Linux".toList, "server".toList, "6.8.0-137-generic".toList, ["x86_64".toList]⟩

/-- The driver of the distribution. -/
def stockNames : List (List Char) := ["6.8.0-137-generic".toList, "kernel".toList, "nvidia.ko".toList]

def exampleHost (libLink : Bool) : Host where
  uname := exampleUname
  libLink := libLink
  vendorUnit := false
  root := true
  tools := fun _ => true
  repo := fun _ => some []
  headers := true
  machine := "x86_64"
  devices := ["0000:01:00.0"]
  subsystem := fun _ => some ("0x10de", "0x1554")
  nouveau := fun _ => false
  secureBoot := false
  index := fun files m =>
    if (files (updates exampleUname.release m)).isSome then some (updatesNames exampleUname.release m)
    else none
  indexFiles := fun _ _ _ => some ⟨[], 0o644⟩

def exampleDisk : Disk where
  files := fun p => if p = .lib stockNames then some ⟨[1], 0o644⟩ else none
  wanted := false
  selected := fun m => if m = .nvidia then some stockNames else none
  rootMode := 0o755

def exampleArtifacts (m : Module) : Option (List UInt8) := if m = .nvidia then some [2] else none

/-- The installation of the example. -/
def exampleRun (libLink : Bool) : Except Nat Options × World :=
  (install exampleUname.release []).run.interp (exampleHost libLink).answer (.start exampleDisk exampleArtifacts)

theorem exampleRun_installs (libLink : Bool) :
    Installs (exampleHost libLink) [] exampleDisk exampleArtifacts (exampleRun libLink).1 (exampleRun libLink).2 :=
  installs_answer (exampleHost libLink) [] exampleDisk exampleArtifacts

theorem exampleRun_result : (exampleRun true).1.toOption = some defaultOptions := by decide +kernel

theorem exampleRun_complete (libLink : Bool) : (exampleRun libLink).2.backup.complete = true := by
  cases libLink <;> decide +kernel

/-! ## The installer -/

/-- Until the backup is complete nothing is changed, and a run that comes so far has passed the checks, with options
that were given. From then on the backup is one of the disk before the run, and only managed files change, and those of
other programs. -/
theorem install_safe (hrun : Installs h args d artifacts r w) : Safe h ("--install-userland" ∈ args) d w ∧
    (w = .start d artifacts ∨ ∃ o, Asked args o ∧ Ready h o) := by
  have hmeets := install_meets args artifacts r w hrun
  cases r with
  | ok o => exact ⟨hmeets.1, .inr ⟨o, hmeets.2⟩⟩
  | error n => exact hmeets

theorem install_safe_example : Safe (exampleHost true) ("--install-userland" ∈ ([] : List String)) exampleDisk
    (exampleRun true).2 ∧
    ((exampleRun true).2 = .start exampleDisk exampleArtifacts ∨ ∃ o, Asked [] o ∧ Ready (exampleHost true) o) :=
  install_safe (exampleRun_installs true)

/-- A run that succeeds has installed what was asked for; nothing else has changed but for other programs. -/
theorem install_succeeds (hrun : Installs h args d artifacts (.ok o) w) :
    Installed h o d w ∧ Asked args o ∧ Ready h o :=
  install_achieves (parseOptions_shows asked_default) _ _ hrun

theorem install_succeeds_example : Installed (exampleHost true) defaultOptions exampleDisk (exampleRun true).2 ∧
    Asked [] defaultOptions ∧ Ready (exampleHost true) defaultOptions := by
  have hresult := exampleRun_result
  have hrun := exampleRun_installs true
  cases hend : (exampleRun true).1 with
  | error n =>
      rw [hend] at hresult
      cases hresult
  | ok o =>
      rw [hend] at hresult hrun
      cases hresult
      exact install_succeeds hrun

/-! ## The rollback -/

/-- The release of a backup, under any kernel: its own if it is a generic one, or else a host name that looks like one,
or else the running kernel. -/
theorem rollbackRelease_text {u : Uname} (hu : u.WellFormed)
    (hrest : ∀ word ∈ u.rest.dropLast, isGenericRelease word = false) :
    rollbackRelease u.text running =
      if isGenericRelease u.release then u.release else if isGenericRelease u.nodename then u.nodename
      else running := by
  have hne : ∀ word, isGenericRelease word = true → word ≠ [] := by
    rintro _ hword rfl
    cases hword
  rw [rollbackRelease, genericRelease_text hu hrest]
  cases hrelease : isGenericRelease u.release with
  | true => simp [hrelease, hne _ hrelease]
  | false =>
      cases hnode : isGenericRelease u.nodename with
      | true => simp [hrelease, hnode, hne _ hnode]
      | false => simp [hrelease, hnode]

theorem rollbackRelease_text_example : rollbackRelease exampleUname.text [] =
    if isGenericRelease exampleUname.release then exampleUname.release
    else if isGenericRelease exampleUname.nodename then exampleUname.nodename else [] :=
  rollbackRelease_text ⟨by decide, by decide, by decide⟩ (by decide)

/-- After an installation with any end, and any number of rollbacks with any end, a rollback that is not interrupted
restores the disk, as far as it keeps it. It leaves `/` with the mode of the backup. -/
theorem rollback_restores (hrun : Installs h args d artifacts r w)
    (hcomplete : w.backup.complete = true) (htried : Tried h w.backup w.disk d') (hr : Recoverable h running d)
    (hdir : Back.backupsDir.toList <+: backupDir.toList) :
    (rollBack h running w.backup backupDir d').1 = .ok () ∧
      (∀ p, Kept h w.backup ("--install-userland" ∈ args) p →
        Restored h d (rollBack h running w.backup backupDir d').2 p) ∧
      (rollBack h running w.backup backupDir d').2.isEnabled h = d.isEnabled h ∧
      (rollBack h running w.backup backupDir d').2.rootMode = 0o700 := by
  have hsafe := hrun.safe
  have hsaved := hsafe.saved hcomplete
  have hcovered := htried.covered (covered_of_touched (hsafe.touched hcomplete)) hsaved.uname
  obtain ⟨hresult, hend⟩ := rollBack_completes running hsaved hdir ((libLink_iff hsaved).mpr hr.lib) d'
  rw [hr.release] at hend
  refine ⟨hresult, fun p hp => ?_, isEnabled_restored hsaved hend, ?_⟩
  · rw [Restored, hend.1 p hp.1]
    exact file_restored hsaved hr fun hput => hcovered p hput (hp.not_foreign hput)
  · rw [hend.2.2, rootMode_rolledBack]
    exact hsaved.modulesMode

theorem exampleDisk_recoverable : Recoverable (exampleHost false) [] exampleDisk where
  selected := by
    intro m hm
    have hnone : exampleDisk.files (updates (exampleHost false).release m) = none := by cases m <;> decide
    exact absurd hnone hm
  release := by decide
  lib := by
    intro hlink
    cases hlink

def exampleDir : String := "/var/lib/cmp50-unlock/backups/20260101T000000Z-1"

theorem rollback_restores_example :
    (rollBack (exampleHost false) [] (exampleRun false).2.backup exampleDir (exampleRun false).2.disk).1 = .ok () ∧
      (∀ p, Kept (exampleHost false) (exampleRun false).2.backup ("--install-userland" ∈ ([] : List String)) p →
        Restored (exampleHost false) exampleDisk
          (rollBack (exampleHost false) [] (exampleRun false).2.backup exampleDir (exampleRun false).2.disk).2 p) ∧
      (rollBack (exampleHost false) [] (exampleRun false).2.backup exampleDir (exampleRun false).2.disk).2.isEnabled
        (exampleHost false) = exampleDisk.isEnabled (exampleHost false) ∧
      (rollBack (exampleHost false) [] (exampleRun false).2.backup exampleDir (exampleRun false).2.disk).2.rootMode =
        0o700 :=
  rollback_restores (exampleRun_installs false) (exampleRun_complete false) .start exampleDisk_recoverable (by decide)

/-- With a module in the backup and `/lib` a symbolic link, every rollback stops when it has moved the modules away. -/
theorem rollback_stopped (hrun : Installs h args d artifacts r w) (hcomplete : w.backup.complete = true)
    (hlink : h.libLink = true) (hselected : d.selected m = some names) (hfile : d.files (.lib names) ≠ none)
    (hdir : Back.backupsDir.toList <+: backupDir.toList) :
    rollBack h running w.backup backupDir d' = (.error 1,
      { d'.without (rollbackRelease h.uname.text running) modules with rootMode := 0o700 }) := by
  have hsaved := hrun.safe.saved hcomplete
  have hmodule : w.backup.hasModule = true := (hasModule_iff hsaved).mpr ⟨m, names, hselected, hfile⟩
  have hlib : (h.libLink && w.backup.hasModule) = true := by
    rw [hlink, hmodule]
    rfl
  have hstops : (rollBack h running w.backup backupDir d').1 = .error 1 ∧ (rollBack h running w.backup backupDir d').2 =
      { d'.without (rollbackRelease h.uname.text running) modules with rootMode := w.backup.modulesMode } :=
    rollBack_stops hsaved hdir hlib
  rw [← hsaved.modulesMode, ← hstops.1, ← hstops.2]

theorem rollback_stopped_example :
    rollBack (exampleHost true) [] (exampleRun true).2.backup exampleDir (exampleRun true).2.disk = (.error 1,
      { (exampleRun true).2.disk.without (rollbackRelease exampleUname.text []) modules with rootMode := 0o700 }) :=
  rollback_stopped (m := .nvidia) (exampleRun_installs true) (exampleRun_complete true) rfl rfl (by decide) (by decide)

end Cmp50Unlock.Install
