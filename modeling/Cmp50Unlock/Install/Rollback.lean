import Cmp50Unlock.Install.World

/-!
# The rollback

`rollback.sh`, with the documented behaviour of its commands. They depend on the disk, the backup and the running kernel
only, so that a rollback can be computed.
-/

namespace Cmp50Unlock.Install

open Lib
open Scripts (Signal)
open Scripts.Shell (orExit)

/-! ## The kernel of a backup -/

/-- `[0-9][^ ]*-generic` for a word without a blank -/
def isGenericRelease : List Char → Bool
  | [] => false
  | c :: cs => c.isDigit && "-generic".toList.isSuffixOf cs

/-- `sed -n 's/.* \([0-9][^ ]*-generic\) .*/\1/p'` on a line: the last such word with a blank on both sides -/
def genericWord (line : List Char) : Option (List Char) :=
  (line.splitOn ' ').dropLast.tail.reverse.find? isGenericRelease

/-- `sed ... uname.txt | head -n1` -/
def genericRelease (text : List Char) : List Char := ((text.splitOn '\n').findSome? genericWord).getD []

/-- `${kernel_release}` of the rollback -/
def rollbackRelease (text : List Char) (running : Release) : Release :=
  if genericRelease text = [] then running else genericRelease text

/-! ## Commands -/

inductive RollbackOp where
  | error (line : String)
  | testRoot
  | testBackup
  | readRelease
  | uname
  | createDisabled
  | test (p : Path)
  | moveAway (p : Path)
  | restoreModules
  | disable
  | removeService
  | testCopy (p : Path)
  | restoreService (p : Path)
  | daemonReload
  | testEnabled
  | enable
  | remove (p : Path)
  | restore (p : Path)
  | testManaged
  | depmod (release : Release)
  | report (line : String)

@[reducible] def RollbackOp.Out : RollbackOp → Type
  | .readRelease | .uname => List Char
  | _ => Unit

abbrev Rollback := Script RollbackOp Signal RollbackOp.Out

instance : Script.Stderr RollbackOp := ⟨.error⟩

namespace Rollback

abbrev sh (o : RollbackOp) : Rollback o.Out := Scripts.Shell.sh o

abbrev attempt (o : RollbackOp) : Rollback (Done Signal o.Out) := Scripts.Shell.attempt o

/-- The tests of the argument. -/
def checkBackup (backupDir : String) : Rollback Unit := do
  let root ← attempt .testRoot
  orExit (root.status == 0) 1 "run as root"
  let found ← attempt .testBackup
  orExit (backupDir != "" && found.status == 0) 2 "usage: sudo ./rollback.sh /var/lib/cmp50-unlock/backups/TIMESTAMP"
  orExit (Back.backupsDir.toList.isPrefixOf backupDir.toList) 2 "refusing backup outside /var/lib/cmp50-unlock/backups"

def readRelease : Rollback Release := do
  let release ← sh .readRelease
  if release = [] then sh .uname else return release

/-- A module of the installation is moved to `disabled-...`. -/
def moveModule (release : Release) (m : Module) : Rollback PUnit := do
  let found ← attempt (.test (updates release m))
  if found.status = 0 then
    sh (.moveAway (updates release m))

/-- `if [[ -f ... ]]; then ...; fi` for a copy -/
def restoreWith (command : Path → RollbackOp) (p : Path) : Rollback PUnit := do
  let found ← attempt (.testCopy p)
  if found.status = 0 then do
    let _ ← sh (command p)

/-- A file is removed, and its copy put in its place. -/
def replace (p : Path) : Rollback Unit := do
  sh (.remove p)
  restoreWith .restore p

def restoreService : Rollback Unit := do
  let _ ← attempt .disable
  sh .removeService
  restoreWith .restoreService .helper
  restoreWith .restoreService .unit
  sh .daemonReload
  let enabled ← attempt .testEnabled
  Script.when (enabled.status = 0) (sh .enable)

def restoreConfig : Rollback Unit := do
  replace .options
  let managed ← attempt .testManaged
  Script.when (managed.status = 0) (replace .nouveauPolicy)

end Rollback

open Rollback in
/-- `rollback.sh` -/
def rollback (backupDir : String) : Rollback Unit := do
  checkBackup backupDir
  let release ← readRelease
  sh .createDisabled
  modules.forM (moveModule release)
  sh .restoreModules
  restoreService
  restoreConfig
  restoreWith .restore (.initrd release)
  sh (.depmod release)
  sh (.report ("PASS_CMP50_ROLLBACK: reboot into " ++ String.ofList release))

/-! ## What the commands do -/

section
variable (h : Host) (running : Release) (b : Backup)

/-- A test. -/
def tested (holds : Bool) (d : Disk) : Done Signal Unit × Disk := (⟨if holds then 0 else 1, (), none⟩, d)

/-- A command that succeeds. -/
def succeeds (d : Disk) : Done Signal Unit × Disk := (⟨0, (), none⟩, d)

/-- `cp -a "${backup_dir}/modules/." /` gives `/` the mode of `modules`, and does not put a directory in the place of a
symbolic link. -/
def restoreModules (d : Disk) : Done Signal Unit × Disk :=
  if h.libLink && b.hasModule then (⟨1, (), none⟩, { d with rootMode := b.modulesMode })
  else succeeds { d with
    rootMode := b.modulesMode
    files := fun p => if p.isLib then (b.file p).orElse fun _ => d.files p else d.files p }

/-- The answer to a command of the rollback, and the disk after it. -/
def respond : (o : RollbackOp) → Disk → Done Signal o.Out × Disk
  | .testRoot, d => tested true d
  | .testBackup, d => tested true d
  | .readRelease, d => (⟨if b.uname.isSome then 0 else 2, genericRelease (b.uname.getD []), none⟩, d)
  | .uname, d => (⟨0, running, none⟩, d)
  | .test p, d => tested (d.files p).isSome d
  | .moveAway p, d => succeeds (d.set p none)
  | .restoreModules, d => restoreModules h b d
  | .disable, d => (⟨if d.hasUnit h then 0 else 1, (), none⟩, { d with wanted := false })
  | .removeService, d => succeeds ((d.set .helper none).set .unit none)
  | .testCopy p, d => tested (b.file p).isSome d
  | .restoreService p, d => succeeds (d.set p (b.file p))
  | .testEnabled, d => tested b.enabled d
  | .enable, d => if d.hasUnit h then succeeds { d with wanted := true } else tested false d
  | .remove p, d => succeeds (d.set p none)
  | .restore p, d => succeeds (d.set p (b.file p))
  | .testManaged, d => tested b.managed d
  | .depmod release, d => succeeds (d.indexed h release)
  | .error _, d | .createDisabled, d | .daemonReload, d | .report _, d => succeeds d

/-- The files that a command of the rollback writes or removes. -/
def RollbackOp.Targets : RollbackOp → Path → Prop
  | .moveAway p, q | .remove p, q | .restore p, q | .restoreService p, q => q = p
  | .restoreModules, q => q.isLib ∧ b.file q ≠ none
  | .removeService, q => q = .helper ∨ q = .unit
  | .depmod release, q => q.isIndex release
  | _, _ => False

/-- A command that succeeds; or one that fails or is interrupted, and leaves what it writes in any state. -/
def TryStep (o : RollbackOp) (d : Disk) (done : Done Signal o.Out) (d' : Disk) : Prop :=
  (done = (respond h running b o d).1 ∧ d' = (respond h running b o d).2) ∨
    (done.status ≠ 0 ∨ done.signal ≠ none) ∧ ∀ p, ¬o.Targets b p → d'.files p = d.files p

/-- A rollback that may be interrupted. -/
def Tries (backupDir : String) (d : Disk) (r : Except Nat Unit) (d' : Disk) : Prop :=
  (rollback backupDir).run.Exec (TryStep h running b) d r d'

/-- A rollback to a backup: how it ends, and the disk after it. -/
def rollBack (backupDir : String) (d : Disk) : Except Nat Unit × Disk :=
  (rollback backupDir).run.interp (respond h running b) d

end

end Cmp50Unlock.Install
