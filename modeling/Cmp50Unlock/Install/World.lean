import Cmp50Unlock.Install.Script

/-!
# What the commands of the installer do

A test tells the truth unless a signal interrupts it. A command that succeeds has its documented effect; one that fails
may leave what it writes in any state, and nothing else.
-/

namespace Cmp50Unlock.Install

open Lib
open Scripts (Signal)

structure World where
  disk : Disk
  backup : Backup
  /-- the modules in the directory of artifacts -/
  artifacts : Module → Option (List UInt8)

variable (h : Host)

/-! ## Checks -/

/-- The answers to the checks. -/
def Host.Says : (o : CheckOp) → Done Signal o.Out → Prop
  | .commandV tool, d => d.status = 0 ↔ h.tools tool
  | .testRoot, d => d.status = 0 ↔ h.root
  | .testRepoFile path, d => d.status = 0 ↔ (h.repo path).isSome
  | .testHeaders, d => d.status = 0 ↔ h.headers
  | .unameM, d => d.out = h.machine
  | .listDevices, d => d.out = h.devices
  | .testSubsystem bdf, d => d.status = 0 ↔ (h.subsystem bdf).isSome
  | .readSubvendor bdf, d => d.status = 0 → (h.subsystem bdf).map Prod.fst = some d.out
  | .readSubdevice bdf, d => d.status = 0 → (h.subsystem bdf).map Prod.snd = some d.out
  | .testNouveau bdf, d => d.status = 0 ↔ h.nouveau bdf
  | .mokutil, d => d.status = 0 ↔ h.secureBoot
  | _, _ => True

/-- A check changes nothing. -/
def CheckStep (o : CheckOp) (w : World) (d : Done Signal o.Out) (w' : World) : Prop :=
  (d.signal = none → h.Says o d) ∧ w' = w

/-! ## Backup -/

/-- The answers while the backup is made. -/
def Disk.Tells (disk : Disk) : (o : BackupOp) → Done Signal o.Out → Prop
  | .modinfo m, d => d.out = disk.selected m
  | .test p, d => d.status = 0 ↔ (disk.files p).isSome
  | .isEnabled, d => d.status = 0 ↔ disk.isEnabled h
  | _, _ => True

/-- A command that succeeds. -/
def Backup.after (b : Backup) (disk : Disk) : BackupOp → Backup
  | .create => .created
  | .copy p => { b with copies := (disk.files p).toList.map (fun file => (p, file)) ++ b.copies }
  | .markEnabled => { b with enabled := true }
  | .saveUname => { b with uname := some h.uname.text }
  | .announce _ => { b with complete := true }
  | .markManaged => { b with managed := true }
  | _ => b

/-- A command that fails. -/
def Backup.Fails (b : Backup) : BackupOp → Backup → Prop
  | .create, b' | .copy _, b' | .saveUname, b' | .markEnabled, b' => b'.complete = b.complete
  | .markManaged, b' => ∃ managed, b' = { b with managed := managed }
  | _, b' => b' = b

def BackupStep (o : BackupOp) (w : World) (d : Done Signal o.Out) (w' : World) : Prop :=
  (d.signal = none → w.disk.Tells h o d) ∧ ∃ b, w' = { w with backup := b } ∧
    (d.status = 0 → b = w.backup.after h w.disk o) ∧ (d.status ≠ 0 → w.backup.Fails o b)

/-! ## The userspace -/

/-- Before it sets up its own files, the installer of the userspace removes those that an earlier run of it has
installed, modules too. -/
def UserlandStep (o : UserlandOp) (w : World) (_ : Done Signal Unit) (w' : World) : Prop :=
  ∃ disk, w' = { w with disk := disk } ∧ w.disk.ChangedIn (fun p => p.isLib) disk ∧ (o ≠ .runInstaller → disk = w.disk)

/-! ## Changes -/

/-- The files that a command writes or removes. -/
def ChangeOp.Targets : ChangeOp → Path → Prop
  | .installModule m, p => p = updates h.release m
  | .installOptions, p | .writeOptions, p | .removeOptions, p => p = .options
  | .installHelper, p => p = .helper
  | .installUnit, p => p = .unit
  | .removeService, p => p = .helper ∨ p = .unit
  | .updateInitramfs, p => p = .initrd h.release
  | .depmod, p => p.isIndex h.release
  | _, _ => False

/-- What a command leaves alone, whether it succeeds or not. -/
structure World.Frame (w : World) (o : ChangeOp) (w' : World) : Prop where
  backup : w'.backup = w.backup
  files : ∀ p, ¬o.Targets h p → w'.disk.files p = w.disk.files p
  wanted : o ≠ .enable → o ≠ .disable → w'.disk.wanted = w.disk.wanted
  selected : o ≠ .depmod → w'.disk.selected = w.disk.selected
  rootMode : w'.disk.rootMode = w.disk.rootMode
  artifacts : o ≠ .build → w'.artifacts = w.artifacts

/-- The answers to the tests. -/
def World.Tells (w : World) : (o : ChangeOp) → Done Signal o.Out → Prop
  | .testArtifact m, d => d.status = 0 ↔ (w.artifacts m).isSome
  | .catUnit, d => d.status = 0 ↔ w.disk.hasUnit h
  | .selectedModule, d => d.out = w.disk.selected .nvidia
  | _, _ => True

/-- The line for `rebar`. -/
def rebarOptions : List UInt8 := "options nvidia cmp50_rebar_size=8\n".toUTF8.toList

/-- A file of the clone that `install -m` has put to a path. -/
def Disk.Has (disk : Disk) (p : Path) (content : Option (List UInt8)) (mode : Nat) : Prop :=
  ∃ bytes, content = some bytes ∧ disk.files p = some ⟨bytes, mode⟩

/-- A command that succeeds. The shell keeps the mode of a file that it writes. -/
def World.Changed (w : World) : ChangeOp → World → Prop
  | .installModule m, w' => w'.disk.Has (updates h.release m) (w.artifacts m) 0o644
  | .installOptions, w' => w'.disk.Has .options (h.repo "config/cmp50-gen2.conf") 0o644
  | .installHelper, w' => w'.disk.Has .helper (h.repo "scripts/cmp50-gen2-second-pass.sh") 0o755
  | .installUnit, w' => w'.disk.Has .unit (h.repo "systemd/cmp50-gen2-second-pass.service") 0o644
  | .writeOptions, w' => ∃ mode, w'.disk.files .options = some ⟨rebarOptions, mode⟩
  | .removeOptions, w' => w'.disk.files .options = none
  | .enable, w' => w'.disk.wanted = true
  | .disable, w' => w'.disk.wanted = false
  | .removeService, w' => w'.disk.files .helper = none ∧ w'.disk.files .unit = none
  | .depmod, w' => w'.disk = w.disk.indexed h h.release
  | _, _ => True

def ChangeStep (o : ChangeOp) (w : World) (d : Done Signal o.Out) (w' : World) : Prop :=
  (d.signal = none → w.Tells h o d) ∧ w.Frame h o w' ∧ (d.status = 0 → w.Changed h o w')

/-- `install -m 0644` of the policy on nouveau -/
def PolicyStep (w : World) (d : Done Signal Unit) (w' : World) : Prop :=
  (∃ file, w' = { w with disk := w.disk.set .nouveauPolicy file }) ∧
    (d.status = 0 → w'.disk.Has .nouveauPolicy (h.repo "config/cmp50-disable-nouveau.conf") 0o644)

/-- One command of the installer. -/
def InstallStep : (o : InstallOp) → World → Done Signal o.Out → World → Prop
  | .check o => CheckStep h o
  | .backUp o => BackupStep h o
  | .userland o => UserlandStep o
  | .change o => ChangeStep h o
  | .installPolicy => PolicyStep h

/-- The host before the script, with no backup yet. -/
def World.start (disk : Disk) (artifacts : Module → Option (List UInt8)) : World := ⟨disk, .created, artifacts⟩

/-- A run of the installer with these arguments ends in `w`. -/
def Installs (args : List String) (disk : Disk) (artifacts : Module → Option (List UInt8)) (r : Except Nat Options)
    (w : World) : Prop :=
  (install h.release args).run.Exec (InstallStep h) (.start disk artifacts) r w

end Cmp50Unlock.Install
