import Cmp50Unlock.Install.Rollback

/-!
# What is asked of the installer and the rollback
-/

namespace Cmp50Unlock.Install

variable (h : Host)

/-! ## The checks -/

/-- A host on which these options may be installed. -/
structure Ready (o : Options) : Prop where
  stage : o.stage ∈ stages
  policy : o.disableNouveau → o.rebuildInitramfs
  gen2 : o.stage = "gen2" → o.allowGen2 ∧ String.ofList h.release ∈ Scripts.secondPassKernels ∧
    ∀ tool ∈ Check.gen2Tools, h.tools tool
  root : h.root
  dataDir : o.dataDir.head? = some '/' ∧ Check.dataDirAllowed o.dataDir
  headers : h.headers
  devices : h.devices ≠ []
  supported : ∀ bdf ∈ h.devices, ∃ vendor device, h.subsystem bdf = some (vendor, device) ∧
    Scripts.dropHex vendor.toList ++ ':' :: Scripts.dropHex device.toList ∈ Scripts.secondPassSubsystems
  driver : ∀ bdf ∈ h.devices, h.nouveau bdf → o.disableNouveau
  secureBoot : h.secureBoot = false

/-- The options were given. -/
structure Asked (args : List String) (o : Options) : Prop where
  installUserland : o.installUserland → "--install-userland" ∈ args
  rebuildInitramfs : o.rebuildInitramfs → "--initramfs" ∈ args
  enableIdleGovernor : o.enableIdleGovernor → "--idle-governor" ∈ args
  disableNouveau : o.disableNouveau → "--disable-nouveau" ∈ args
  allowGen2 : o.allowGen2 → "--allow-experimental-gen2" ∈ args
  stage : o.stage ≠ defaultOptions.stage → "--stage" ∈ args ∧ o.stage ∈ args
  dataDir : o.dataDir ≠ defaultOptions.dataDir → "--ai-manager-data-dir" ∈ args ∧ String.ofList o.dataDir ∈ args

/-! ## The backup -/

/-- The files that are backed up. -/
def Copied (d : Disk) (p : Path) : Prop :=
  p ∈ Back.backedUp h.release ∨ ∃ m names, d.selected m = some names ∧ p = .lib names

/-- The backup of a disk. -/
structure Saved (d : Disk) (b : Backup) : Prop where
  copied : ∀ p, Copied h d p → b.file p = d.files p
  others : ∀ p, ¬Copied h d p → b.file p = none
  enabled : b.enabled = d.isEnabled h
  uname : b.uname = some h.uname.text
  modulesMode : b.modulesMode = 0o700

/-! ## The changes -/

/-- The files that an installation manages. -/
def Managed (managed : Bool) : Path → Prop
  | .lib names => ∃ m, names = updatesNames h.release m
  | .options | .helper | .unit => True
  | .nouveauPolicy => managed = true
  | .initrd release => release = h.release

/-- The files that other programs change during an installation: `depmod`, and the installer of the userspace if it is
run. -/
def Foreign (userland : Prop) (p : Path) : Prop := p.isIndex h.release ∨ userland ∧ p.isLib

/-- Nothing else is changed. -/
def Touched (managed : Bool) (userland : Prop) (d d' : Disk) : Prop :=
  ∀ p, ¬Managed h managed p → ¬Foreign h userland p → d'.files p = d.files p

/-- The files that an installation writes or removes. -/
def Written (o : Options) (artifacts : Module → Option (List UInt8)) : Path → Prop
  | .lib names => (∃ m, names = updatesNames h.release m ∧ artifacts m ≠ none) ∨
      Foreign h o.installUserland (.lib names)
  | .options | .helper | .unit => True
  | .nouveauPolicy => o.disableNouveau
  | .initrd release => o.rebuildInitramfs ∧ release = h.release

/-- What an installation has established. -/
structure Installed (o : Options) (d : Disk) (w : World) : Prop where
  modules : ∀ m content, w.artifacts m = some content → w.disk.files (updates h.release m) = some ⟨content, 0o644⟩
  selected : w.disk.selected .nvidia = some (updatesNames h.release .nvidia)
  gen2 : o.stage = "gen2" → w.disk.Has .options (h.repo "config/cmp50-gen2.conf") 0o644 ∧
    w.disk.Has .helper (h.repo "scripts/cmp50-gen2-second-pass.sh") 0o755 ∧
    w.disk.Has .unit (h.repo "systemd/cmp50-gen2-second-pass.service") 0o644 ∧ w.disk.isEnabled h
  rebar : o.stage = "rebar" → ∃ mode, w.disk.files .options = some ⟨rebarOptions, mode⟩
  plain : o.stage ≠ "gen2" → o.stage ≠ "rebar" → w.disk.files .options = none
  removed : o.stage ≠ "gen2" → d.hasUnit h → w.disk.files .helper = none ∧ w.disk.files .unit = none
  unserved : o.stage ≠ "gen2" → d.hasUnit h = false →
    w.disk.files .helper = d.files .helper ∧ w.disk.files .unit = none ∧ w.disk.wanted = d.wanted
  policy : o.disableNouveau → w.disk.Has .nouveauPolicy (h.repo "config/cmp50-disable-nouveau.conf") 0o644
  others : ∀ p, ¬Written h o w.artifacts p → w.disk.files p = d.files p

/-! ## The rollback -/

/-- The files that a rollback removes or puts back. -/
def PutBack (b : Backup) (p : Path) : Prop := Managed h b.managed p ∨ p.isLib ∧ b.file p ≠ none

/-- Nothing else has changed since the backup, but for what other programs change. -/
def Covered (b : Backup) (userland : Prop) (d d' : Disk) : Prop :=
  ∀ p, ¬PutBack h b p → ¬Foreign h userland p → d'.files p = d.files p

/-- The files that a rollback is to bring back: all but the index, and but what the installer of the userspace has
changed without a copy. -/
def Kept (b : Backup) (userland : Prop) (p : Path) : Prop :=
  p.isIndex h.release = false ∧ (userland → p.isLib → PutBack h b p)

/-- What the scripts rely on: `modinfo` selects each module that is to be replaced, the rollback finds the release, and
`cp` can write to `/lib`. -/
structure Recoverable (running : Release) (d : Disk) : Prop where
  selected : ∀ m, d.files (updates h.release m) ≠ none → ∃ m', d.selected m' = some (updatesNames h.release m)
  release : rollbackRelease h.uname.text running = h.release
  lib : h.libLink → ∀ m names, d.selected m = some names → d.files (.lib names) = none

/-- The file is as it was, but for an initrd where there was none. -/
def Restored (d d' : Disk) (p : Path) : Prop := (p = .initrd h.release → d.files p ≠ none) → d'.files p = d.files p

/-- The changes of an installation are undone. -/
structure Undone (d d' : Disk) : Prop where
  modules : ∀ m, d'.files (updates h.release m) = d.files (updates h.release m)
  options : d'.files .options = d.files .options
  policy : d'.files .nouveauPolicy = d.files .nouveauPolicy
  helper : d'.files .helper = d.files .helper
  unit : d'.files .unit = d.files .unit
  enabled : d'.isEnabled h = d.isEnabled h
  initrd : d.files (.initrd h.release) ≠ none → d'.files (.initrd h.release) = d.files (.initrd h.release)

/-- A server with its backups, each with the disk that it was made of. -/
structure Server where
  disk : Disk
  backups : List (Disk × Backup)

/-- Any number of installations, each with any end, and of rollbacks to any of the backups, under any kernel for which
the release is found. The userspace is installed only if `userland` holds. -/
inductive Server.Reaches (userland : Prop) : Server → Server → Prop
  | start (s : Server) : Reaches userland s s
  | install {s s' : Server} {args : List String} {artifacts : Module → Option (List UInt8)} {r : Except Nat Options}
      {w : World} (hs : Reaches userland s s') (huserland : "--install-userland" ∈ args → userland)
      (hrun : Installs h args s'.disk artifacts r w) :
      Reaches userland s ⟨w.disk, if w.backup.complete then (s'.disk, w.backup) :: s'.backups else s'.backups⟩
  | rollBack {s s' : Server} {made : Disk × Backup} {running : Release} {backupDir : String}
      (hs : Reaches userland s s')
      (hmade : made ∈ s'.backups) (hdir : Back.backupsDir.toList <+: backupDir.toList)
      (hrelease : rollbackRelease h.uname.text running = h.release) :
      Reaches userland s ⟨(rollBack h running made.2 backupDir s'.disk).2, s'.backups⟩

/-- Any number of rollbacks to one backup, each with any end. -/
inductive Tried (b : Backup) (d : Disk) : Disk → Prop
  | start : Tried b d d
  | again {d' d'' : Disk} {running : Release} {backupDir : String} {r : Except Nat Unit} (hd' : Tried b d d')
      (hrelease : rollbackRelease h.uname.text running = h.release) (hrun : Tries h running b backupDir d' r d'') :
      Tried b d d''

end Cmp50Unlock.Install
