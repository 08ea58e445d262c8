import Cmp50Unlock.Scripts.SecondPass

/-!
# What the installer manages

The files that `install.sh` writes and `rollback.sh` restores and the modules of the kernels, the link of the Gen2
service, and a backup. All of these files are regular files where they exist. What the commands write elsewhere is not
followed.
-/

namespace Cmp50Unlock.Install

/-! ## Files -/

/-- The modules of the driver. -/
inductive Module where
  | nvidia
  | nvidiaUvm
  | nvidiaModeset
  | nvidiaDrm
  | nvidiaPeermem
  deriving DecidableEq

/-- The order of both scripts. -/
def modules : List Module := [.nvidia, .nvidiaUvm, .nvidiaModeset, .nvidiaDrm, .nvidiaPeermem]

/-- The name of the file. -/
def Module.file : Module → List Char
  | .nvidia => "nvidia.ko".toList
  | .nvidiaUvm => "nvidia-uvm.ko".toList
  | .nvidiaModeset => "nvidia-modeset.ko".toList
  | .nvidiaDrm => "nvidia-drm.ko".toList
  | .nvidiaPeermem => "nvidia-peermem.ko".toList

theorem mem_modules (m : Module) : m ∈ modules := by cases m <;> simp [modules]

/-- A release of the kernel. -/
abbrev Release := List Char

/-- The files that are followed. -/
inductive Path where
  /-- a file below `/lib/modules`, by the names on its path -/
  | lib (names : List (List Char))
  /-- `/etc/modprobe.d/cmp50-unlock.conf` -/
  | options
  /-- `/etc/modprobe.d/cmp50-disable-nouveau.conf` -/
  | nouveauPolicy
  /-- `/usr/local/sbin/cmp50-gen2-second-pass` -/
  | helper
  /-- `/etc/systemd/system/cmp50-gen2-second-pass.service` -/
  | unit
  /-- `/boot/initrd.img-...` of a kernel -/
  | initrd (release : Release)
  deriving DecidableEq

/-- The names on the path of a module in `${install_dir}`. -/
def updatesNames (release : Release) (m : Module) : List (List Char) := [release, "updates".toList, m.file]

/-- `${install_dir}/${module}.ko` -/
def updates (release : Release) (m : Module) : Path := .lib (updatesNames release m)

theorem updates_inj {release : Release} {m m' : Module} : updates release m = updates release m' ↔ m = m' := by
  constructor
  · intro h
    simp only [updates, updatesNames, Path.lib.injEq, List.cons.injEq, true_and, and_true] at h
    cases m <;> cases m' <;> first | rfl | exact absurd h (by decide)
  · rintro rfl
    rfl

/-- A file below `/lib`. -/
def Path.isLib : Path → Bool
  | .lib _ => true
  | _ => false

/-- A file that `depmod -a` writes, such as `modules.dep`. -/
def Path.isIndex (release : Release) : Path → Bool
  | .lib [directory, name] => directory == release && "modules.".toList.isPrefixOf name
  | _ => false

section
variable {release release' : Release}

end

structure File where
  content : List UInt8
  mode : Nat
  deriving DecidableEq

/-! ## States -/

@[ext]
structure Disk where
  files : Path → Option File
  /-- the link that `systemctl enable` makes -/
  wanted : Bool
  /-- what `modinfo -n` says of a module for the running kernel -/
  selected : Module → Option (List (List Char))
  /-- the mode of `/` -/
  rootMode : Nat

/-- A directory below `/var/lib/cmp50-unlock/backups`. -/
structure Backup where
  /-- the copies, modules below `modules` -/
  copies : List (Path × File)
  /-- `cmp50-gen2-second-pass.enabled` -/
  enabled : Bool
  /-- `nouveau-policy-managed` -/
  managed : Bool
  /-- `uname.txt` -/
  uname : Option (List Char)
  /-- the mode of `modules` -/
  modulesMode : Nat
  /-- the script has announced the backup -/
  complete : Bool

/-- The copy of a file. -/
def Backup.file (b : Backup) (p : Path) : Option File := b.copies.lookup p

/-- Something is below `modules`. -/
def Backup.hasModule (b : Backup) : Bool := b.copies.any fun copy => copy.1.isLib

/-- `install -d -m 0700` -/
def Backup.created : Backup where
  copies := []
  enabled := false
  managed := false
  uname := none
  modulesMode := 0o700
  complete := false

/-- The files of a disk with another one at a path. -/
def Disk.set (d : Disk) (p : Path) (file : Option File) : Disk :=
  { d with files := fun p' => if p' = p then file else d.files p' }

section
variable {d : Disk} {p p' : Path} {file : Option File}

@[simp] theorem files_set_same : (d.set p file).files p = file := if_pos rfl

theorem files_set_ne (h : p' ≠ p) : (d.set p file).files p' = d.files p' := if_neg h

@[simp] theorem wanted_set : (d.set p file).wanted = d.wanted := rfl

@[simp] theorem rootMode_set : (d.set p file).rootMode = d.rootMode := rfl

end

/-- Only such files have changed, and what `modinfo` makes of them. -/
structure Disk.ChangedIn (S : Path → Prop) (d d' : Disk) : Prop where
  files : ∀ p, ¬S p → d'.files p = d.files p
  wanted : d'.wanted = d.wanted
  rootMode : d'.rootMode = d.rootMode

section
variable {S : Path → Prop} {d d' d'' : Disk}

theorem Disk.ChangedIn.refl : d.ChangedIn S d := ⟨fun _ _ => rfl, rfl, rfl⟩

theorem Disk.ChangedIn.trans (hd : d.ChangedIn S d') (hd' : d'.ChangedIn S d'') : d.ChangedIn S d'' where
  files := fun p hp => (hd'.files p hp).trans (hd.files p hp)
  wanted := hd'.wanted.trans hd.wanted
  rootMode := hd'.rootMode.trans hd.rootMode

end

/-! ## Hosts -/

/-- What `uname -a` prints, word by word. -/
structure Uname where
  sysname : List Char
  nodename : List Char
  release : Release
  /-- the version, the machine and the operating system -/
  rest : List (List Char)

/-- `uname -a` -/
def Uname.text (u : Uname) : List Char := [' '].intercalate (u.sysname :: u.nodename :: u.release :: u.rest) ++ ['\n']

/-- What does not change while the scripts run. -/
structure Host where
  uname : Uname
  /-- `/lib` is a symbolic link -/
  libLink : Bool
  /-- systemd has a unit of the name from another directory -/
  vendorUnit : Bool
  root : Bool
  /-- the commands that are found -/
  tools : String → Bool
  /-- the files of the clone -/
  repo : String → Option (List UInt8)
  headers : Bool
  /-- `uname -m` -/
  machine : String
  /-- the addresses of the CMP 50HX cards -/
  devices : List String
  /-- `subsystem_vendor` and `subsystem_device` of a card, if they can be read -/
  subsystem : String → Option (String × String)
  /-- nouveau is the driver of the card -/
  nouveau : String → Bool
  /-- `mokutil` says that Secure Boot is enabled -/
  secureBoot : Bool
  /-- what `modinfo -n` says after `depmod` -/
  index : (Path → Option File) → Module → Option (List (List Char))
  /-- the files that `depmod -a` writes for a release -/
  indexFiles : Release → (Path → Option File) → Path → Option File

variable (h : Host)

/-- `${kernel_release}` of the installer -/
abbrev Host.release : Release := h.uname.release

/-- systemd finds the unit. -/
def Disk.hasUnit (d : Disk) : Bool := (d.files .unit).isSome || h.vendorUnit

/-- `systemctl is-enabled` -/
def Disk.isEnabled (d : Disk) : Bool := d.wanted && d.hasUnit h

/-- `depmod -a` for a release -/
def Disk.indexed (d : Disk) (release : Release) : Disk :=
  { d with
    files := fun p => if p.isIndex release then h.indexFiles release d.files p else d.files p
    selected := if release = h.release then h.index d.files else d.selected }

variable {h} in
theorem files_indexed {d : Disk} {release : Release} {p : Path} (hp : ¬p.isIndex release = true) :
    (d.indexed h release).files p = d.files p := if_neg hp

end Cmp50Unlock.Install
