import Cmp50Unlock.Install.All.World
import Cmp50Unlock.Install.Lemmas.Success

/-!
# What is asked of the installer of everything
-/

namespace Cmp50Unlock.Install.All

open Lib
open Scripts (secondPassKernels Qualifies)

variable (h : Host)

/-! ## The checks -/

/-- The loader selects this version of the library. -/
def Host.Selects (library expected : String) : Prop :=
  ∃ path, ((Check.candidates library h.listing.toList).find? h.regular).bind h.resolved = some path ∧
    Check.basename path = (library ++ ".so." ++ expected).toList

/-- The userspace of this version is there. -/
structure Host.Userspace (expected : String) : Prop where
  version : Check.isVersion expected.toList
  tools : ∀ tool ∈ ["nvidia-smi", "nvidia-modprobe"], h.install.tools tool
  libraries : ∀ library ∈ Check.libraries, h.Selects library expected

/-- A host on which these options may be installed. -/
structure Ready (o : Options) : Prop where
  allowGen2 : o.allowGen2
  root : h.install.root
  kernel : String.ofList h.install.release ∈ secondPassKernels
  dataDir : o.dataDir.head? = some '/' ∧ Install.Check.dataDirAllowed o.dataDir
  machine : h.install.machine = "x86_64"
  flock : h.install.tools "flock"
  cards : ∃ inventory, h.governor.lspci = some inventory ∧ Qualifies h.governor.sysfs inventory
  verified : h.governor.verified
  executes : h.governor.executes

/-- The options were given. -/
structure Asked (args : List String) (o : Options) : Prop where
  dataDir : o.dataDir ≠ defaultOptions.dataDir → "--ai-manager-data-dir" ∈ args ∧ String.ofList o.dataDir ∈ args
  allowGen2 : o.allowGen2 → "--allow-experimental-gen2" ∈ args
  installDeps : o.installDeps → "--install-deps" ∈ args

/-! ## The packages -/

/-- The disk that the installers find. -/
structure Prepared (deps : Prop) (disk disk' : Disk) : Prop where
  changed : disk.ChangedIn (fun p => isPackaged p) disk'
  same : ¬deps → disk' = disk

/-! ## The installers -/

/-- The options of `install.sh`. -/
def driverOptions (userspace : Bool) : Install.Options where
  stage := "gen2"
  installUserland := !userspace
  rebuildInitramfs := true
  enableIdleGovernor := false
  disableNouveau := true
  allowGen2 := true
  dataDir := Install.defaultOptions.dataDir

/-- The options of `install-governor.sh`. -/
def governorOptions (o : Options) : Governor.Options := ⟨o.dataDir, false⟩

/-- The driver is installed, with the userspace if it was not there. -/
def DriverInstalled (disk : Disk) (driver : Install.World) : Prop :=
  ∃ userspace, (userspace = true ↔ h.Userspace driverVersion) ∧ Install.Ready h.install (driverOptions userspace) ∧
    Install.Installed h.install (driverOptions userspace) disk driver

/-- Neither of the installers has changed anything. -/
def Untouched (disk : Disk) (artifacts : Module → Option (List UInt8)) (governor : Governor.World)
    (w' : World) : Prop :=
  w'.driver = .start disk artifacts ∧ Governor.Unchanged governor w'.governor

/-- What a run keeps that has passed the checks. The governor is touched only once the driver is installed. -/
structure Safe (o : Options) (disk : Disk) (governor : Governor.World) (w' : World) : Prop where
  driver : Install.Safe h.install (¬h.Userspace driverVersion) disk w'.driver
  governor : Governor.Unchanged governor w'.governor ∨ DriverInstalled h disk w'.driver ∧
    ∃ profile, Governor.Ready h.governor (governorOptions o) profile ∧
      Governor.Safe h.governor (governorOptions o) profile governor w'.governor

/-- What a run that succeeds has established. -/
structure Staged (o : Options) (disk : Disk) (governor : Governor.World) (w' : World) : Prop where
  driver : DriverInstalled h disk w'.driver
  governor : ∃ profile, Governor.Ready h.governor (governorOptions o) profile ∧
    Governor.Safe h.governor (governorOptions o) profile governor w'.governor ∧
    Governor.Installed h.governor (governorOptions o) profile governor w'.governor

end Cmp50Unlock.Install.All
