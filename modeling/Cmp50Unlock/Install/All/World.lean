import Cmp50Unlock.Install.All.Script
import Cmp50Unlock.Install.Governor.Spec
import Cmp50Unlock.Install.Spec
import Cmp50Unlock.Lib.Loud

/-!
# What the commands of the installer of everything do

The two installers run as they do by themselves, and tell no more than their status. They work on different files. The
panel may write requests all the time.
-/

namespace Cmp50Unlock.Install.All

open Lib
open Scripts (Signal governorProfile)

/-! ## Hosts -/

/-- A server as the two installers see it, with the packages installed. -/
structure Host where
  install : Install.Host
  governor : Governor.Host
  /-- what `ldconfig -p` prints -/
  listing : String
  /-- the path is a file -/
  regular : List Char → Bool
  /-- `readlink -f` of a path, if it succeeds -/
  resolved : List Char → Option (List Char)

variable (h : Host)

/-- The answers to the checks. -/
def Host.Says : (o : CheckOp) → Done Signal o.Out → Prop
  | .testRoot, d => d.status = 0 ↔ h.install.root
  | .unameR, d => d.out = h.install.release
  | .unameM, d => d.out = h.install.machine
  | .commandV tool, d => d.status = 0 ↔ h.install.tools tool
  | .governorProfile, d => d.status = (governorProfile h.governor.lspci h.governor.sysfs).status
  | .verifyBundle, d => d.status = 0 → h.governor.verified
  | .binaryVersion, d => d.status = 0 → h.governor.executes
  | .ldconfig, d => d.out = h.listing
  | .testFile candidate, d => d.status = 0 ↔ h.regular candidate
  | .readlink candidate, d => h.resolved candidate = if d.status = 0 then some d.out else none
  | _, _ => True

/-! ## States -/

structure World where
  /-- the disk, with the backup of the last run of `install.sh` -/
  driver : Install.World
  governor : Governor.World

/-- The scripts of packages write modules with their index, and an initrd. -/
def isPackaged : Path → Bool
  | .lib _ | .initrd _ => true
  | _ => false

/-- What `apt-get` does to the disk. -/
def DepsOp.Acts (o : DepsOp) (disk disk' : Disk) : Prop :=
  disk.ChangedIn (fun p => isPackaged p) disk' ∧ ((∀ headers, o ≠ .aptInstall headers) → disk' = disk)

/-- Only the panel does something. -/
def World.Waits (w w' : World) : Prop :=
  ∃ requests, Governor.Written w.governor.requests requests ∧
    w' = { w with governor := { w.governor with requests := requests } }

def InstallStep : (o : InstallOp) → World → Done Signal o.Out → World → Prop
  | .check o, w, d, w' => (d.signal = none → h.Says o d) ∧ w.Waits w'
  | .deps o, w, _, w' => ∃ disk w₁, o.Acts w.driver.disk disk ∧ w.Waits w₁ ∧
      w' = { w₁ with driver := { w₁.driver with disk := disk } }
  | .install args, w, d, w' => ∃ r driver w₁, Installs h.install args w.driver.disk w.driver.artifacts r driver ∧
      d.status = statusOfEnd r ∧ w.Waits w₁ ∧ w' = { w₁ with driver := driver }
  | .installGovernor args, w, d, w' => ∃ r governor, Governor.Installs h.governor args w.governor r governor ∧
      d.status = statusOfEnd r ∧ w' = { w with governor := governor }
  | .log _, w, _, w' => w.Waits w'

/-- A run of `install-all.sh` with these arguments ends in `w'`. -/
def Stages (args : List String) (disk : Disk) (artifacts : Module → Option (List UInt8)) (governor : Governor.World)
    (r : Except Nat Options) (w' : World) : Prop :=
  (installAll args).run.Exec (InstallStep h) ⟨.start disk artifacts, governor.begin⟩ r w'

end Cmp50Unlock.Install.All
