import Cmp50Unlock.Install.Governor.Script
import Cmp50Unlock.Lib.Trace

/-!
# What the commands of the governor's installer do

Requests in `control.json` are written by the panel as well, at any time; their history is kept. All other files are
changed by the installer alone. A command that fails may leave what it writes in any state.
-/

namespace Cmp50Unlock.Install.Governor

open Lib
open Scripts (Signal Sysfs governorProfile isIfs)

/-! ## Hosts -/

/-- A user and a group. -/
abbrev Owner := Nat × Nat

def rootOwner : Owner := (0, 0)

/-- What does not change while the script runs. -/
structure Host where
  root : Bool
  /-- `uname -m` -/
  machine : String
  /-- the commands that are found -/
  tools : String → Bool
  /-- the output of `lspci -Dn`, if it succeeds -/
  lspci : Option String
  sysfs : Sysfs
  /-- the governor of the clone, if it is executable -/
  binary : Option (List UInt8)
  /-- the checksums of the clone agree -/
  verified : Bool
  /-- the governor runs on this host -/
  executes : Bool
  /-- the unit of the clone -/
  unit : List UInt8
  /-- what `nvidia-smi` prints of the version of the driver, if it succeeds -/
  driver : Option String
  /-- a configuration target below a data directory, or the environment, is a symbolic link -/
  linked : List Char → Bool
  /-- the owner of a data directory -/
  dataOwner : List Char → Owner
  /-- systemd has the unit of the earlier version from another directory -/
  vendorLegacy : Bool

variable (h : Host)

/-- `awk 'NF { if ($0 != version) exit 1; n++ } END { if (!n) exit 1 }'` -/
def allVersions (version output : List Char) : Bool :=
  let records := (output.splitOn '\n').filter fun line => line.any fun c => !isIfs c
  !records.isEmpty && records.all (· == version)

/-- The driver works, in the version that `--start-now` asks for. -/
def Host.driverReady : Bool :=
  match h.driver with
  | none => false
  | some output => allVersions driverVersion.toList output.toList

/-! ## States -/

/-- A file with its owner. -/
structure Owned where
  content : String
  mode : Nat
  owner : Owner
  deriving DecidableEq

/-- The parties that write requests. -/
inductive Author where
  | installer
  | panel
  deriving DecidableEq

/-- A change of `control.json`. -/
structure Request where
  author : Author
  file : Option Owned

/-- `/etc/default/cmp-idle-governor`, line by line. -/
structure Environment where
  lines : List (List Char)
  mode : Nat
  deriving DecidableEq

/-- The commands with their ends, the newest first. -/
abbrev Log := List (Script.Event InstallOp Signal InstallOp.Out)

structure World where
  /-- the owner of the control directory -/
  directory : Option Owner
  /-- the changes of `control.json`, the newest first -/
  requests : List Request
  temp : Option Owned
  environment : Option Environment
  /-- `/usr/local/sbin/cmp-idle-governor` -/
  binary : Option File
  /-- `/etc/systemd/system/cmp-idle-governor.service` -/
  unit : Option File
  /-- the unit of the earlier version -/
  legacy : Bool
  /-- the link that `systemctl enable` makes -/
  enabled : Bool
  log : Log

/-- What `control.json` holds after some changes. -/
def current (requests : List Request) : Option Owned := requests.head?.bind Request.file

/-! ## Checks -/

/-- The answers to the checks. -/
def Host.Says : (o : CheckOp) → Done Signal o.Out → Prop
  | .testRoot, d => d.status = 0 ↔ h.root
  | .unameM, d => d.out = h.machine
  | .commandV tool, d => d.status = 0 ↔ h.tools tool
  | .governorProfile, d =>
      d.status = (governorProfile h.lspci h.sysfs).status ∧ d.out = (governorProfile h.lspci h.sysfs).stdout
  | .testBinary, d => d.status = 0 ↔ h.binary.isSome
  | .verifyBundle, d => d.status = 0 → h.verified
  | .binaryVersion, d => d.status = 0 → h.executes
  | .queryDriver, d => d.status = 0 ↔ h.driverReady
  | .testLinks dataDir, d => d.status = 0 ↔ h.linked dataDir = false
  | _, _ => True

/-! ## The request -/

/-- The link is made, which it is only where there is no file. -/
def World.Links (w w' : World) : Prop :=
  current w.requests = none ∧ w' = { w with requests := ⟨.installer, w.temp⟩ :: w.requests }

/-- A command that succeeds. -/
def World.Controlled (w : World) : ControlOp → World → Prop
  | .createDir, w' => w' = { w with directory := some (w.directory.getD rootOwner) }
  | .testControl, w' => w' = w
  | .mktemp, w' => w' = { w with temp := some ⟨"", 0o600, rootOwner⟩ }
  | .writeTemp document, w' => w' = { w with temp := w.temp.map fun file => { file with content := document } }
  | .chmodTemp, w' => w' = { w with temp := w.temp.map fun file => { file with mode := 0o644 } }
  | .chown dataDir, w' => w' = { w with
      directory := w.directory.map fun _ => h.dataOwner dataDir
      temp := w.temp.map fun file => { file with owner := h.dataOwner dataDir } }
  | .link, w' => w.Links w'
  | .removeTemp, w' => w' = { w with temp := none }

/-- A command that fails. -/
def World.NotControlled (w : World) : ControlOp → World → Prop
  | .createDir, w' => ∃ directory, w' = { w with directory := directory }
  | .testControl, w' => w' = w
  | .mktemp, w' | .writeTemp _, w' | .chmodTemp, w' | .removeTemp, w' => ∃ temp, w' = { w with temp := temp }
  | .chown _, w' => ∃ directory temp, w' = { w with directory := directory, temp := temp }
  | .link, w' => w' = w ∨ w.Links w'

def ControlStep (o : ControlOp) (w : World) (d : Done Signal Unit) (w' : World) : Prop :=
  (d.status = 0 → w.Controlled h o w') ∧ (d.status ≠ 0 → w.NotControlled o w') ∧
    (d.signal = none → o = .testControl → (d.status = 0 ↔ current w.requests = none))

/-! ## The environment -/

/-- The environment names the control directory. -/
def World.Names (w : World) (line : List Char) : Prop :=
  ∃ environment, w.environment = some environment ∧ line ∈ environment.lines

def World.Settled (w : World) : EnvironmentOp → World → Prop
  | .writeEnvironment line, w' => ∃ mode, w' = { w with environment := some ⟨[line], mode⟩ }
  | .chmodEnvironment, w' =>
      w' = { w with environment := w.environment.map fun environment => { environment with mode := 0o644 } }
  | _, w' => w' = w

def World.NotSettled (w : World) : EnvironmentOp → World → Prop
  | .writeEnvironment _, w' => ∃ environment, w' = { w with environment := environment }
  | .chmodEnvironment, w' =>
      ∃ mode, w' = { w with environment := w.environment.map fun environment => { environment with mode := mode } }
  | _, w' => w' = w

/-- The answers to the tests. -/
def World.SaysSettings (w : World) : EnvironmentOp → Done Signal Unit → Prop
  | .testEnvironment, d => d.status = 0 ↔ w.environment = none
  | .grepEnvironment line, d => d.status = 0 ↔ w.Names line
  | _, _ => True

def EnvironmentStep (o : EnvironmentOp) (w : World) (d : Done Signal Unit) (w' : World) : Prop :=
  (d.status = 0 → w.Settled o w') ∧ (d.status ≠ 0 → w.NotSettled o w') ∧ (d.signal = none → w.SaysSettings o d)

/-! ## The service -/

/-- A command that succeeds. Whether the governor is running is not part of the state: it may end at any time. -/
def World.Served (w : World) : ServiceOp → World → Prop
  | .installBinary, w' => ∃ content, h.binary = some content ∧ w' = { w with binary := some ⟨content, 0o755⟩ }
  | .installUnit, w' => w' = { w with unit := some ⟨h.unit, 0o644⟩ }
  | .removeLegacy, w' => w' = { w with legacy := false }
  | .enable, w' => w' = { w with enabled := true }
  | _, w' => w' = w

def World.NotServed (w : World) : ServiceOp → World → Prop
  | .installBinary, w' => ∃ binary, w' = { w with binary := binary }
  | .installUnit, w' => ∃ unit, w' = { w with unit := unit }
  | .removeLegacy, w' => ∃ legacy, w' = { w with legacy := legacy }
  | .enable, w' => ∃ enabled, w' = { w with enabled := enabled }
  | _, w' => w' = w

def ServiceStep (o : ServiceOp) (w : World) (d : Done Signal Unit) (w' : World) : Prop :=
  (d.status = 0 → w.Served h o w') ∧ (d.status ≠ 0 → w.NotServed o w') ∧
    (d.signal = none → o = .catLegacy → (d.status = 0 ↔ w.legacy ∨ h.vendorLegacy))

/-! ## Steps -/

/-- What a command does itself. -/
def World.Acts (w : World) : (o : InstallOp) → Done Signal o.Out → World → Prop
  | .check o, d, w' => (d.signal = none → h.Says o d) ∧ w' = w
  | .control o, d, w' => ControlStep h o w d w'
  | .environment o, d, w' => EnvironmentStep o w d w'
  | .service o, d, w' => ServiceStep h o w d w'

/-- What the panel has done. -/
def Written (requests requests' : List Request) : Prop :=
  ∃ entries, requests' = entries ++ requests ∧ ∀ entry ∈ entries, entry.author = .panel

/-- A command, after anything that the panel has done. -/
def InstallStep (o : InstallOp) (w : World) (d : Done Signal o.Out) (w' : World) : Prop :=
  ∃ requests w₁, Written w.requests requests ∧ World.Acts h { w with requests := requests } o d w₁ ∧
    w' = { w₁ with log := ⟨o, d⟩ :: w.log }

end Cmp50Unlock.Install.Governor
