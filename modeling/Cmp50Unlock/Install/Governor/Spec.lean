import Cmp50Unlock.Install.Governor.World
import Cmp50Unlock.Scripts.Lemmas.GovernorProfile

/-!
# What is asked of the governor's installer
-/

namespace Cmp50Unlock.Install.Governor

open Lib
open Scripts (Signal Qualifies displays profileName controlDocument)

variable (h : Host)

/-! ## The checks -/

/-- A host on which these options and this profile may be installed. -/
structure Ready (o : Options) (profile : List Char) : Prop where
  root : h.root
  machine : h.machine = "x86_64"
  dataDir : o.dataDir.head? = some '/' ∧ Install.Check.dataDirAllowed o.dataDir
  tools : ∀ tool ∈ Check.requiredTools, h.tools tool
  cards : ∃ inventory, h.lspci = some inventory ∧ Qualifies h.sysfs inventory ∧
    profile = (profileName (displays inventory).length).toList
  binary : h.binary.isSome
  verified : h.verified
  executes : h.executes
  driver : o.startNow → h.driverReady
  links : h.linked o.dataDir = false

/-- The options were given. -/
structure Asked (args : List String) (o : Options) : Prop where
  dataDir : o.dataDir ≠ defaultOptions.dataDir → "--ai-manager-data-dir" ∈ args ∧ String.ofList o.dataDir ∈ args
  startNow : o.startNow → "--start-now" ∈ args

/-! ## The request -/

/-- The complete request, which the owner of the data directory may edit. -/
def requestFile (o : Options) (profile : List Char) : Owned := ⟨controlDocument profile, 0o644, h.dataOwner o.dataDir⟩

/-- The installer has added one file, where there was none; all other changes are the panel's. -/
def Placed (file : Owned) (requests requests' : List Request) : Prop :=
  ∃ earlier, Written requests earlier ∧ current earlier = none ∧ Written (⟨.installer, some file⟩ :: earlier) requests'

/-! ## The service -/

/-- A command has ended so. -/
def Ran (log : Log) (o : ServiceOp) (P : Done Signal Unit → Prop) : Prop :=
  ∃ d : Done Signal Unit, P d ∧ ⟨.service o, d⟩ ∈ log

/-- The governor has been found not running, or has been stopped. -/
def Down (log : Log) : Prop :=
  Ran log .isActive (fun d => d.status ≠ 0) ∨ Ran log .stop fun d => d.status = 0

/-- What has to come before a command: the governor is stopped only where it is running, its file is replaced only where
it is not, and it is started only if it has been stopped, or if that was asked for. -/
def Guarded (startNow : Bool) (earlier : Log) : InstallOp → Prop
  | .service .stop => Ran earlier .isActive fun d => d.status = 0
  | .service .installBinary => Down earlier
  | .service .start => startNow ∨ Ran earlier .stop fun d => d.status = 0
  | _ => True

def Orderly (startNow : Bool) : Log → Prop
  | [] => True
  | e :: earlier => Guarded startNow earlier e.1 ∧ Orderly startNow earlier

/-- The governor was started, was seen running later, and has not been stopped since. -/
def Up (log : Log) : Prop :=
  ∃ (later earlier : Log) (d : Done Signal Unit),
    log = later ++ ⟨.service .isActive, d⟩ :: earlier ∧ d.status = 0 ∧ (Ran earlier .start fun d => d.status = 0) ∧
      ∀ e ∈ later, e.1 ≠ .service .stop

/-! ## Runs -/

/-- The state before a run. A temporary file of an earlier run has another name. -/
def World.begin (w : World) : World := { w with temp := none, log := [] }

/-- A run of the installer with these arguments ends in `w'`. -/
def Installs (args : List String) (w : World) (r : Except Nat Options) (w' : World) : Prop :=
  (install args).run.Exec (InstallStep h) w.begin r w'

/-- Only the panel has changed anything. -/
structure Unchanged (w w' : World) : Prop where
  requests : Written w.requests w'.requests
  others : w' = { w.begin with requests := w'.requests, log := w'.log }

/-- The files of the service. -/
def World.service (w : World) : Option File × Option File × Bool × Bool := (w.binary, w.unit, w.legacy, w.enabled)

/-- What any run keeps. -/
structure Kept (o : Options) (profile : List Char) (w w' : World) : Prop where
  requests : Written w.requests w'.requests ∨ Placed (requestFile h o profile) w.requests w'.requests
  environment : w.environment ≠ none → w'.environment = w.environment
  service : w'.service = w.service ∨ w'.Names (environmentLine o.dataDir)
  log : Orderly o.startNow w'.log

/-- A temporary file is left only where the last command has failed to make it, or to remove it. -/
structure Safe (o : Options) (profile : List Char) (w w' : World) : Prop extends Kept h o profile w w' where
  temp : w'.temp = none ∨ ∃ (c : ControlOp) (d : Done Signal Unit) (earlier : Log),
    w'.log = ⟨.control c, d⟩ :: earlier ∧
    (c = .mktemp ∧ (d.status ≠ 0 ∨ d.signal ≠ none) ∨ c = .removeTemp ∧ d.status ≠ 0)

/-- What a run that succeeds has established. -/
structure Installed (o : Options) (profile : List Char) (w w' : World) : Prop where
  requests : (∃ seen, Written w.requests seen ∧ current seen ≠ none ∧ Written seen w'.requests) ∨
    Placed (requestFile h o profile) w.requests w'.requests ∧ w'.directory = some (h.dataOwner o.dataDir)
  temp : w'.temp = none
  environment : w'.Names (environmentLine o.dataDir)
  fresh : w.environment = none → w'.environment = some ⟨[environmentLine o.dataDir], 0o644⟩
  kept : w.environment ≠ none → w'.environment = w.environment
  binary : ∃ content, h.binary = some content ∧ w'.binary = some ⟨content, 0o755⟩
  unit : w'.unit = some ⟨h.unit, 0o644⟩
  legacy : w'.legacy = false
  enabled : w'.enabled
  up : (o.startNow ∨ Ran w'.log .stop fun _ => True) → Up w'.log
  down : ¬(o.startNow ∨ Ran w'.log .stop fun _ => True) → ¬Ran w'.log .start fun _ => True

end Cmp50Unlock.Install.Governor
