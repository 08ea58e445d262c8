import Cmp50Unlock.Install.Script
import Cmp50Unlock.Scripts.GovernorProfile

/-!
# The installer of the governor

`install-governor.sh` in two phases, the checks and the changes. From the temporary file on, a trap removes it at any
end.
-/

namespace Cmp50Unlock.Install.Governor

open Lib
open Scripts (Signal substitution controlDocument)
open Scripts.Shell (die orDie missing)

/-! ## Options -/

structure Options where
  dataDir : List Char
  startNow : Bool
  deriving DecidableEq

def defaultOptions : Options where
  dataDir := "/opt/stacks/ai-server-manager/data".toList
  startNow := false

/-- `${data_dir}/cmp50-power` -/
def controlDir (dataDir : List Char) : List Char := dataDir ++ "/cmp50-power".toList

/-- The line for `/etc/default/cmp-idle-governor`. -/
def environmentLine (dataDir : List Char) : List Char := "CMP50_POWER_CONTROL_DIR=".toList ++ controlDir dataDir

/-! ## Commands -/

/-- The commands that change nothing but the lock. `governorProfile` answers what the function prints. -/
inductive CheckOp where
  | logError (line : String)
  | usage
  | testRoot
  | unameM
  | commandV (tool : String)
  | openLock
  | flock
  | sourceProfile
  | governorProfile
  | testBinary
  | verifyBundle
  | binaryVersion
  | queryDriver
  | testLinks (dataDir : List Char)

@[reducible] def CheckOp.Out : CheckOp → Type
  | .unameM | .governorProfile => String
  | _ => Unit

/-- The commands for the request. `testControl` is `[[ ! -e ... ]]`. -/
inductive ControlOp where
  | createDir
  | testControl
  | mktemp
  | writeTemp (document : String)
  | chmodTemp
  | chown (dataDir : List Char)
  | link
  | removeTemp

/-- The commands for the environment. `testEnvironment` is `[[ ! -e ... ]]`. -/
inductive EnvironmentOp where
  | logError (line : String)
  | testEnvironment
  | writeEnvironment (line : List Char)
  | chmodEnvironment
  | grepEnvironment (line : List Char)

/-- The commands for the service. -/
inductive ServiceOp where
  | log (line : String)
  | logError (line : String)
  | isActive
  | stop
  | installBinary
  | installUnit
  | catLegacy
  | disableLegacy
  | removeLegacy
  | daemonReload
  | enable
  | start
  | sleep
  deriving DecidableEq

inductive InstallOp where
  | check (o : CheckOp)
  | control (o : ControlOp)
  | environment (o : EnvironmentOp)
  | service (o : ServiceOp)

@[reducible] def InstallOp.Out : InstallOp → Type
  | .check o => o.Out
  | .control _ | .environment _ | .service _ => Unit

abbrev Check := Script CheckOp Signal CheckOp.Out

abbrev Control := Script ControlOp Signal fun _ => Unit

abbrev Settings := Script EnvironmentOp Signal fun _ => Unit

abbrev Service := Script ServiceOp Signal fun _ => Unit

abbrev Installer := Script InstallOp Signal InstallOp.Out

instance : Script.Stderr CheckOp := ⟨.logError⟩

instance : Script.Stderr EnvironmentOp := ⟨.logError⟩

instance : Script.Stderr ServiceOp := ⟨.logError⟩

/-! ## Checks -/

namespace Check

abbrev sh (o : CheckOp) : Check o.Out := Scripts.Shell.sh o

abbrev attempt (o : CheckOp) : Check (Done Signal o.Out) := Scripts.Shell.attempt o

/-- The loop over the arguments. -/
def parseOptions : List String → Options → Check Options
  | [], o => return o
  | arg :: rest, o =>
      if arg = "--ai-manager-data-dir" then
        match rest with
        | [] => missing "missing data directory"
        | dataDir :: rest =>
            if dataDir = "" then missing "missing data directory"
            else parseOptions rest { o with dataDir := dataDir.toList }
      else if arg = "--start-now" then parseOptions rest { o with startNow := true }
      else if arg = "-h" ∨ arg = "--help" then do
        sh .usage
        throw 0
      else die ("unknown option: " ++ arg)

def requiredTools : List String := ["lspci", "systemctl", "sha256sum", "install", "flock"]

def checkHost (o : Options) : Check Unit := do
  let root ← attempt .testRoot
  orDie (root.status == 0) "run as root (sudo)"
  let machine ← attempt .unameM
  orDie (machine.out == "x86_64") "bundled binary requires linux/amd64"
  orDie (o.dataDir.head? == some '/' && Install.Check.dataDirAllowed o.dataDir) "invalid absolute data directory"
  requiredTools.forM fun required => do
    let found ← attempt (.commandV required)
    orDie (found.status == 0) ("missing command: " ++ required)

def takeLock : Check Unit := do
  sh .openLock
  let locked ← attempt .flock
  orDie (locked.status == 0) "another governor installer is running"

/-- It returns `${profile}`. -/
def checkProfile : Check (List Char) := do
  sh .sourceProfile
  let profile ← attempt .governorProfile
  orDie (profile.status == 0) "unsupported GPU configuration"
  return substitution profile.out

def checkBinary : Check Unit := do
  let found ← attempt .testBinary
  orDie (found.status == 0) "bundled governor binary is missing"
  sh .verifyBundle
  let version ← attempt .binaryVersion
  orDie (version.status == 0) "governor cannot execute on this host; rebuild with idle-governor/build.sh"

def checkDriver (o : Options) : Check Unit :=
  Script.when o.startNow do
    let driver ← attempt .queryDriver
    orDie (driver.status == 0) "start-now requires a working NVIDIA 610.43.03 driver"

def checkLinks (o : Options) : Check Unit := do
  let regular ← attempt (.testLinks o.dataDir)
  orDie (regular.status == 0) "refusing symlinked configuration targets"

/-- Everything before the first change; it returns the options and the profile. -/
def checks (args : List String) : Check (Options × List Char) := do
  let o ← parseOptions args defaultOptions
  checkHost o
  takeLock
  let profile ← checkProfile
  checkBinary
  checkDriver o
  checkLinks o
  return (o, profile)

end Check

/-! ## The request -/

namespace Control

abbrev sh (o : ControlOp) : Control Unit := Scripts.Shell.sh o

abbrev attempt (o : ControlOp) : Control (Done Signal Unit) := Scripts.Shell.attempt o

/-- It returns whether there is no request. -/
def testControl : Control Bool := do
  sh .createDir
  let absent ← attempt .testControl
  return absent.status == 0

/-- The request, in a file of its own that is then linked to its name. -/
def placeControl (o : Options) (profile : List Char) : Control Unit := do
  sh (.writeTemp (controlDocument profile))
  sh .chmodTemp
  sh (.chown o.dataDir)
  sh .link
  sh .removeTemp

end Control

/-! ## The environment -/

namespace Settings

abbrev sh (o : EnvironmentOp) : Settings Unit := Scripts.Shell.sh o

abbrev attempt (o : EnvironmentOp) : Settings (Done Signal Unit) := Scripts.Shell.attempt o

def placeEnvironment (o : Options) : Settings Unit := do
  let absent ← attempt .testEnvironment
  if absent.status = 0 then do
    sh (.writeEnvironment (environmentLine o.dataDir))
    sh .chmodEnvironment
  else do
    let found ← attempt (.grepEnvironment (environmentLine o.dataDir))
    orDie (found.status == 0) "existing environment uses a different control path; reconcile it first"

end Settings

/-! ## The service -/

namespace Service

abbrev sh (o : ServiceOp) : Service Unit := Scripts.Shell.sh o

abbrev attempt (o : ServiceOp) : Service (Done Signal Unit) := Scripts.Shell.attempt o

/-- It returns whether the governor is to be started. -/
def stopGovernor (startNow : Bool) : Service Bool := do
  let active ← attempt .isActive
  if active.status = 0 then do
    sh .stop
    return true
  else
    return startNow

def installFiles : Service Unit := do
  sh .installBinary
  sh .installUnit
  let legacy ← attempt .catLegacy
  Script.when (legacy.status = 0) do
    sh .disableLegacy
    sh .removeLegacy
  sh .daemonReload
  sh .enable

def startGovernor (startNow : Bool) : Service Unit :=
  if startNow then do
    sh .start
    sh .sleep
    let active ← attempt .isActive
    orDie (active.status == 0) "governor failed to start; inspect journalctl -u cmp-idle-governor"
    sh (.log "PASS_CMP50_GOVERNOR_STARTED (check active-profile/last-error and idle/load behavior)")
  else
    sh (.log "PASS_CMP50_GOVERNOR_INSTALLED (enabled for next boot)")

def installService (o : Options) : Service Unit := do
  let startNow ← stopGovernor o.startNow
  installFiles
  startGovernor startNow

end Service

/-! ## The script -/

/-- From the environment on. -/
def finish (o : Options) : Installer Unit := do
  Script.embed InstallOp.environment (Settings.placeEnvironment o)
  Script.embed InstallOp.service (Service.installService o)

/-- Everything after the checks. -/
def changes (o : Options) (profile : List Char) : Installer Unit := do
  let absent ← Script.embed InstallOp.control Control.testControl
  if absent then do
    Script.embed InstallOp.control (Control.sh .mktemp)
    Script.onExit (do Script.embed InstallOp.control (Control.placeControl o profile); finish o)
      (Script.embed InstallOp.control (Control.sh .removeTemp))
  else
    finish o

/-- `install-governor.sh` -/
def install (args : List String) : Installer Options := do
  let checked ← Script.embed InstallOp.check (Check.checks args)
  changes checked.1 checked.2
  return checked.1

end Cmp50Unlock.Install.Governor
