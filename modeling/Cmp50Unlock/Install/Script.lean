import Cmp50Unlock.Install.Disk
import Cmp50Unlock.Lib.Triple

/-!
# The installer

`install.sh` in phases: the checks, the backup, the userspace, and the changes. A phase has commands of its own, so that
no check can change a file. Every command may fail, and a signal may end the script at any of them.
-/

namespace Cmp50Unlock.Install

open Lib
open Scripts (Signal dropHex secondPassKernels secondPassSubsystems)
open Scripts.Shell (die orDie missing)

/-! ## Options -/

structure Options where
  stage : String
  installUserland : Bool
  rebuildInitramfs : Bool
  enableIdleGovernor : Bool
  disableNouveau : Bool
  allowGen2 : Bool
  dataDir : List Char
  deriving DecidableEq

def defaultOptions : Options where
  stage := "rt"
  installUserland := false
  rebuildInitramfs := false
  enableIdleGovernor := false
  disableNouveau := false
  allowGen2 := false
  dataDir := "/opt/stacks/ai-server-manager/data".toList

def stages : List String := ["stockflow", "rt", "rebar", "gen2"]

def driverVersion : String := "610.43.03"

/-! ## Commands -/

/-- The commands up to the backup. -/
inductive CheckOp where
  | log (line : String)
  | logError (line : String)
  | usage
  | commandV (tool : String)
  | testRoot
  | testRepoFile (path : String)
  | testHeaders
  | unameM
  | verifyGovernor
  | governorVersion
  | sourceProfile
  | governorProfile
  | listDevices
  | testSubsystem (bdf : String)
  | readSubvendor (bdf : String)
  | readSubdevice (bdf : String)
  | testNouveau (bdf : String)
  | mokutil

@[reducible] def CheckOp.Out : CheckOp → Type
  | .unameM | .readSubvendor _ | .readSubdevice _ => String
  | .listDevices => List String
  | _ => Unit

/-- The commands of the backup. `date` answers the time and the process, `${timestamp}-$$`; `test` is `[[ -f ... ]]`,
and `[[ -e ... ]]` for the initrd. -/
inductive BackupOp where
  | date
  | create
  | modinfo (m : Module)
  | test (p : Path)
  | copy (p : Path)
  | isEnabled
  | markEnabled
  | saveUname
  | savePci
  | announce (line : String)
  | markManaged

@[reducible] def BackupOp.Out : BackupOp → Type
  | .date => String
  | .modinfo _ => Option (List (List Char))
  | _ => Unit

/-- The commands for the userspace of the driver. -/
inductive UserlandOp where
  | log (line : String)
  | createCache
  | testRunFile
  | download
  | renameDownload
  | verifyRunFile
  | runInstaller

/-- The commands after them, but for the policy on nouveau. -/
inductive ChangeOp where
  | log (line : String)
  | logError (line : String)
  | sourceUserspace
  | userspaceMatches
  | testChecksums
  | build
  | verifyArtifact
  | createInstallDir
  | testArtifact (m : Module)
  | installModule (m : Module)
  | installOptions
  | installHelper
  | installUnit
  | daemonReload
  | enable
  | writeOptions
  | removeOptions
  | catUnit
  | disable
  | removeService
  | depmod
  | moduleVersion
  | selectedModule
  | installGovernor
  | commandV (tool : String)
  | updateInitramfs
  | report
  deriving DecidableEq

@[reducible] def ChangeOp.Out : ChangeOp → Type
  | .moduleVersion => String
  | .selectedModule => Option (List (List Char))
  | _ => Unit

inductive InstallOp where
  | check (o : CheckOp)
  | backUp (o : BackupOp)
  | userland (o : UserlandOp)
  | change (o : ChangeOp)
  | installPolicy

@[reducible] def InstallOp.Out : InstallOp → Type
  | .check o => o.Out
  | .backUp o => o.Out
  | .change o => o.Out
  | .userland _ | .installPolicy => Unit

abbrev Check := Script CheckOp Signal CheckOp.Out

abbrev Back := Script BackupOp Signal BackupOp.Out

abbrev Userland := Script UserlandOp Signal fun _ => Unit

abbrev Change := Script ChangeOp Signal ChangeOp.Out

abbrev Installer := Script InstallOp Signal InstallOp.Out

instance : Script.Stderr CheckOp := ⟨.logError⟩

instance : Script.Stderr ChangeOp := ⟨.logError⟩

/-! ## Checks -/

namespace Check

abbrev sh (o : CheckOp) : Check o.Out := Scripts.Shell.sh o

abbrev attempt (o : CheckOp) : Check (Done Signal o.Out) := Scripts.Shell.attempt o

/-- The loop over the arguments. -/
def parseOptions : List String → Options → Check Options
  | [], o => return o
  | arg :: rest, o =>
      if arg = "--stage" then
        match rest with
        | [] => missing "--stage needs a value"
        | stage :: rest =>
            if stage = "" then missing "--stage needs a value" else parseOptions rest { o with stage := stage }
      else if arg = "--install-userland" then parseOptions rest { o with installUserland := true }
      else if arg = "--initramfs" then parseOptions rest { o with rebuildInitramfs := true }
      else if arg = "--idle-governor" then parseOptions rest { o with enableIdleGovernor := true }
      else if arg = "--disable-nouveau" then parseOptions rest { o with disableNouveau := true }
      else if arg = "--ai-manager-data-dir" then
        match rest with
        | [] => missing "--ai-manager-data-dir needs a value"
        | dataDir :: rest =>
            if dataDir = "" then missing "--ai-manager-data-dir needs a value"
            else parseOptions rest { o with dataDir := dataDir.toList }
      else if arg = "--allow-experimental-gen2" then parseOptions rest { o with allowGen2 := true }
      else if arg = "-h" ∨ arg = "--help" then do
        sh .usage
        throw 0
      else die ("unknown option: " ++ arg)

/-- The tests of the options. -/
def checkOptions (o : Options) : Check Unit := do
  orDie (stages.contains o.stage) ("bad stage: " ++ o.stage)
  orDie (!(o.disableNouveau && !o.rebuildInitramfs))
    "--disable-nouveau requires --initramfs so the next boot uses the new policy"
  orDie (!(o.stage == "gen2" && !o.allowGen2))
    "gen2 is host-specific; rerun with --allow-experimental-gen2 only with local recovery access"

def gen2Tools : List String := ["flock", "fuser", "setpci", "nvidia-modprobe"]

def checkGen2 (release : Release) : Check Unit := do
  orDie (secondPassKernels.contains (String.ofList release))
    "the automatic Gen2 second pass supports only kernels 6.8.0-137-generic and 6.8.0-147-generic"
  gen2Tools.forM fun required => do
    let found ← attempt (.commandV required)
    orDie (found.status == 0) ("Gen2 requires " ++ required)

/-- Letters, digits, and a few other characters. -/
def dataDirAllowed (dataDir : List Char) : Bool :=
  dataDir.all fun c => c.isAlphanum || c == '_' || c == '.' || c == '/' || c == '-'

def checkDataDir (dataDir : List Char) : Check Unit := do
  orDie (dataDir.head? == some '/') "--ai-manager-data-dir must be an absolute path"
  orDie (dataDirAllowed dataDir) "--ai-manager-data-dir contains unsupported characters"

def checkRepoFile (path message : String) : Check Unit := do
  let found ← attempt (.testRepoFile path)
  orDie (found.status == 0) message

def checkGovernor : Check Unit := do
  checkRepoFile "install-governor.sh" "governor installer is missing"
  let machine ← attempt .unameM
  orDie (machine.out == "x86_64") "bundled governor requires linux/amd64"
  sh .verifyGovernor
  let version ← attempt .governorVersion
  orDie (version.status == 0) "bundled governor cannot execute on this host"
  sh .sourceProfile
  let profile ← attempt .governorProfile
  orDie (profile.status == 0) "unsupported governor GPU configuration"

def checkFiles (o : Options) (release : Release) : Check Unit := do
  checkRepoFile "build.sh" "run from a complete repository clone"
  let headers ← attempt .testHeaders
  orDie (headers.status == 0) ("matching kernel headers are missing: linux-headers-" ++ String.ofList release)
  Script.when o.rebuildInitramfs do
    let found ← attempt (.commandV "update-initramfs")
    orDie (found.status == 0) "update-initramfs is unavailable"
  Script.when o.disableNouveau
    (checkRepoFile "config/cmp50-disable-nouveau.conf" "nouveau policy is missing from the repository")
  checkRepoFile "scripts/userspace-version.sh" "userspace version helper is missing from the repository"

def checkDevice (o : Options) (bdf : String) : Check Unit := do
  let readable ← attempt (.testSubsystem bdf)
  orDie (readable.status == 0) ("cannot read subsystem for " ++ bdf)
  let vendor ← sh (.readSubvendor bdf)
  let device ← sh (.readSubdevice bdf)
  orDie (secondPassSubsystems.contains (dropHex vendor.toList ++ ':' :: dropHex device.toList))
    ("unsupported subsystem " ++ String.ofList (dropHex vendor.toList ++ ':' :: dropHex device.toList) ++ " at " ++ bdf)
  let owned ← attempt (.testNouveau bdf)
  orDie (!(owned.status == 0 && !o.disableNouveau))
    ("nouveau owns " ++ bdf ++ "; use --disable-nouveau --initramfs for a staged first install")

def checkDevices (o : Options) : Check Unit := do
  let lspci ← attempt (.commandV "lspci")
  orDie (lspci.status == 0) "pciutils/lspci is required"
  let devices ← sh .listDevices
  orDie (decide (0 < devices.length)) "no CMP 50HX (10de:1e09) found"
  devices.forM (checkDevice o)
  sh (.log ("found " ++ toString devices.length ++ " supported CMP 50HX card(s): " ++ " ".intercalate devices))
  let secure ← attempt .mokutil
  orDie (secure.status != 0) "Secure Boot is enabled; sign the modules with an enrolled key first"

/-- Everything before the backup; it returns the options. -/
def checks (release : Release) (args : List String) : Check Options := do
  let o ← parseOptions args defaultOptions
  checkOptions o
  Script.when (o.stage = "gen2") (checkGen2 release)
  let root ← attempt .testRoot
  orDie (root.status == 0) "run as root (sudo)"
  checkDataDir o.dataDir
  checkFiles o release
  Script.when o.enableIdleGovernor checkGovernor
  checkDevices o
  return o

end Check

/-! ## Backup -/

namespace Back

abbrev sh (o : BackupOp) : Back o.Out := Scripts.Shell.sh o

abbrev attempt (o : BackupOp) : Back (Done Signal o.Out) := Scripts.Shell.attempt o

/-- `if [[ -f ... ]]; then cp -a ...; fi` -/
def backUpFile (p : Path) : Back PUnit := do
  let found ← attempt (.test p)
  if found.status = 0 then
    sh (.copy p)

/-- The module that `modinfo` selects. -/
def backUpModule (m : Module) : Back PUnit := do
  let oldPath ← attempt (.modinfo m)
  match oldPath.out with
  | none => return
  | some names => backUpFile (.lib names)

/-- The files that are copied besides the modules. -/
def backedUp (release : Release) : List Path := [.initrd release, .options, .nouveauPolicy, .helper, .unit]

def backupsDir : String := "/var/lib/cmp50-unlock/backups/"

def backUpEnabled : Back Unit := do
  let enabled ← attempt .isEnabled
  Script.when (enabled.status = 0) (sh .markEnabled)

/-- The backup is complete; what is left of it depends on the options. -/
def announce (disableNouveau : Bool) (backupDir : String) : Back Unit := do
  sh (.announce ("rollback backup: " ++ backupDir))
  Script.when disableNouveau (sh .markManaged)

/-- It returns `${backup_dir}`. -/
def backUp (release : Release) (disableNouveau : Bool) : Back String := do
  let timestamp ← sh .date
  sh .create
  modules.forM backUpModule
  (backedUp release).forM backUpFile
  backUpEnabled
  sh .saveUname
  sh .savePci
  announce disableNouveau (backupsDir ++ timestamp)
  return backupsDir ++ timestamp

end Back

/-! ## The userspace -/

namespace Userland

abbrev sh (o : UserlandOp) : Userland Unit := Scripts.Shell.sh o

abbrev attempt (o : UserlandOp) : Userland (Done Signal Unit) := Scripts.Shell.attempt o

/-- `--install-userland` -/
def installUserland : Userland Unit := do
  sh .createCache
  let found ← attempt .testRunFile
  Script.when (found.status ≠ 0) do
    sh (.log ("downloading official NVIDIA " ++ driverVersion ++ " userspace"))
    sh .download
    sh .renameDownload
  sh .verifyRunFile
  sh .runInstaller

end Userland

/-! ## Changes -/

namespace Change

abbrev sh (o : ChangeOp) : Change o.Out := Scripts.Shell.sh o

abbrev attempt (o : ChangeOp) : Change (Done Signal o.Out) := Scripts.Shell.attempt o

def checkUserspace : Change Unit := do
  sh .sourceUserspace
  let same ← attempt .userspaceMatches
  orDie (same.status == 0)
    ("NVIDIA " ++ driverVersion ++ " userspace is not installed; rerun with --install-userland")

def buildArtifact (o : Options) (release : Release) : Change Unit := do
  let built ← attempt .testChecksums
  Script.when (built.status ≠ 0) do
    sh (.log ("building stage " ++ o.stage ++ " for " ++ String.ofList release))
    sh .build
  sh .verifyArtifact

def installModule (m : Module) : Change PUnit := do
  let found ← attempt (.testArtifact m)
  if found.status ≠ 0 then
    return
  else
    sh (.installModule m)

def installModules : Change Unit := do
  sh .createInstallDir
  modules.forM installModule

/-- The options of the module, with the service for `gen2`. -/
def installStage (o : Options) : Change Unit := do
  if o.stage = "gen2" then do
    sh .installOptions
    sh .installHelper
    sh .installUnit
    sh .daemonReload
    sh .enable
  else if o.stage = "rebar" then
    sh .writeOptions
  else
    sh .removeOptions

/-- The service of an earlier installation. -/
def removeService (o : Options) : Change Unit := do
  Script.when (o.stage ≠ "gen2") do
    let found ← attempt .catUnit
    Script.when (found.status = 0) do
      let _ ← attempt .disable
      sh .removeService
      sh .daemonReload

def checkSelected (release : Release) (backupDir : String) : Change Unit := do
  sh .depmod
  let version ← attempt .moduleVersion
  orDie (version.out == driverVersion) "installed module version check failed"
  let selected ← attempt .selectedModule
  orDie (selected.out == some (updatesNames release .nvidia))
    ("depmod selected another nvidia.ko; restore backup " ++ backupDir)

/-- Up to the selected module. -/
def installDriver (o : Options) (release : Release) (backupDir : String) : Change Unit := do
  checkUserspace
  buildArtifact o release
  installModules
  installStage o
  removeService o
  checkSelected release backupDir

/-- After the policy on nouveau. -/
def finish (o : Options) : Change Unit := do
  Script.when o.enableIdleGovernor (sh .installGovernor)
  Script.when o.rebuildInitramfs do
    let found ← attempt (.commandV "update-initramfs")
    orDie (found.status == 0) "update-initramfs is unavailable"
    sh .updateInitramfs
  sh .report

end Change

/-! ## The script -/

/-- What follows the checks. -/
def stageInstall (release : Release) (o : Options) : Installer Unit := do
  let backupDir ← Script.embed InstallOp.backUp (Back.backUp release o.disableNouveau)
  Script.when o.installUserland (Script.embed InstallOp.userland Userland.installUserland)
  Script.embed InstallOp.change (Change.installDriver o release backupDir)
  Script.when o.disableNouveau (Scripts.Shell.sh InstallOp.installPolicy)
  Script.embed InstallOp.change (Change.finish o)

/-- `install.sh`, with the release of the running kernel -/
def install (release : Release) (args : List String) : Installer Options := do
  let o ← Script.embed InstallOp.check (Check.checks release args)
  stageInstall release o
  return o

end Cmp50Unlock.Install
