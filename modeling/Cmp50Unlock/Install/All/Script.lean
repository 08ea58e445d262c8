import Cmp50Unlock.Install.Governor.Script

/-!
# The installer of everything

`install-all.sh`, which checks the host and then runs `install.sh` and `install-governor.sh`, with
`userspace-version.sh`.
-/

namespace Cmp50Unlock.Install.All

open Lib
open Scripts (Signal secondPassKernels)
open Scripts.Shell (die orDie missing)

/-! ## Options -/

structure Options where
  dataDir : List Char
  allowGen2 : Bool
  installDeps : Bool
  deriving DecidableEq

def defaultOptions : Options where
  dataDir := "/opt/stacks/ai-server-manager/data".toList
  allowGen2 := false
  installDeps := false

/-! ## Commands -/

/-- The commands of the script itself. `ldconfig` answers what it prints, `readlink` the resolved path. -/
inductive CheckOp where
  | logError (line : String)
  | usage
  | testRoot
  | unameR
  | unameM
  | commandV (tool : String)
  | openLock
  | flock
  | sourceProfile
  | governorProfile
  | verifyBundle
  | binaryVersion
  | sourceUserspace
  | ldconfig
  | testFile (candidate : List Char)
  | readlink (candidate : List Char)

@[reducible] def CheckOp.Out : CheckOp → Type
  | .unameR | .readlink _ => List Char
  | .unameM | .ldconfig => String
  | _ => Unit

/-- The commands for the packages. -/
inductive DepsOp where
  | aptUpdate
  | unameR
  | aptInstall (headers : String)

@[reducible] def DepsOp.Out : DepsOp → Type
  | .unameR => List Char
  | _ => Unit

/-- Together with the two installers, by their arguments. -/
inductive InstallOp where
  | check (o : CheckOp)
  | deps (o : DepsOp)
  | install (args : List String)
  | installGovernor (args : List String)
  | log (line : String)

@[reducible] def InstallOp.Out : InstallOp → Type
  | .check o => o.Out
  | .deps o => o.Out
  | _ => Unit

abbrev Check := Script CheckOp Signal CheckOp.Out

abbrev Deps := Script DepsOp Signal DepsOp.Out

abbrev Installer := Script InstallOp Signal InstallOp.Out

instance : Script.Stderr CheckOp := ⟨.logError⟩

namespace Check

abbrev sh (o : CheckOp) : Check o.Out := Scripts.Shell.sh o

abbrev attempt (o : CheckOp) : Check (Done Signal o.Out) := Scripts.Shell.attempt o

/-! ## The userspace -/

/-- `[[ "$expected" =~ ^[0-9]+\.[0-9]+\.[0-9]+$ ]]` -/
def isVersion (expected : List Char) : Bool :=
  (expected.splitOn '.').length == 3 && (expected.splitOn '.').all fun part => part != [] && part.all Char.isDigit

def libraries : List String := ["libnvidia-ml", "libcuda"]

/-- The fields of a record of awk. -/
def fields (record : List Char) : List (List Char) :=
  (record.splitOnP fun c => c == ' ' || c == '\t').filter (· != [])

/-- `awk -v name="$library.so.1" '$1 == name && /x86-64/ {print $NF}'` -/
def candidates (library : String) (listing : List Char) : List (List Char) :=
  (listing.splitOn '\n').filterMap fun record =>
    if (fields record).head? = some (library ++ ".so.1").toList ∧
      "x86-64".toList <:+: record then (fields record).getLast?
    else none

/-- `basename` of a path that does not end in a slash -/
def basename (path : List Char) : List Char := path.rtakeWhile (· != '/')

/-- The first candidate that is a file is the one of this version. -/
def selects (library expected : String) : List (List Char) → Check Bool
  | [] => return false
  | candidate :: rest => do
      let found ← attempt (.testFile candidate)
      if found.status = 0 then do
        let resolved ← attempt (.readlink candidate)
        return resolved.status == 0 && basename resolved.out == (library ++ ".so." ++ expected).toList
      else selects library expected rest

def libraryMatches (expected library : String) : Check Bool := do
  let listing ← attempt .ldconfig
  selects library expected (candidates library listing.out.toList)

def toolFound (tool : String) : Check Bool := do
  let found ← attempt (.commandV tool)
  return found.status == 0

/-- A test for each, `|| return 1` -/
def allOf {α : Type} (test : α → Check Bool) : List α → Check Bool
  | [] => return true
  | a :: as => do
      let holds ← test a
      if holds then allOf test as else return false

/-- `cmp50_userspace_matches` -/
def userspaceMatches (expected : String) : Check Bool :=
  if isVersion expected.toList then do
    let tools ← allOf toolFound ["nvidia-smi", "nvidia-modprobe"]
    if tools then allOf (libraryMatches expected) libraries else return false
  else
    return false

/-! ## Checks -/

/-- The loop over the arguments. -/
def parseOptions : List String → Options → Check Options
  | [], o => return o
  | arg :: rest, o =>
      if arg = "--allow-experimental-gen2" then parseOptions rest { o with allowGen2 := true }
      else if arg = "--install-deps" then parseOptions rest { o with installDeps := true }
      else if arg = "--ai-manager-data-dir" then
        match rest with
        | [] => missing "missing data directory"
        | dataDir :: rest =>
            if dataDir = "" then missing "missing data directory"
            else parseOptions rest { o with dataDir := dataDir.toList }
      else if arg = "-h" ∨ arg = "--help" then do
        sh .usage
        throw 0
      else die ("unknown option: " ++ arg)

def checkHost (o : Options) : Check Unit := do
  orDie o.allowGen2 "Gen2 requires --allow-experimental-gen2 and local recovery access"
  let root ← attempt .testRoot
  orDie (root.status == 0) "run as root (sudo)"
  let kernel ← attempt .unameR
  orDie (secondPassKernels.contains (String.ofList kernel.out))
    "Gen2 supports only kernels 6.8.0-137-generic and 6.8.0-147-generic"
  orDie (o.dataDir.head? == some '/' && Install.Check.dataDirAllowed o.dataDir) "invalid absolute data directory"
  let machine ← attempt .unameM
  orDie (machine.out == "x86_64") "bundled governor requires linux/amd64"

def takeLock : Check Unit := do
  let found ← attempt (.commandV "flock")
  orDie (found.status == 0) "missing flock; use --install-deps on Ubuntu/Debian"
  sh .openLock
  let locked ← attempt .flock
  orDie (locked.status == 0) "another all-in-one installer is running"

def checkGovernor : Check Unit := do
  sh .sourceProfile
  let profile ← attempt .governorProfile
  orDie (profile.status == 0) "unsupported governor GPU configuration"
  sh .verifyBundle
  let version ← attempt .binaryVersion
  orDie (version.status == 0) "bundled governor cannot execute on this host"

/-- Everything before the packages; it returns the options. -/
def checkOptions (args : List String) : Check Options := do
  let o ← parseOptions args defaultOptions
  checkHost o
  return o

/-- Everything after them and before the installers; it returns whether the userspace is there. -/
def checkStaging : Check Bool := do
  takeLock
  checkGovernor
  sh .sourceUserspace
  userspaceMatches driverVersion

end Check

/-! ## Packages -/

namespace Deps

abbrev sh (o : DepsOp) : Deps o.Out := Scripts.Shell.sh o

abbrev attempt (o : DepsOp) : Deps (Done Signal o.Out) := Scripts.Shell.attempt o

/-- `--install-deps` -/
def installDeps : Deps Unit := do
  sh .aptUpdate
  let kernel ← attempt .unameR
  sh (.aptInstall ("linux-headers-" ++ String.ofList kernel.out))

end Deps

/-! ## The script -/

/-- `"${args[@]}"` -/
def installArgs (userspace : Bool) : List String :=
  ["--stage", "gen2", "--allow-experimental-gen2", "--initramfs", "--disable-nouveau"] ++
    if userspace then [] else ["--install-userland"]

def governorArgs (o : Options) : List String := ["--ai-manager-data-dir", String.ofList o.dataDir]

/-- `install-all.sh` -/
def installAll (args : List String) : Installer Options := do
  let o ← Script.embed InstallOp.check (Check.checkOptions args)
  Script.when o.installDeps (Script.embed InstallOp.deps Deps.installDeps)
  let userspace ← Script.embed InstallOp.check Check.checkStaging
  Scripts.Shell.sh (InstallOp.install (installArgs userspace))
  Scripts.Shell.sh (InstallOp.installGovernor (governorArgs o))
  Scripts.Shell.sh (InstallOp.log "PASS_CMP50_ALL_STAGED")
  return o

end Cmp50Unlock.Install.All
