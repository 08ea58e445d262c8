import Cmp50Unlock.Scripts.Shell

/-!
# The second pass

`cmp50-gen2-second-pass.sh` initializes the cards once more, with udev masked and stopped in between. Every command may
fail, and INT or TERM may arrive at any of them. A test that only looks at variables is no command of its own: a signal
that arrives there arrives at the command before it.
-/

namespace Cmp50Unlock.Scripts

open Lib
open Shell (die orDie)

/-- The units of the loop that looks for masked ones. -/
inductive UdevUnit where
  | service
  | controlSocket
  | kernelSocket
  deriving DecidableEq

def UdevUnit.name : UdevUnit → String
  | .service => "systemd-udevd.service"
  | .controlSocket => "systemd-udevd-control.socket"
  | .kernelSocket => "systemd-udevd-kernel.socket"

/-! ## Commands -/

/-- A word that a command printed, and the number it stands for, if it is one. -/
structure Word where
  text : String
  number : Option Nat

/-- `setup` stands for the assignment, the functions and the traps at the top. The commands on the units name all three
of them. -/
inductive PassOp where
  | setup
  | testRoot
  | uname
  | commandV (tool : String)
  | openLock
  | flock
  | listDevices
  | testReset (bdf : String)
  | readSubvendor (bdf : String)
  | readSubdevice (bdf : String)
  | modprobe
  | nvidiaModprobe
  | countGpus
  | sleep
  | readSpeed (bdf : String)
  | readBar1Totals
  | log (line : String)
  | logError (line : String)
  | listDriverDevices
  | testDriverDevice (path : String)
  | readVendor (path : String)
  | readDevice (path : String)
  | shoptNullglob
  | listNodes
  | fuser
  | isEnabled (unit : UdevUnit)
  | markStopped
  | mask
  | stop
  | testDriver (bdf : String)
  | unbind (bdf : String)
  | modprobeRemove
  | grepModules
  | reset (bdf : String)
  | setpci (bdf : String)
  | testStopped
  | unmask
  | daemonReload
  | start
  deriving DecidableEq

@[reducible] def PassOp.Out : PassOp → Type
  | .uname | .readSubvendor _ | .readSubdevice _ | .readSpeed _ | .readVendor _ | .readDevice _ | .isEnabled _ => String
  | .listDevices | .listDriverDevices => List String
  | .countGpus => Nat
  | .readBar1Totals => List Word
  | .setpci _ => Word
  | .testStopped => Bool
  | _ => Unit

abbrev Pass := Script PassOp Signal PassOp.Out

instance : Script.Stderr PassOp := ⟨.logError⟩

abbrev sh (o : PassOp) : Pass o.Out := Shell.sh o

abbrev attempt (o : PassOp) : Pass (Done Signal o.Out) := Shell.attempt o

def log (line : String) : Pass Unit := sh (.log line)

/-! ## The exit handler -/

/-- `restore_udev`; its commands are followed by `|| true`. -/
def restoreUdev : Pass Unit := do
  let stopped ← attempt .testStopped
  if stopped.out then
    let _ ← attempt .unmask
    let _ ← attempt .daemonReload
    let _ ← attempt .start

/-! ## Before udev is touched -/

def secondPassKernels : List String := ["6.8.0-137-generic", "6.8.0-147-generic"]

/-- The tools with the reason they are asked for. -/
def requiredTools : List (String × String) :=
  [("lspci", "lspci is required"), ("setpci", "setpci is required"), ("nvidia-modprobe", "nvidia-modprobe is required"),
    ("fuser", "fuser (psmisc) is required"), ("flock", "flock is required")]

def checkHost : Pass Unit := do
  sh .setup
  let root ← attempt .testRoot
  orDie (root.status == 0) "must run as root"
  let release ← attempt .uname
  orDie (secondPassKernels.contains release.out) "this second-pass procedure is restricted to kernels 137 and 147"
  requiredTools.forM fun (tool, message) => do
    let found ← attempt (.commandV tool)
    orDie (found.status == 0) message
  sh .openLock
  let locked ← attempt .flock
  orDie (locked.status == 0) "another Gen2 initialization is running"

/-- `${word#0x}` -/
def dropHex : List Char → List Char
  | '0' :: 'x' :: cs => cs
  | cs => cs

def secondPassSubsystems : List (List Char) := ["10de:1554".toList, "1462:371f".toList]

def checkDevice (bdf : String) : Pass Unit := do
  let writable ← attempt (.testReset bdf)
  orDie (writable.status == 0) ("FLR is unavailable for " ++ bdf)
  let subvendor ← sh (.readSubvendor bdf)
  let subdevice ← sh (.readSubdevice bdf)
  orDie (secondPassSubsystems.contains (dropHex subvendor.toList ++ ':' :: dropHex subdevice.toList))
    ("unsupported subsystem at " ++ bdf)

/-- Both initializations: load the module, and wait for the GPUs. -/
def initializeGpus (expectedCount : Nat) (message : String) : Pass Unit := do
  sh .modprobe
  sh .nvidiaModprobe
  Script.repeatUntil (do
    let count ← attempt .countGpus
    if count.out = expectedCount then
      return true
    else
      sh .sleep
      return false) 60
  let count ← attempt .countGpus
  orDie (count.out == expectedCount) message

/-- `5.0 GT/s PCIe` -/
def gen2Speed : String := "5.0 GT/s PCIe"

/-- All links are at Gen2. -/
def allGen2 (devices : List String) : Pass Bool :=
  devices.foldlM (fun all bdf => do
    let speed ← sh (.readSpeed bdf)
    return all && speed == gen2Speed) true

/-- `[[ ${total} -ge 16000 ]]` -/
def largeEnough (total : Word) : Bool := total.number.elim false fun n => decide (16000 ≤ n)

/-- The exit after the first pass. -/
def firstPassDone (expectedCount : Nat) : Pass Unit := do
  let totals ← sh .readBar1Totals
  orDie (totals.length == expectedCount) "could not read BAR1 totals for every GPU"
  totals.forM fun total => orDie (largeEnough total) ("unexpected BAR1 total: " ++ total.text ++ " MiB")
  log ("PASS: " ++ toString expectedCount ++ " GPUs reached PCIe Gen2 on the first pass")
  throw 0

def checkDriverDevice (path : String) : Pass Unit := do
  let isLink ← attempt (.testDriverDevice path)
  if isLink.status ≠ 0 then
    return
  else
    let vendor ← sh (.readVendor path)
    let device ← sh (.readDevice path)
    orDie (vendor ++ ":" ++ device == "0x10de:0x1e09")
      "a non-CMP50 GPU uses nvidia; refusing the module-wide second pass"

def checkUnit (unit : UdevUnit) : Pass Unit := do
  let state ← attempt (.isEnabled unit)
  orDie (state.out != "masked" && state.out != "masked-runtime")
    (unit.name ++ " was already masked; refusing to alter its policy")

/-- Nobody else uses the driver, and udev is not masked. -/
def checkUsers : Pass Unit := do
  let paths ← attempt .listDriverDevices
  paths.out.forM checkDriverDevice
  sh .shoptNullglob
  sh .listNodes
  let used ← attempt .fuser
  orDie (used.status != 0) "NVIDIA device files are in use; stop GPU applications before the second pass"
  [UdevUnit.service, .controlSocket, .kernelSocket].forM checkUnit

/-- Everything before udev is touched; it returns the devices. -/
def prepare : Pass (List String) := do
  checkHost
  let devices ← sh .listDevices
  orDie (decide (0 < devices.length)) "no CMP 50HX devices found"
  devices.forM checkDevice
  initializeGpus devices.length "first pass did not initialize all GPUs"
  if ← allGen2 devices then
    firstPassDone devices.length
  checkUsers
  return devices

/-! ## The second pass -/

/-- udev is masked and stopped. -/
def stopUdev : Pass Unit := do
  sh .markStopped
  sh .mask
  sh .stop

def checkResult (bdf : String) : Pass Unit := do
  let speed ← sh (.readSpeed bdf)
  orDie (speed == gen2Speed) (bdf ++ " stayed at " ++ speed)
  match (← sh (.setpci bdf)).number with
  | none => throw 1
  | some rebarCtrl =>
    let rebarSize := (rebarCtrl >>> 8) &&& 0x1F
    orDie (rebarSize == 14) (bdf ++ " BAR1 ReBAR control stayed at encoding " ++ toString rebarSize)

/-- The cards are reset and initialized again. -/
def reinitialize (devices : List String) : Pass Unit := do
  devices.forM fun bdf => do
    let bound ← attempt (.testDriver bdf)
    if bound.status = 0 then
      sh (.unbind bdf)
  let _ ← attempt .modprobeRemove
  let loaded ← attempt .grepModules
  orDie (loaded.status != 0) "nvidia core module is still in use"
  devices.forM fun bdf => sh (.reset bdf)
  initializeGpus devices.length "second pass did not initialize all GPUs"
  devices.forM checkResult
  log ("PASS: " ++ toString devices.length ++ " GPUs are at PCIe Gen2 with 16 GiB BAR1")

/-- `cmp50-gen2-second-pass.sh`; it returns the exit status. -/
def secondPass : Prog PassOp (fun o => Done Signal (PassOp.Out o)) Nat :=
  Script.withExit (do
    let devices ← prepare
    stopUdev
    reinitialize devices) restoreUdev

end Cmp50Unlock.Scripts
