import Cmp50Unlock.IdleGovernor.World
import Cmp50Unlock.Lib.Goto
import Cmp50Unlock.Lib.Loop

/-!
# The governor

The functions of the governor as programs, in the order in which they use each other. The log messages are left
out: nothing reads them.
-/

namespace Cmp50Unlock.IdleGovernor

open Lib

/-- The P-state that stands for automatic control. -/
def autoPState : Int := 16

/-- 20 GiB, and how far a 20 GB card may be from it. -/
def gib20 : BitVec 64 := 20 * 1024 * 1024 * 1024

def gib20Tolerance : BitVec 64 := 512 * 1024 * 1024

section
variable (c : Config)

/-! ## The check of a request -/

/-- What `validate` checks of the GPU at a position of the list. -/
def validateGPU (index : Nat) (gpu : GPU) : Option GoError :=
  let vendor := gpu.subsystemID &&& 0xffff
  let device := gpu.subsystemID >>> 16
  if gpu.index ≠ index then
    some (.new "profile requires contiguous NVIDIA GPU indices starting at 0")
  else if gpu.deviceID ≠ 0x1e09 then
    some (.new s!"GPU {index} is not CMP 50HX (device {hexDigits 4 gpu.deviceID.toNat})")
  else if ¬((vendor = 0x10de ∧ device = 0x1554) ∨ (vendor = 0x1462 ∧ device = 0x371f)) then
    some (.new s!"GPU {index} has unsupported subsystem {hexDigits 4 vendor.toNat}:{hexDigits 4 device.toNat}")
  else if gpu.memoryBytes < gib20 - gib20Tolerance ∨ gpu.memoryBytes > gib20 + gib20Tolerance then
    some (.new s!"GPU {index} is not the 20 GB variant")
  else none

def validate (control : Control) : Option GoError :=
  if c.gpus.length < control.count then
    some (.new s!"profile requires {control.count} GPUs, only {c.gpus.length} found")
  else (c.gpus.take control.count).zipIdx.findSome? fun (gpu, index) => validateGPU index gpu

/-! ## Release -/

def restoreClocks (index : Int) : Gov (Option GoError) :=
  if c.hasClock then call (.setLockedClocks index c.clockMin c.clockMax) else call (.resetLockedClocks index)

def restoreCoreOffset (index : Int) : Gov (Option GoError) :=
  if ¬ c.hasCoreOffset then pure none else call (.setCoreOffset index c.coreOffset)

/-- The end of every release: the P-state, the offset and the clocks, whatever failed before them. -/
def restore (index : Int) (result : Option GoError) : Gov (Option GoError) := do
  let result := joinErrors result (← call (.setPState index autoPState))
  let result := joinErrors result (← restoreCoreOffset c index)
  let result := joinErrors result (← restoreClocks c index)
  assign (.clear index)
  return result

def release (index : Int) : Gov (Option GoError) := do
  let state := (← getGov).state index
  let fanErr ← (if state.manualFan then call (.setFanAuto index) else pure none)
  return wrapError s!"GPU {index} release" (← restore c index (joinErrors none fanErr))

/-- The body of the loop of `releaseAll`. The error is only logged. -/
def releaseHeld (index : Int) : Gov PUnit := do
  let state := (← getGov).state index
  if state.lowPower || state.manualFan then do
    let _ ← release c index
  else pure ()

def releaseAll : Gov PUnit := do
  (← rangeStates).forM (releaseHeld c)

/-- The cards that `Cleanup` releases. -/
def GPU.Supported (gpu : GPU) : Prop :=
  let vendor := gpu.subsystemID &&& 0xffff
  let device := gpu.subsystemID >>> 16
  gpu.deviceID = 0x1e09 ∧ ((vendor = 0x10de ∧ device = 0x1554) ∨ (vendor = 0x1462 ∧ device = 0x371f)) ∧
    (gpu.memoryBytes ≥ gib20 - gib20Tolerance ∧ gpu.memoryBytes ≤ gib20 + gib20Tolerance)

instance (gpu : GPU) : Decidable gpu.Supported :=
  inferInstanceAs (Decidable (_ ∧ (_ ∧ _ ∨ _ ∧ _) ∧ (_ ∧ _)))

/-- The body of the loop of `Cleanup`, with the errors joined so far. -/
def cleanupGPU (result : Option GoError) (gpu : GPU) : Gov (Option GoError) :=
  if ¬ gpu.Supported then pure result
  else do restore c gpu.index (joinErrors result (← call (.setFanAuto gpu.index)))

def cleanup : Gov (Option GoError) := c.gpus.foldlM (cleanupGPU c) none

def disable : Gov Unit := do
  releaseAll c
  assign .deactivate
  let _ ← publishInactive

/-- The error that `fail` publishes. -/
def safetyError (err : GoError) : Option GoError → GoError
  | some cleanupErr => .join err (.wrap "safety cleanup" cleanupErr)
  | none => err

def fail (err : GoError) : Gov Unit := do
  let cleanupErr ← cleanup c
  assign .deactivate
  publishError (safetyError err cleanupErr)

/-! ## The control request -/

/-- The part of `syncControl` that applies a new request. -/
def applyControl (control : Control) : Gov (Option GoError) := do
  releaseAll c
  assign (.activate control)
  match ← publishActive control with
  | some err =>
      assign .deactivate
      return some (.wrap "publish active status" err)
  | none => return none

/-- The part of `syncControl` after an enabled request was loaded. -/
def changeControl (control : Control) : Gov (Option GoError) := do
  let g ← getGov
  if g.active ∧ control = g.control then return none
  else
    match validate c control with
    | some err => return some err
    | none => applyControl c control

def syncControl : Gov (Option GoError) := do
  match ← load with
  | .error err => return some err
  | .ok control =>
      if ¬ control.enabled then do
        disable c
        return none
      else changeControl c control

/-! ## Polling -/

/-- The part of `poll` for a card that is busy. -/
def pollBusy (index : Int) : Gov (Option GoError) := do
  assign (.idlePolls index 0)
  let state := (← getGov).state index
  if state.lowPower || state.manualFan then release c index else return none

/-- Force P8, with the clocks and the offset out of the way. -/
def forceP8 (index : Int) : Gov (Option GoError) := do
  match ← call (.setPState index 8) with
  | some err =>
      let _ ← restoreClocks c index
      let _ ← restoreCoreOffset c index
      return some (.wrap s!"GPU {index} force P8" err)
  | none =>
      assign (.lowPower index)
      return none

/-- Reset the clocks and force P8. -/
def resetClocks (index : Int) : Gov (Option GoError) := do
  match ← call (.resetLockedClocks index) with
  | some err =>
      let _ ← restoreCoreOffset c index
      return some (.wrap s!"GPU {index} reset clocks" err)
  | none => forceP8 c index

/-- The part of `poll` that puts a card into P8. -/
def lowPower (index : Int) : Gov (Option GoError) := do
  match ← (if c.hasCoreOffset then call (.setCoreOffset index 0) else pure none) with
  | some err => return some (.wrap s!"GPU {index} clear core offset" err)
  | none => resetClocks c index

/-- The fan of a card in P8, at a temperature. -/
def idleFan (index : Int) (g : Governor) (temperature : BitVec 32) : Gov (Option GoError) := do
  if temperature ≥ c.options.fanAutoTemp then
    if (g.state index).manualFan then
      match ← call (.setFanAuto index) with
      | some err => return some (.wrap s!"GPU {index} automatic fan" err)
      | none =>
          assign (.manualFan index false)
          return none
    else return none
  else if ¬ (g.state index).manualFan then
    match ← call (.setFan index (BitVec.ofInt 32 g.control.idleFanPercent)) with
    | some err => return some (.wrap s!"GPU {index} idle fan" err)
    | none =>
        assign (.manualFan index true)
        return none
  else return none

/-- The part of `poll` that sets the fan of a card. -/
def pollFan (index : Int) : Gov (Option GoError) := do
  let g ← getGov
  if (g.state index).lowPower ∧ g.control.idleFanPercent > 0 then
    match ← temperature index with
    | .error err => return some (.wrap s!"GPU {index} temperature" err)
    | .ok temperature => idleFan c index g temperature
  else return none

/-- The part of `poll` for a card that is idle. -/
def pollIdle (index : Int) : Gov (Option GoError) := do
  assign (.idlePolls index (((← getGov).state index).idlePolls + 1))
  let state := (← getGov).state index
  match ← (if !state.lowPower && state.idlePolls ≥ c.options.idleAfter then lowPower c index else pure none) with
  | some err => return some err
  | none => pollFan c index

/-- The body of the loop of `poll`. -/
def pollCard (index : Int) : Gov (Option GoError) := do
  match ← utilization index with
  | .error err => return some (.wrap s!"GPU {index} utilization" err)
  | .ok utilization =>
      if utilization > c.options.utilThreshold then pollBusy c index else pollIdle c index

/-- The cards of the current profile. -/
def Control.indices (control : Control) : List Int := (List.range control.count).map Int.ofNat

def poll : Gov (Option GoError) := do
  Prog.each (pollCard c) (← getGov).control.indices

/-! ## The loop -/

/-- The first look at the request. A missing one is no failure. -/
def startup : Gov Unit := do
  match ← syncControl c with
  | some err => if ¬ err.isNotExist then fail c err else pure ()
  | none => pure ()

def controlTick : Gov Unit := do
  match ← syncControl c with
  | some err => if err.isNotExist then disable c else fail c err
  | none => pure ()

def gpuTick : Gov Unit := do
  if (← getGov).active then
    match ← poll c with
    | some err => fail c err
    | none => pure ()
  else pure ()

/-- The places in `Run` that are of interest: its entry, after the first `Cleanup`, and the `select`. -/
inductive Label where
  | entry
  | startup
  | wait
  deriving DecidableEq

/-- `Run`, with the deferred `Cleanup` where it returns. It always returns `nil`. -/
def run : Label → Gov (Exit Label Unit)
  | .entry => do
      let _ ← cleanup c
      return .goto .startup
  | .startup => do
      startup c
      return .goto .wait
  | .wait => do
      match ← select with
      | .done =>
          let _ ← cleanup c
          return .ret ()
      | .controlTicker =>
          controlTick c
          return .goto .wait
      | .gpuTicker =>
          gpuTick c
          return .goto .wait

/-! ## Runs -/

/-- The state in which `Run` is called, whatever an earlier process left on the cards and in the directory. -/
def start (cards : Int → Card) (dir : Dir) : World := ⟨newGovernor c, cards, dir, []⟩

/-- With answers of `A`, a run of the governor comes to `l` in `w`. -/
abbrev ComesTo (A : Answers) (cards : Int → Card) (dir : Dir) (l : Label) (w : World) : Prop :=
  Goto.Reaches (Step A) (run c) .entry (start c cards dir) l w

/-- With answers of `A`, a run of the governor ends in `w`. -/
abbrev Ends (A : Answers) (cards : Int → Card) (dir : Dir) (w : World) : Prop :=
  Goto.Call (Step A) (run c) .entry (start c cards dir) () w

/-- With answers of `A`, a run of the governor comes to issue `o` in `w`. -/
abbrev Issues (A : Answers) (cards : Int → Card) (dir : Dir) (o : Op) (w : World) : Prop :=
  Goto.Issues (Step A) (run c) .entry (start c cards dir) o w

end

end Cmp50Unlock.IdleGovernor
