import Cmp50Unlock.IdleGovernor.Files
import Cmp50Unlock.Lib.Strconv

/-!
# The settings of the governor

The environment variables, how `main` and `New` read them, and what `main` goes on to do. An `int` and a
`time.Duration` have 64 bits.
-/

namespace Cmp50Unlock.IdleGovernor

open Lib

/-! ## The load clock and the core offset -/

def parseCoreOffset (value : String) : Except GoError (BitVec 32 × Bool) :=
  let value := trimSpace value
  if value = "" then .ok (0, false)
  else
    match parseInt 32 value.toList with
    | none => .error (.new "CMP_LOAD_CORE_OFFSET must be -2000..2000 MHz")
    | some parsed =>
        if parsed < -2000 ∨ parsed > 2000 then .error (.new "CMP_LOAD_CORE_OFFSET must be -2000..2000 MHz")
        else .ok (BitVec.ofInt 32 parsed, true)

/-- The body of the loop of `parseClock`. -/
def parseClockPart (part : List Char) : Except GoError Nat :=
  match parseUint 32 (trim isSpace part) with
  | none => .error (.new "CMP_LOAD_CLOCK must contain 100..5000 MHz")
  | some parsed =>
      if parsed < 100 ∨ parsed > 5000 then .error (.new "CMP_LOAD_CLOCK must contain 100..5000 MHz")
      else .ok parsed

def parseClock (value : String) : Except GoError (BitVec 32 × BitVec 32 × Bool) :=
  let value := trimSpace value
  if value = "" then .ok (0, 0, false)
  else
    let parts := value.toList.splitOn ','
    if parts.length > 2 then .error (.new "CMP_LOAD_CLOCK must be MHz or MIN,MAX")
    else
      match parts.mapM parseClockPart with
      | .error err => .error err
      | .ok values =>
          let first := values.getD 0 0
          let second := values.getD 1 0
          if values.length = 1 then .ok (BitVec.ofNat 32 first, BitVec.ofNat 32 first, true)
          else if first > second then .error (.new "CMP_LOAD_CLOCK minimum exceeds maximum")
          else .ok (BitVec.ofNat 32 first, BitVec.ofNat 32 second, true)

/-! ## `New` -/

/-- The argument of `New`. -/
structure Request where
  controlDirectory : String
  poll : BitVec 64
  idleAfter : Int
  utilThreshold : BitVec 32
  fanAutoTemp : BitVec 32
  loadClock : String
  loadCoreOffset : String

/-- A governor as `New` returns it. `Run` makes its `gpuTicker` with the period `poll`. -/
structure Controller where
  controlDirectory : String
  poll : BitVec 64
  config : Config
  governor : Governor

/-- The options that stay, with the default of `New`. -/
def Request.options (request : Request) : Options :=
  ⟨request.idleAfter, request.utilThreshold, if request.fanAutoTemp = 0 then 55 else request.fanAutoTemp⟩

def new (gpus : List GPU) (request : Request) : Except GoError Controller :=
  if request.poll.toInt ≤ 0 ∨ request.idleAfter ≤ 0 then
    .error (.new "poll duration and idle poll count must be positive")
  else
    match parseClock request.loadClock with
    | .error err => .error err
    | .ok (clockMin, clockMax, hasClock) =>
        match parseCoreOffset request.loadCoreOffset with
        | .error err => .error err
        | .ok (coreOffset, hasCoreOffset) =>
            let config : Config :=
              ⟨gpus, request.options, clockMin, clockMax, hasClock, coreOffset.toInt, hasCoreOffset⟩
            .ok ⟨request.controlDirectory, request.poll, config, newGovernor config⟩

/-! ## The environment -/

/-- `os.Getenv`: the value of a variable, empty where it is not set. -/
abbrev Environment := String → String

def env (environment : Environment) (name fallback : String) : String :=
  let value := trimSpace (environment name)
  if value ≠ "" then value else fallback

def envInt (environment : Environment) (name : String) (fallback : Int) : Except GoError Int :=
  let value := trimSpace (environment name)
  if value = "" then .ok fallback
  else
    match parseInt 64 value.toList with
    | none => .error (.new s!"{name} must be a positive integer")
    | some parsed => if parsed ≤ 0 then .error (.new s!"{name} must be a positive integer") else .ok parsed

/-- `time.Duration(seconds) * time.Second`, in nanoseconds. -/
def seconds (n : Int) : BitVec 64 := BitVec.ofInt 64 n * 1000000000

/-! ## `main` -/

/-- The command line. -/
structure Flags where
  version : Bool
  release : Bool
  controlDirectory : Option String

/-- The part of `main` that reads the environment. -/
def settings (flags : Flags) (environment : Environment) : Except GoError Request := do
  let poll ← envInt environment "CMP_POLL" 5
  let idleAfter ← envInt environment "CMP_IDLE_AFTER" 6
  let utilThreshold ← envInt environment "CMP_UTIL" 5
  let fanAutoTemp ← envInt environment "CMP_FAN_AUTO_TEMP" 55
  if utilThreshold > 100 ∨ fanAutoTemp > 120 then
    .error (.new "CMP_UTIL or CMP_FAN_AUTO_TEMP is out of range")
  else
    .ok {
      controlDirectory := flags.controlDirectory.getD
        (env environment "CMP50_POWER_CONTROL_DIR" "/opt/stacks/ai-server-manager/data/cmp50-power")
      poll := seconds poll
      idleAfter := idleAfter
      utilThreshold := BitVec.ofInt 32 utilThreshold
      fanAutoTemp := BitVec.ofInt 32 fanAutoTemp
      loadClock := environment "CMP_LOAD_CLOCK"
      loadCoreOffset := environment "CMP_LOAD_CORE_OFFSET" }

/-- What `main` calls. `fatal` is `log.Fatal`, which ends the process without its deferred calls. -/
inductive MainOp where
  | printVersion
  | openHardware
  | closeHardware
  | cleanup (controller : Controller)
  | run (controller : Controller)
  | fatal (err : GoError)

/-- The answer to a call. `openHardware` answers the GPUs of the host. -/
@[reducible] def MainOp.Ans : MainOp → Type
  | .openHardware => Except GoError (List GPU)
  | .cleanup _ | .run _ | .closeHardware => Option GoError
  | .printVersion | .fatal _ => Unit

abbrev MainEvent := (o : MainOp) × o.Ans

/-- Every answer is possible. The state is the log of the calls, the newest first. -/
def MainStep (o : MainOp) (log : List MainEvent) (a : o.Ans) (log' : List MainEvent) : Prop := log' = ⟨o, a⟩ :: log

abbrev Main := Prog MainOp MainOp.Ans

def fatal (err : GoError) : Main Nat := do
  Prog.lift (MainOp.fatal err)
  return 1

/-- Return from `main`, with the deferred `Close`. Its error is only logged. -/
def leave : Main Nat := do
  let _ ← Prog.lift MainOp.closeHardware
  return 0

/-- The part of `main` that has a governor. -/
def control (flags : Flags) (controller : Controller) : Main Nat := do
  if flags.release then
    match ← Prog.lift (MainOp.cleanup controller) with
    | some err => fatal err
    | none => leave
  else
    match ← Prog.lift (MainOp.run controller) with
    | some err => fatal err
    | none => leave

/-- `main`, with the exit status of the process. -/
def main (flags : Flags) (environment : Environment) : Main Nat := do
  if flags.version then
    Prog.lift MainOp.printVersion
    return 0
  else
    match settings flags environment with
    | .error err => fatal err
    | .ok request =>
        match ← Prog.lift MainOp.openHardware with
        | .error err => fatal (.wrap "initialize NVIDIA APIs" err)
        | .ok gpus =>
            match new gpus request with
            | .error err => fatal err
            | .ok controller => control flags controller

end Cmp50Unlock.IdleGovernor
