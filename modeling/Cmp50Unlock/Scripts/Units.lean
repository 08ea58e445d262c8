import Cmp50Unlock.Scripts.SecondPass

/-!
# The udev units

The log of a second pass, the newest event first, and what it says of the units. udev is given up when the script marks
it as stopped, right before the first command on the units.
-/

namespace Cmp50Unlock.Scripts

open Lib

/-- A command with its end. -/
abbrev PassEvent := (o : PassOp) × Done Signal o.Out

structure PassWorld where
  /-- `udev_stopped` -/
  stopped : Bool
  log : List PassEvent

/-- The test reads the variable; everything else is open. -/
def PassWorld.Admits (w : PassWorld) : (o : PassOp) → Done Signal o.Out → Prop
  | .testStopped, d => d.out = w.stopped
  | _, _ => True

def PassWorld.after (w : PassWorld) (o : PassOp) (d : Done Signal o.Out) : PassWorld :=
  ⟨w.stopped || o == .markStopped, ⟨o, d⟩ :: w.log⟩

/-- One command. -/
def PassStep (o : PassOp) (w : PassWorld) (d : Done Signal o.Out) (w' : PassWorld) : Prop :=
  w.Admits o d ∧ w' = w.after o d

/-- The script at its start. -/
def PassWorld.start : PassWorld := ⟨false, []⟩

/-- A command that changes the units. -/
def PassOp.onUnits : PassOp → Bool
  | .mask | .stop | .unmask | .daemonReload | .start => true
  | _ => false

/-- A command of the exit handler. -/
def PassOp.ofHandler : PassOp → Bool
  | .testStopped | .unmask | .daemonReload | .start => true
  | _ => false

/-- A command whose failure no test looks at and no `|| true` takes away. -/
def PassOp.isStep : PassOp → Bool
  | .setup | .openLock | .listDevices | .readSubvendor _ | .readSubdevice _ | .modprobe | .nvidiaModprobe | .sleep
  | .readSpeed _ | .readBar1Totals | .log _ | .logError _ | .readVendor _ | .readDevice _ | .shoptNullglob | .listNodes
  | .markStopped | .mask | .stop | .unbind _ | .reset _ | .setpci _ => true
  | _ => false

/-- A step failed, or a signal was received. -/
def PassEvent.Bad (event : PassEvent) : Prop :=
  event.2.signal ≠ none ∨ (event.1.isStep = true ∧ event.2.status ≠ 0)

/-- The script has given up udev. -/
def Begun (log : List PassEvent) : Prop := ∃ d, ⟨.markStopped, d⟩ ∈ log

/-- The last commands on the units have unmasked them, reloaded the daemon and started them, each with success. -/
def UnitsRestored (log : List PassEvent) : Prop :=
  ∃ unmasked reloaded started earlier, log.filter (fun event => event.1.onUnits) =
    ⟨.start, started⟩ :: ⟨.daemonReload, reloaded⟩ :: ⟨.unmask, unmasked⟩ :: earlier ∧
    started.status = 0 ∧ reloaded.status = 0 ∧ unmasked.status = 0

/-- How a run should end. -/
structure UdevKept (status : Nat) (log : List PassEvent) : Prop where
  restored : Begun log → UnitsRestored log
  untouched : ¬ Begun log → ∀ event ∈ log, event.1.onUnits = false
  failure : (∃ event ∈ log, PassEvent.Bad event) → status ≠ 0

/-- A command of the handler on the units fails, or a signal arrives before the last of them. -/
def PassEvent.Disturbs : PassEvent → Prop
  | ⟨.testStopped, d⟩ => d.signal ≠ none
  | ⟨.unmask, d⟩ => d.signal ≠ none ∨ d.status ≠ 0
  | ⟨.daemonReload, d⟩ => d.signal ≠ none ∨ d.status ≠ 0
  | ⟨.start, d⟩ => d.status ≠ 0
  | _ => False

/-- Once udev is given up, nothing disturbs the handler. -/
def HandlerUndisturbed (log : List PassEvent) : Prop := Begun log → ∀ event ∈ log, ¬ PassEvent.Disturbs event

end Cmp50Unlock.Scripts
