import Cmp50Unlock.Lib.Prog

/-!
# The idle governor: its data

The GPUs that the hardware interface reports, the options, the control request, and the memory of the governor.
What a card itself is set to is here too: the governor never reads it back, it is what its commands are about.
-/

namespace Cmp50Unlock.IdleGovernor

/-! ## Errors -/

/-- A Go error, as far as anybody looks at it: its text, and whether it is `os.ErrNotExist`. -/
inductive GoError where
  /-- `errors.New`, and `fmt.Errorf` without `%w` -/
  | new (text : String)
  /-- an error of the system or of a library -/
  | ext (text : String) (notExist : Bool)
  /-- `fmt.Errorf("text: %w", err)` -/
  | wrap (text : String) (err : GoError)
  /-- `errors.Join` of two errors -/
  | join (err err' : GoError)
  deriving DecidableEq

/-- `errors.Is(err, os.ErrNotExist)` -/
def GoError.isNotExist : GoError → Bool
  | .new _ => false
  | .ext _ notExist => notExist
  | .wrap _ err => err.isNotExist
  | .join err err' => err.isNotExist || err'.isNotExist

/-- `err.Error()` -/
def GoError.text : GoError → String
  | .new text => text
  | .ext text _ => text
  | .wrap text err => text ++ ": " ++ err.text
  | .join err err' => err.text ++ "\n" ++ err'.text

/-- `errors.Join(result, err)`; a `nil` among them is left out. -/
def joinErrors : Option GoError → Option GoError → Option GoError
  | none, err => err
  | some err, none => some err
  | some err, some err' => some (.join err err')

/-- Wrap an error, if there is one. -/
def wrapError (text : String) (err : Option GoError) : Option GoError := err.map (.wrap text)

@[simp] theorem joinErrors_eq_none {err err' : Option GoError} :
    joinErrors err err' = none ↔ err = none ∧ err' = none := by
  cases err <;> cases err' <;> simp [joinErrors]

@[simp] theorem wrapError_eq_none {text : String} {err : Option GoError} : wrapError text err = none ↔ err = none := by
  simp [wrapError]

/-! ## What the governor is given -/

structure GPU where
  index : Int
  deviceID : BitVec 32
  subsystemID : BitVec 32
  memoryBytes : BitVec 64
  deriving DecidableEq

structure Options where
  idleAfter : Int
  utilThreshold : BitVec 32
  fanAutoTemp : BitVec 32

/-- The fields of a `Governor` that stay as `New` made them, with the answer of `hardware.GPUs()`. -/
structure Config where
  gpus : List GPU
  options : Options
  clockMin : BitVec 32
  clockMax : BitVec 32
  hasClock : Bool
  coreOffset : Int
  hasCoreOffset : Bool

structure Control where
  enabled : Bool
  profile : String
  idleFanPercent : Int
  deriving DecidableEq

/-- `Profiles`: the number of cards of each profile. -/
def profiles : List (String × Nat) :=
  [("cmp50-1x20gb", 1), ("cmp50-2x20gb", 2), ("cmp50-4x20gb", 4), ("cmp50-6x20gb", 6), ("cmp50-8x20gb", 8)]

/-- `Profiles[control.Profile]`, which is zero for a name that is not there. -/
def Control.count (control : Control) : Nat := (profiles.lookup control.profile).getD 0

/-! ## What the governor remembers -/

structure CardState where
  idlePolls : Int
  lowPower : Bool
  manualFan : Bool
  deriving DecidableEq

/-- `cardState{}` -/
def CardState.zero : CardState := ⟨0, false, false⟩

/-- The fields of a `Governor` that change. -/
structure Governor where
  states : Int → Option CardState
  control : Control
  active : Bool

namespace Governor

variable (g : Governor)

/-- What the governor remembers of a card. `poll` never asks for a card without an entry, where the code
would stop with a nil pointer. -/
def state (index : Int) : CardState := (g.states index).getD .zero

def update (index : Int) (f : CardState → CardState) : Governor :=
  { g with states := fun i => if index = i then (g.states i).map f else g.states i }

end Governor

/-- The governor that `New` makes. -/
def newGovernor (c : Config) : Governor where
  states index := if index ∈ c.gpus.map GPU.index then some .zero else none
  control := ⟨false, "", 0⟩
  active := false

/-! ## The commands to a card and what they set -/

/-- The setters of the `Hardware` interface. -/
inductive Call where
  | setPState (index pstate : Int)
  | resetLockedClocks (index : Int)
  | setLockedClocks (index : Int) (minimum maximum : BitVec 32)
  | setCoreOffset (index offset : Int)
  | setFan (index : Int) (percent : BitVec 32)
  | setFanAuto (index : Int)
  deriving DecidableEq

/-- The card that a command goes to. -/
def Call.index : Call → Int
  | .setPState index _ | .resetLockedClocks index | .setLockedClocks index _ _ | .setCoreOffset index _
  | .setFan index _ | .setFanAuto index => index

@[simp] theorem index_setPState (i p : Int) : (Call.setPState i p).index = i := rfl

@[simp] theorem index_resetLockedClocks (i : Int) : (Call.resetLockedClocks i).index = i := rfl

@[simp] theorem index_setLockedClocks (i : Int) (lo hi : BitVec 32) : (Call.setLockedClocks i lo hi).index = i := rfl

@[simp] theorem index_setCoreOffset (i offset : Int) : (Call.setCoreOffset i offset).index = i := rfl

@[simp] theorem index_setFan (i : Int) (percent : BitVec 32) : (Call.setFan i percent).index = i := rfl

@[simp] theorem index_setFanAuto (i : Int) : (Call.setFanAuto i).index = i := rfl

inductive Fan where
  | auto
  | manual (percent : BitVec 32)
  deriving DecidableEq

inductive Clocks where
  | default
  | locked (minimum maximum : BitVec 32)
  deriving DecidableEq

/-- What a card is set to. -/
structure Card where
  pstate : Int
  fan : Fan
  clocks : Clocks
  coreOffset : Int
  deriving DecidableEq

/-- A command that succeeds. -/
def Card.apply (card : Card) : Call → Card
  | .setPState _ pstate => { card with pstate := pstate }
  | .resetLockedClocks _ => { card with clocks := .default }
  | .setLockedClocks _ minimum maximum => { card with clocks := .locked minimum maximum }
  | .setCoreOffset _ offset => { card with coreOffset := offset }
  | .setFan _ percent => { card with fan := .manual percent }
  | .setFanAuto _ => { card with fan := .auto }

/-- A command with its error: when it fails, the card stays as it is. -/
def Card.step (card : Card) (call : Call) : Option GoError → Card
  | none => card.apply call
  | some _ => card

end Cmp50Unlock.IdleGovernor
