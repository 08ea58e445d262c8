import Cmp50Unlock.Lib.Script

/-!
# The shell of the scripts

What the scripts have in common: the traps for signals, `set -e`, and `die`.
-/

namespace Cmp50Unlock.Scripts

open Lib

inductive Signal where
  | int
  | term
  deriving DecidableEq

/-- `trap 'exit 130' INT` and `trap 'exit 143' TERM` -/
def exitStatus : Signal → Nat
  | .int => 130
  | .term => 143

namespace Shell

variable {Op : Type} {Out : Op → Type} {α : Type}

/-- A command under `set -e`. -/
abbrev sh (o : Op) : Script Op Signal Out (Out o) := Script.sh exitStatus o

/-- A command whose status is tested or ignored. -/
abbrev attempt (o : Op) : Script Op Signal Out (Done Signal (Out o)) := Script.attempt exitStatus o

variable [Script.Stderr Op]

/-- A message on stderr and `exit`. -/
abbrev exitWith (status : Nat) (message : String) : Script Op Signal Out α := Script.fail exitStatus status message

/-- `test || exit`, with a message -/
abbrev orExit (holds : Bool) (status : Nat) (message : String) : Script Op Signal Out Unit :=
  Script.orFail exitStatus holds status message

abbrev die (message : String) : Script Op Signal Out α := exitWith 1 ("ERROR: " ++ message)

/-- `test || die message` -/
abbrev orDie (holds : Bool) (message : String) : Script Op Signal Out Unit := orExit holds 1 ("ERROR: " ++ message)

/-- `${2:?message}` with no second argument, or an empty one -/
abbrev missing (message : String) : Script Op Signal Out α := exitWith 1 message

end Shell

end Cmp50Unlock.Scripts
