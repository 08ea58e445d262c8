import Cmp50Unlock.Lib.Loud
import Cmp50Unlock.Scripts.Shell

/-!
# The shell of the scripts fails loudly
-/

namespace Cmp50Unlock.Scripts

open Lib
open Lib.Script (Loud loud_sh loud_attempt loud_orFail)

theorem exitStatus_ne_zero (s : Signal) : exitStatus s ≠ 0 := by cases s <;> decide

namespace Shell

variable {Op : Type} {Out : Op → Type} {o : Op}

theorem sh_loud : Loud (sh o : Script Op Signal Out _) := loud_sh exitStatus_ne_zero

theorem attempt_loud : Loud (attempt o : Script Op Signal Out _) := loud_attempt exitStatus_ne_zero

variable [Script.Stderr Op] {message : String}

theorem orDie_loud {holds : Bool} : Loud (orDie holds message : Script Op Signal Out Unit) :=
  loud_orFail exitStatus_ne_zero Nat.one_ne_zero

/-- `command || die message` -/
theorem test_loud {f : Done Signal (Out o) → Bool} :
    Loud (do let done ← attempt o; orDie (f done) message : Script Op Signal Out Unit) :=
  attempt_loud.bind fun _ => orDie_loud

end Shell

end Cmp50Unlock.Scripts
