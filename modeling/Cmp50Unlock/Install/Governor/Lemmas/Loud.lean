import Cmp50Unlock.Install.Governor.Script
import Cmp50Unlock.Scripts.Lemmas.Shell

/-!
# The governor's installer fails loudly
-/

namespace Cmp50Unlock.Install.Governor

open Lib
open Lib.Script (Loud ends_pure ends_ite loud_when loud_forM loud_embed loud_onExit)
open Scripts.Shell (sh_loud attempt_loud orDie_loud test_loud)

variable {o : Options} {args : List String} {message : String} {profile : List Char} {startNow : Bool}

namespace Check

theorem checkHost_loud : Loud (checkHost o) := by
  refine attempt_loud.bind fun _ => orDie_loud.bind fun _ => attempt_loud.bind fun _ => orDie_loud.bind fun _ => ?_
  exact orDie_loud.bind fun _ => loud_forM (fun _ => test_loud) _

theorem takeLock_loud : Loud takeLock := sh_loud.bind fun _ => test_loud

theorem checkProfile_loud : Loud checkProfile :=
  sh_loud.bind fun _ => attempt_loud.bind fun _ => orDie_loud.bind fun _ => ends_pure.mpr trivial

theorem checkBinary_loud : Loud checkBinary :=
  attempt_loud.bind fun _ => orDie_loud.bind fun _ => sh_loud.bind fun _ => test_loud

/-- The checks of options that have been read. -/
theorem checks_loud (hparse : parseOptions args defaultOptions = pure o) : Loud (checks args) := by
  rw [checks, hparse, pure_bind]
  refine checkHost_loud.bind fun _ => takeLock_loud.bind fun _ => checkProfile_loud.bind fun _ => ?_
  refine checkBinary_loud.bind fun _ => (loud_when test_loud).bind fun _ => test_loud.bind fun _ => ?_
  exact ends_pure.mpr trivial

end Check

namespace Control

theorem testControl_loud : Loud testControl :=
  sh_loud.bind fun _ => attempt_loud.bind fun _ => ends_pure.mpr trivial

theorem placeControl_loud : Loud (placeControl o profile) :=
  sh_loud.bind fun _ => sh_loud.bind fun _ => sh_loud.bind fun _ => sh_loud.bind fun _ => sh_loud

end Control

namespace Settings

theorem placeEnvironment_loud : Loud (placeEnvironment o) := by
  refine attempt_loud.bind fun _ => ends_ite.mpr ⟨fun _ => sh_loud.bind fun _ => sh_loud, fun _ => ?_⟩
  exact attempt_loud.bind fun _ => orDie_loud

end Settings

namespace Service

theorem stopGovernor_loud : Loud (stopGovernor startNow) := by
  refine attempt_loud.bind fun _ => ends_ite.mpr ⟨fun _ => ?_, fun _ => ends_pure.mpr trivial⟩
  exact sh_loud.bind fun _ => ends_pure.mpr trivial

theorem installFiles_loud : Loud installFiles := by
  refine sh_loud.bind fun _ => sh_loud.bind fun _ => attempt_loud.bind fun _ => (loud_when ?_).bind fun _ => ?_
  · exact sh_loud.bind fun _ => sh_loud
  · exact sh_loud.bind fun _ => sh_loud

theorem startGovernor_loud : Loud (startGovernor startNow) := by
  refine ends_ite.mpr ⟨fun _ => ?_, fun _ => sh_loud⟩
  exact sh_loud.bind fun _ => sh_loud.bind fun _ => attempt_loud.bind fun _ => orDie_loud.bind fun _ => sh_loud

theorem installService_loud : Loud (installService o) :=
  stopGovernor_loud.bind fun _ => installFiles_loud.bind fun _ => startGovernor_loud

end Service

theorem finish_loud : Loud (finish o) :=
  (loud_embed InstallOp.environment Settings.placeEnvironment_loud).bind fun _ =>
    loud_embed InstallOp.service Service.installService_loud

theorem changes_loud : Loud (changes o profile) := by
  refine (loud_embed InstallOp.control Control.testControl_loud).bind fun _ =>
    ends_ite.mpr ⟨fun _ => ?_, fun _ => finish_loud⟩
  refine (loud_embed InstallOp.control sh_loud).bind fun _ => loud_onExit ?_ (loud_embed InstallOp.control sh_loud)
  exact (loud_embed InstallOp.control Control.placeControl_loud).bind fun _ => finish_loud

theorem install_loud (hparse : Check.parseOptions args defaultOptions = pure o) : Loud (install args) :=
  (loud_embed InstallOp.check (Check.checks_loud hparse)).bind fun _ => changes_loud.bind fun _ => ends_pure.mpr trivial

end Cmp50Unlock.Install.Governor
