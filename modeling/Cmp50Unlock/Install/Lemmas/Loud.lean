import Cmp50Unlock.Install.Script
import Cmp50Unlock.Scripts.Lemmas.Shell

/-!
# The installer fails loudly

Only `--help` ends it with status 0 before its end.
-/

namespace Cmp50Unlock.Install

open Lib
open Lib.Script (Loud ends_pure ends_ite loud_when loud_forM loud_embed)
open Scripts.Shell (sh_loud attempt_loud orDie_loud test_loud)

variable {release : Release} {o : Options} {args : List String} {bdf message path backupDir : String}
  {m : Module} {p : Path}

/-! ## Checks -/

namespace Check

theorem checkOptions_loud : Loud (checkOptions o) := orDie_loud.bind fun _ => orDie_loud.bind fun _ => orDie_loud

theorem checkGen2_loud : Loud (checkGen2 release) := orDie_loud.bind fun _ => loud_forM (fun _ => test_loud) _

theorem checkDataDir_loud {dataDir : List Char} : Loud (checkDataDir dataDir) := orDie_loud.bind fun _ => orDie_loud

theorem checkRepoFile_loud : Loud (checkRepoFile path message) := test_loud

theorem checkGovernor_loud : Loud checkGovernor := by
  refine checkRepoFile_loud.bind fun _ => attempt_loud.bind fun _ => orDie_loud.bind fun _ => sh_loud.bind fun _ => ?_
  exact attempt_loud.bind fun _ => orDie_loud.bind fun _ => sh_loud.bind fun _ => test_loud

theorem checkFiles_loud : Loud (checkFiles o release) := by
  refine checkRepoFile_loud.bind fun _ => attempt_loud.bind fun _ => orDie_loud.bind fun _ => ?_
  refine (loud_when test_loud).bind fun _ => (loud_when checkRepoFile_loud).bind fun _ => ?_
  exact checkRepoFile_loud

theorem checkDevice_loud : Loud (checkDevice o bdf) := by
  refine attempt_loud.bind fun _ => orDie_loud.bind fun _ => sh_loud.bind fun _ => sh_loud.bind fun _ => ?_
  exact orDie_loud.bind fun _ => test_loud

theorem checkDevices_loud : Loud (checkDevices o) := by
  refine attempt_loud.bind fun _ => orDie_loud.bind fun _ => sh_loud.bind fun _ => orDie_loud.bind fun _ => ?_
  exact (loud_forM (fun _ => checkDevice_loud) _).bind fun _ => sh_loud.bind fun _ => test_loud

/-- The checks of options that have been read. -/
theorem checks_loud (hparse : parseOptions args defaultOptions = pure o) : Loud (checks release args) := by
  rw [checks, hparse, pure_bind]
  refine checkOptions_loud.bind fun _ => (loud_when checkGen2_loud).bind fun _ => attempt_loud.bind fun _ => ?_
  refine orDie_loud.bind fun _ => checkDataDir_loud.bind fun _ => checkFiles_loud.bind fun _ => ?_
  refine (loud_when checkGovernor_loud).bind fun _ => checkDevices_loud.bind fun _ => ?_
  exact ends_pure.mpr trivial

end Check

/-! ## Backup -/

namespace Back

theorem backUpFile_loud : Loud (backUpFile p) :=
  attempt_loud.bind fun _ => ends_ite.mpr ⟨fun _ => sh_loud, fun _ => ends_pure.mpr trivial⟩

theorem backUpModule_loud : Loud (backUpModule m) := by
  refine attempt_loud.bind fun oldPath => ?_
  cases oldPath.out with
  | none => exact ends_pure.mpr trivial
  | some names => exact backUpFile_loud

theorem announce_loud {managed : Bool} : Loud (announce managed backupDir) := sh_loud.bind fun _ => loud_when sh_loud

theorem backUpEnabled_loud : Loud backUpEnabled := attempt_loud.bind fun _ => loud_when sh_loud

theorem backUp_loud {managed : Bool} : Loud (backUp release managed) := by
  refine sh_loud.bind fun _ => sh_loud.bind fun _ => (loud_forM (fun _ => backUpModule_loud) _).bind fun _ => ?_
  refine (loud_forM (fun _ => backUpFile_loud) _).bind fun _ => backUpEnabled_loud.bind fun _ => ?_
  exact sh_loud.bind fun _ => sh_loud.bind fun _ => announce_loud.bind fun _ => ends_pure.mpr trivial

end Back

/-! ## The userspace -/

theorem installUserland_loud : Loud Userland.installUserland := by
  refine sh_loud.bind fun _ => attempt_loud.bind fun _ => (loud_when ?_).bind fun _ => sh_loud.bind fun _ => sh_loud
  exact sh_loud.bind fun _ => sh_loud.bind fun _ => sh_loud

/-! ## Changes -/

namespace Change

theorem checkUserspace_loud : Loud checkUserspace := sh_loud.bind fun _ => test_loud

theorem buildArtifact_loud : Loud (buildArtifact o release) :=
  attempt_loud.bind fun _ => (loud_when (sh_loud.bind fun _ => sh_loud)).bind fun _ => sh_loud

theorem installModule_loud : Loud (installModule m) :=
  attempt_loud.bind fun _ => ends_ite.mpr ⟨fun _ => ends_pure.mpr trivial, fun _ => sh_loud⟩

theorem installModules_loud : Loud installModules := sh_loud.bind fun _ => loud_forM (fun _ => installModule_loud) _

theorem installStage_loud : Loud (installStage o) := by
  refine ends_ite.mpr ⟨fun _ => ?_, fun _ => ends_ite.mpr ⟨fun _ => sh_loud, fun _ => sh_loud⟩⟩
  exact sh_loud.bind fun _ => sh_loud.bind fun _ => sh_loud.bind fun _ => sh_loud.bind fun _ => sh_loud

theorem removeService_loud : Loud (removeService o) := by
  refine loud_when (attempt_loud.bind fun _ => loud_when ?_)
  exact attempt_loud.bind fun _ => sh_loud.bind fun _ => sh_loud

theorem checkSelected_loud : Loud (checkSelected release backupDir) :=
  sh_loud.bind fun _ => attempt_loud.bind fun _ => orDie_loud.bind fun _ => test_loud

theorem installDriver_loud : Loud (installDriver o release backupDir) := by
  refine checkUserspace_loud.bind fun _ => buildArtifact_loud.bind fun _ => ?_
  refine installModules_loud.bind fun _ => installStage_loud.bind fun _ => removeService_loud.bind fun _ => ?_
  exact checkSelected_loud

theorem finish_loud : Loud (finish o) := by
  refine (loud_when sh_loud).bind fun _ => (loud_when ?_).bind fun _ => sh_loud
  exact attempt_loud.bind fun _ => orDie_loud.bind fun _ => sh_loud

end Change

/-! ## The script -/

theorem stageInstall_loud : Loud (stageInstall release o) := by
  refine (loud_embed InstallOp.backUp Back.backUp_loud).bind fun _ => ?_
  refine (loud_when (loud_embed InstallOp.userland installUserland_loud)).bind fun _ => ?_
  refine (loud_embed InstallOp.change Change.installDriver_loud).bind fun _ => (loud_when sh_loud).bind fun _ => ?_
  exact loud_embed InstallOp.change Change.finish_loud

theorem install_loud (hparse : Check.parseOptions args defaultOptions = pure o) : Loud (install release args) :=
  (loud_embed InstallOp.check (Check.checks_loud hparse)).bind fun _ =>
    stageInstall_loud.bind fun _ => ends_pure.mpr trivial

end Cmp50Unlock.Install
