import Cmp50Unlock.Install.Answer
import Cmp50Unlock.Install.Governor.Spec

/-!
# Commands of the governor's installer that do not fail

A computable host on which no command fails or is interrupted, unless its documentation says so. The panel does nothing,
and the governor is not running.
-/

namespace Cmp50Unlock.Install.Governor

open Lib
open Scripts (Signal governorProfile)

variable (h : Host)

def Host.check : (o : CheckOp) → Done Signal o.Out
  | .testRoot => ⟨statusOf h.root, (), none⟩
  | .unameM => ⟨0, h.machine, none⟩
  | .commandV tool => ⟨statusOf (h.tools tool), (), none⟩
  | .governorProfile => ⟨(governorProfile h.lspci h.sysfs).status, (governorProfile h.lspci h.sysfs).stdout, none⟩
  | .testBinary => ⟨statusOf h.binary.isSome, (), none⟩
  | .verifyBundle => ⟨statusOf h.verified, (), none⟩
  | .binaryVersion => ⟨statusOf h.executes, (), none⟩
  | .queryDriver => ⟨statusOf h.driverReady, (), none⟩
  | .testLinks dataDir => ⟨statusOf !h.linked dataDir, (), none⟩
  | .logError _ | .usage | .openLock | .flock | .sourceProfile => ⟨0, (), none⟩

/-- The command has this status, and the state changes if it is zero. -/
def World.answer (w : World) (holds : Bool) (w' : World) : Done Signal Unit × World :=
  (⟨statusOf holds, (), none⟩, if holds then w' else w)

def Host.control : ControlOp → World → Done Signal Unit × World
  | .createDir, w => w.answer true { w with directory := some (w.directory.getD rootOwner) }
  | .testControl, w => w.answer (current w.requests).isNone w
  | .mktemp, w => w.answer true { w with temp := some ⟨"", 0o600, rootOwner⟩ }
  | .writeTemp document, w => w.answer true { w with temp := w.temp.map fun file => { file with content := document } }
  | .chmodTemp, w => w.answer true { w with temp := w.temp.map fun file => { file with mode := 0o644 } }
  | .chown dataDir, w => w.answer true { w with
      directory := w.directory.map fun _ => h.dataOwner dataDir
      temp := w.temp.map fun file => { file with owner := h.dataOwner dataDir } }
  | .link, w => w.answer (current w.requests).isNone { w with requests := ⟨.installer, w.temp⟩ :: w.requests }
  | .removeTemp, w => w.answer true { w with temp := none }

/-- A line is in the environment. -/
def World.namesLine (w : World) (line : List Char) : Bool :=
  w.environment.any fun environment => environment.lines.contains line

def settled : EnvironmentOp → World → Done Signal Unit × World
  | .logError _, w => w.answer true w
  | .testEnvironment, w => w.answer w.environment.isNone w
  | .writeEnvironment line, w => w.answer true { w with environment := some ⟨[line], 0o600⟩ }
  | .chmodEnvironment, w =>
      w.answer true { w with environment := w.environment.map fun environment => { environment with mode := 0o644 } }
  | .grepEnvironment line, w => w.answer (w.namesLine line) w

def Host.serve : ServiceOp → World → Done Signal Unit × World
  | .isActive, w => w.answer false w
  | .installBinary, w => w.answer h.binary.isSome { w with binary := h.binary.map fun content => ⟨content, 0o755⟩ }
  | .installUnit, w => w.answer true { w with unit := some ⟨h.unit, 0o644⟩ }
  | .catLegacy, w => w.answer (w.legacy || h.vendorLegacy) w
  | .removeLegacy, w => w.answer true { w with legacy := false }
  | .enable, w => w.answer true { w with enabled := true }
  | .log _, w | .logError _, w | .stop, w | .disableLegacy, w | .daemonReload, w | .start, w | .sleep, w =>
      w.answer true w

/-- The answer to a command, and what it does. -/
def Host.answer : (o : InstallOp) → World → Done Signal o.Out × World
  | .check o, w => (h.check o, { w with log := ⟨.check o, h.check o⟩ :: w.log })
  | .control o, w => ((h.control o w).1, { (h.control o w).2 with log := ⟨.control o, (h.control o w).1⟩ :: w.log })
  | .environment o, w => ((settled o w).1, { (settled o w).2 with log := ⟨.environment o, (settled o w).1⟩ :: w.log })
  | .service o, w => ((h.serve o w).1, { (h.serve o w).2 with log := ⟨.service o, (h.serve o w).1⟩ :: w.log })

/-! ## These are among the runs that are considered -/

variable {h} {w : World}

theorem known_check (o : CheckOp) : h.Says o (h.check o) := by
  cases o with
  | testRoot | commandV | testBinary | queryDriver => exact statusOf_eq_zero
  | verifyBundle | binaryVersion => exact statusOf_eq_zero.mp
  | testLinks dataDir => simp [Host.Says, Host.check]
  | unameM => rfl
  | governorProfile => exact ⟨rfl, rfl⟩
  | _ => trivial

theorem answer_succeeded {holds : Bool} {w' : World} (hstatus : (w.answer holds w').1.status = 0) :
    holds = true ∧ (w.answer holds w').2 = w' := by
  have hholds : holds = true := statusOf_eq_zero.mp hstatus
  exact ⟨hholds, if_pos hholds⟩

theorem answer_failed {holds : Bool} {w' : World} (hstatus : (w.answer holds w').1.status ≠ 0) :
    (w.answer holds w').2 = w :=
  if_neg fun hholds => hstatus (statusOf_eq_zero.mpr hholds)

theorem control_answer (o : ControlOp) : ControlStep h o w (h.control o w).1 (h.control o w).2 := by
  refine ⟨fun hstatus => ?_, fun hstatus => ?_, fun _ ho => ?_⟩
  · cases o with
    | link => exact ⟨Option.isNone_iff_eq_none.mp (answer_succeeded hstatus).1, (answer_succeeded hstatus).2⟩
    | _ => exact (answer_succeeded hstatus).2
  · cases o with
    | link => exact .inl (answer_failed hstatus)
    | testControl => exact answer_failed hstatus
    | _ => exact absurd rfl hstatus
  · subst ho
    exact statusOf_eq_zero.trans Option.isNone_iff_eq_none

theorem settle_answer (o : EnvironmentOp) : EnvironmentStep o w (settled o w).1 (settled o w).2 := by
  refine ⟨fun hstatus => ?_, fun hstatus => ?_, fun _ => ?_⟩
  · cases o with
    | writeEnvironment line => exact ⟨0o600, (answer_succeeded hstatus).2⟩
    | _ => exact (answer_succeeded hstatus).2
  · cases o with
    | testEnvironment | grepEnvironment => exact answer_failed hstatus
    | _ => exact absurd rfl hstatus
  · cases o with
    | testEnvironment => exact statusOf_eq_zero.trans Option.isNone_iff_eq_none
    | grepEnvironment line =>
        refine statusOf_eq_zero.trans ?_
        cases henvironment : w.environment <;> simp [World.namesLine, World.Names, henvironment]
    | _ => trivial

theorem serve_answer (o : ServiceOp) : ServiceStep h o w (h.serve o w).1 (h.serve o w).2 := by
  refine ⟨fun hstatus => ?_, fun hstatus => ?_, fun _ ho => ?_⟩
  · cases o with
    | installBinary =>
        obtain ⟨content, hcontent⟩ := Option.isSome_iff_exists.mp (answer_succeeded hstatus).1
        refine ⟨content, hcontent, (answer_succeeded hstatus).2.trans ?_⟩
        rw [hcontent]
        rfl
    | _ => exact (answer_succeeded hstatus).2
  · cases o with
    | installBinary => exact ⟨w.binary, answer_failed hstatus⟩
    | isActive | catLegacy => exact answer_failed hstatus
    | _ => exact absurd rfl hstatus
  · subst ho
    refine statusOf_eq_zero.trans ?_
    rw [Bool.or_eq_true]

variable (h)

theorem step_answer (o : InstallOp) (w : World) : InstallStep h o w (h.answer o w).1 (h.answer o w).2 := by
  cases o with
  | check o => exact ⟨w.requests, w, ⟨[], rfl, by simp⟩, ⟨fun _ => known_check o, rfl⟩, rfl⟩
  | control o => exact ⟨w.requests, _, ⟨[], rfl, by simp⟩, control_answer o, rfl⟩
  | environment o => exact ⟨w.requests, _, ⟨[], rfl, by simp⟩, settle_answer o, rfl⟩
  | service o => exact ⟨w.requests, _, ⟨[], rfl, by simp⟩, serve_answer o, rfl⟩

theorem installs_answer (args : List String) (w : World) :
    Installs h args w ((install args).run.interp h.answer w.begin).1 ((install args).run.interp h.answer w.begin).2 :=
  Prog.exec_interp id (step_answer h) _ _

end Cmp50Unlock.Install.Governor
