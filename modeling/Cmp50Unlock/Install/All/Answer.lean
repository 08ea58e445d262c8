import Cmp50Unlock.Install.All.World
import Cmp50Unlock.Install.Governor.Answer

/-!
# Installers that are not interrupted

The answers on a host on which no command fails, unless its documentation says so.
-/

namespace Cmp50Unlock.Install.All

open Lib
open Scripts (Signal governorProfile)

variable (h : Host)

def Host.check : (o : CheckOp) → Done Signal o.Out
  | .testRoot => ⟨statusOf h.install.root, (), none⟩
  | .unameR => ⟨0, h.install.release, none⟩
  | .unameM => ⟨0, h.install.machine, none⟩
  | .commandV tool => ⟨statusOf (h.install.tools tool), (), none⟩
  | .governorProfile => ⟨(governorProfile h.governor.lspci h.governor.sysfs).status, (), none⟩
  | .verifyBundle => ⟨statusOf h.governor.verified, (), none⟩
  | .binaryVersion => ⟨statusOf h.governor.executes, (), none⟩
  | .ldconfig => ⟨0, h.listing, none⟩
  | .testFile candidate => ⟨statusOf (h.regular candidate), (), none⟩
  | .readlink candidate => ⟨statusOf (h.resolved candidate).isSome, (h.resolved candidate).getD [], none⟩
  | .logError _ | .usage | .openLock | .flock | .sourceProfile | .sourceUserspace => ⟨0, (), none⟩

/-- The packages are there. -/
def Host.deps : (o : DepsOp) → Done Signal o.Out
  | .unameR => ⟨0, h.install.release, none⟩
  | .aptUpdate | .aptInstall _ => ⟨0, (), none⟩

/-- The installers as their own models run them. -/
def Host.answer : (o : InstallOp) → World → Done Signal o.Out × World
  | .check o, w => (h.check o, w)
  | .deps o, w => (h.deps o, w)
  | .install args, w =>
      let ended := (Install.install h.install.release args).run.interp h.install.answer
        (.start w.driver.disk w.driver.artifacts)
      (⟨statusOfEnd ended.1, (), none⟩, { w with driver := ended.2 })
  | .installGovernor args, w =>
      let ended := (Governor.install args).run.interp h.governor.answer w.governor.begin
      (⟨statusOfEnd ended.1, (), none⟩, { w with governor := ended.2 })
  | .log _, w => (⟨0, (), none⟩, w)

/-! ## These are among the runs that are considered -/

theorem World.waits (w : World) : w.Waits w := ⟨w.governor.requests, ⟨[], rfl, by simp⟩, rfl⟩

variable {h}

theorem known_check (o : CheckOp) : h.Says o (h.check o) := by
  cases o with
  | testRoot | commandV | testFile => exact statusOf_eq_zero
  | verifyBundle | binaryVersion => exact statusOf_eq_zero.mp
  | unameR | unameM | governorProfile | ldconfig => rfl
  | readlink candidate =>
      simp only [Host.Says, Host.check, statusOf_eq_zero]
      cases h.resolved candidate <;> simp
  | _ => trivial

variable (h)

theorem step_answer (o : InstallOp) (w : World) : InstallStep h o w (h.answer o w).1 (h.answer o w).2 := by
  cases o with
  | check o => exact ⟨fun _ => known_check o, w.waits⟩
  | deps o => exact ⟨w.driver.disk, w, ⟨.refl, fun _ => rfl⟩, w.waits, rfl⟩
  | install args => exact ⟨_, _, w, installs_answer h.install args w.driver.disk w.driver.artifacts, rfl, w.waits, rfl⟩
  | installGovernor args => exact ⟨_, _, Governor.installs_answer h.governor args w.governor, rfl, rfl⟩
  | log line => exact w.waits

theorem stages_answer (args : List String) (disk : Disk) (artifacts : Module → Option (List UInt8))
    (governor : Governor.World) :
    Stages h args disk artifacts governor
      ((installAll args).run.interp h.answer ⟨.start disk artifacts, governor.begin⟩).1
      ((installAll args).run.interp h.answer ⟨.start disk artifacts, governor.begin⟩).2 :=
  Prog.exec_interp id (step_answer h) _ _

end Cmp50Unlock.Install.All
