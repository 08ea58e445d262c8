import Cmp50Unlock.Install.World

/-!
# Commands that do not fail

A computable host on which no command fails or is interrupted, unless its documentation says so.
-/

namespace Cmp50Unlock.Install

open Lib
open Scripts (Signal)

variable (h : Host)

/-- The status of a test. -/
def statusOf (holds : Bool) : Nat := if holds then 0 else 1

@[simp] theorem statusOf_eq_zero {holds : Bool} : statusOf holds = 0 ↔ holds = true := by
  cases holds <;> simp [statusOf]

def Host.check : (o : CheckOp) → Done Signal o.Out
  | .commandV tool => ⟨statusOf (h.tools tool), (), none⟩
  | .testRoot => ⟨statusOf h.root, (), none⟩
  | .testRepoFile path => ⟨statusOf (h.repo path).isSome, (), none⟩
  | .testHeaders => ⟨statusOf h.headers, (), none⟩
  | .unameM => ⟨0, h.machine, none⟩
  | .listDevices => ⟨0, h.devices, none⟩
  | .testSubsystem bdf => ⟨statusOf (h.subsystem bdf).isSome, (), none⟩
  | .readSubvendor bdf => ⟨statusOf (h.subsystem bdf).isSome, ((h.subsystem bdf).getD ("", "")).1, none⟩
  | .readSubdevice bdf => ⟨statusOf (h.subsystem bdf).isSome, ((h.subsystem bdf).getD ("", "")).2, none⟩
  | .testNouveau bdf => ⟨statusOf (h.nouveau bdf), (), none⟩
  | .mokutil => ⟨statusOf h.secureBoot, (), none⟩
  | .log _ | .logError _ | .usage | .verifyGovernor | .governorVersion | .sourceProfile | .governorProfile => ⟨0, (),
      none⟩

theorem says_check (o : CheckOp) : h.Says o (h.check o) := by
  cases o with
  | readSubvendor bdf | readSubdevice bdf =>
      intro hstatus
      obtain ⟨subsystem, hsubsystem⟩ := Option.isSome_iff_exists.mp (statusOf_eq_zero.mp hstatus)
      simp [Host.check, hsubsystem]
  | commandV | testRoot | testRepoFile | testHeaders | testSubsystem | testNouveau | mokutil => exact statusOf_eq_zero
  | unameM | listDevices => rfl
  | _ => trivial

/-- The time is always the same. -/
def Host.backUp : (o : BackupOp) → World → Done Signal o.Out
  | .date, _ => ⟨0, "20260101T000000Z-1", none⟩
  | .modinfo m, w => ⟨0, w.disk.selected m, none⟩
  | .test p, w => ⟨statusOf (w.disk.files p).isSome, (), none⟩
  | .isEnabled, w => ⟨statusOf (w.disk.isEnabled h), (), none⟩
  | .create, _ | .copy _, _ | .markEnabled, _ | .saveUname, _ | .savePci, _ | .announce _, _ | .markManaged, _ => ⟨0,
      (), none⟩

theorem step_backUp (o : BackupOp) (w : World) : BackupStep h o w (h.backUp o w)
    (if (h.backUp o w).status = 0 then { w with backup := w.backup.after h w.disk o } else w) := by
  refine ⟨fun _ => ?_, (if (h.backUp o w).status = 0 then w.backup.after h w.disk o else w.backup), ?_, ?_, ?_⟩
  · cases o with
    | test p | isEnabled => exact statusOf_eq_zero
    | modinfo m => rfl
    | _ => trivial
  · split
    next => rfl
    next => rfl
  · intro hstatus
    rw [if_pos hstatus]
  · intro hstatus
    rw [if_neg hstatus]
    cases o with
    | test p | isEnabled => rfl
    | _ => exact absurd rfl hstatus

/-- A file of the clone is put to a path. -/
def World.put (w : World) (p : Path) (content : Option (List UInt8)) (mode : Nat) : Done Signal Unit × World :=
  (⟨statusOf content.isSome, (), none⟩, { w with disk := w.disk.set p (content.map fun bytes => ⟨bytes, mode⟩) })

def Host.change : (o : ChangeOp) → World → Done Signal o.Out × World
  | .testArtifact m, w => (⟨statusOf (w.artifacts m).isSome, (), none⟩, w)
  | .catUnit, w => (⟨statusOf (w.disk.hasUnit h), (), none⟩, w)
  | .selectedModule, w => (⟨0, w.disk.selected .nvidia, none⟩, w)
  | .moduleVersion, w => (⟨0, driverVersion, none⟩, w)
  | .installModule m, w => w.put (updates h.release m) (w.artifacts m) 0o644
  | .installOptions, w => w.put .options (h.repo "config/cmp50-gen2.conf") 0o644
  | .installHelper, w => w.put .helper (h.repo "scripts/cmp50-gen2-second-pass.sh") 0o755
  | .installUnit, w => w.put .unit (h.repo "systemd/cmp50-gen2-second-pass.service") 0o644
  | .writeOptions, w => w.put .options (some rebarOptions) 0o644
  | .removeOptions, w => (⟨0, (), none⟩, { w with disk := w.disk.set .options none })
  | .removeService, w => (⟨0, (), none⟩, { w with disk := (w.disk.set .helper none).set .unit none })
  | .enable, w => (⟨0, (), none⟩, { w with disk := { w.disk with wanted := true } })
  | .disable, w => (⟨0, (), none⟩, { w with disk := { w.disk with wanted := false } })
  | .depmod, w => (⟨0, (), none⟩, { w with disk := w.disk.indexed h h.release })
  | .commandV tool, w => (⟨statusOf (h.tools tool), (), none⟩, w)
  | .log _, w | .logError _, w | .sourceUserspace, w | .userspaceMatches, w | .testChecksums, w | .build, w
  | .verifyArtifact, w | .createInstallDir, w | .daemonReload, w | .installGovernor, w | .updateInitramfs, w
  | .report, w => (⟨0, (), none⟩, w)

variable {h} {w : World} {p : Path} {content : Option (List UInt8)} {mode : Nat}

theorem frame_self {o : ChangeOp} : w.Frame h o w :=
  ⟨rfl, fun _ _ => rfl, fun _ _ => rfl, fun _ => rfl, rfl, fun _ => rfl⟩

theorem frame_put {o : ChangeOp} (ho : o.Targets h p) : w.Frame h o (w.put p content mode).2 := by
  refine ⟨rfl, fun q hq => files_set_ne ?_, fun _ _ => rfl, fun _ => rfl, rfl, fun _ => rfl⟩
  rintro rfl
  exact hq ho

theorem has_put (hstatus : (w.put p content mode).1.status = 0) : (w.put p content mode).2.disk.Has p content mode := by
  obtain ⟨bytes, rfl⟩ := Option.isSome_iff_exists.mp (statusOf_eq_zero.mp hstatus)
  exact ⟨bytes, rfl, files_set_same⟩

theorem step_change (o : ChangeOp) (w : World) : ChangeStep h o w (h.change o w).1 (h.change o w).2 := by
  cases o with
  | testArtifact m | catUnit => exact ⟨fun _ => statusOf_eq_zero, frame_self, fun _ => trivial⟩
  | selectedModule => exact ⟨fun _ => rfl, frame_self, fun _ => trivial⟩
  | installModule m | installOptions | installHelper | installUnit =>
      refine ⟨fun _ => trivial, frame_put ?_, has_put⟩
      rfl
  | writeOptions =>
      refine ⟨fun _ => trivial, frame_put ?_, fun hstatus => ?_⟩
      · rfl
      have hput : (w.put .options (some rebarOptions) 0o644).2.disk.Has .options (some rebarOptions) 0o644 :=
        has_put hstatus
      obtain ⟨bytes, hbytes, hfile⟩ := hput
      cases hbytes
      exact ⟨_, hfile⟩
  | removeOptions =>
      refine ⟨fun _ => trivial, ⟨rfl, fun q hq => files_set_ne hq, fun _ _ => rfl, fun _ => rfl, rfl,
        fun _ => rfl⟩, fun _ => ?_⟩
      exact files_set_same
  | removeService =>
      refine ⟨fun _ => trivial, ⟨rfl, fun q hq => ?_, fun _ _ => rfl, fun _ => rfl, rfl, fun _ => rfl⟩,
        fun _ => ⟨?_, ?_⟩⟩
      · exact (files_set_ne fun hunit => hq (.inr hunit)).trans (files_set_ne fun hhelper => hq (.inl hhelper))
      · exact (files_set_ne (by simp)).trans files_set_same
      · exact files_set_same
  | enable =>
      exact ⟨fun _ => trivial, ⟨rfl, fun _ _ => rfl, fun hne => absurd rfl hne, fun _ => rfl, rfl,
        fun _ => rfl⟩, fun _ => rfl⟩
  | disable =>
      exact ⟨fun _ => trivial, ⟨rfl, fun _ _ => rfl, fun _ hne => absurd rfl hne, fun _ => rfl, rfl,
        fun _ => rfl⟩, fun _ => rfl⟩
  | depmod =>
      exact ⟨fun _ => trivial, ⟨rfl, fun q hq => files_indexed hq, fun _ _ => rfl, fun hne => absurd rfl hne, rfl,
        fun _ => rfl⟩,
        fun _ => rfl⟩
  | _ => exact ⟨fun _ => trivial, frame_self, fun _ => trivial⟩

variable (h)

/-- The answer to a command, and what it does. -/
def Host.answer : (o : InstallOp) → World → Done Signal o.Out × World
  | .check o, w => (h.check o, w)
  | .backUp o, w => (h.backUp o w, if (h.backUp o w).status = 0 then { w with backup := w.backup.after h w.disk o }
      else w)
  | .userland _, w => (⟨0, (), none⟩, w)
  | .change o, w => h.change o w
  | .installPolicy, w => w.put .nouveauPolicy (h.repo "config/cmp50-disable-nouveau.conf") 0o644

/-- These are among the runs that are considered. -/
theorem installs_answer (args : List String) (disk : Disk) (artifacts : Module → Option (List UInt8)) :
    Installs h args disk artifacts ((install h.release args).run.interp h.answer (.start disk artifacts)).1
      ((install h.release args).run.interp h.answer (.start disk artifacts)).2 := by
  refine Prog.exec_interp id (fun o w => ?_) _ _
  cases o with
  | check o => exact ⟨fun _ => says_check h o, rfl⟩
  | backUp o => exact step_backUp h o w
  | userland o => exact ⟨w.disk, rfl, .refl, fun _ => rfl⟩
  | change o => exact step_change o w
  | installPolicy => exact ⟨⟨_, rfl⟩, has_put⟩

end Cmp50Unlock.Install
