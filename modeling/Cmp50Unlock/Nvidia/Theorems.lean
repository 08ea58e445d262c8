import Cmp50Unlock.Nvidia.Lemmas.Agreement

/-!
# Handle agreement

An index of the governor names one GPU, through both libraries.
-/

namespace Cmp50Unlock.Nvidia

open Lib
open IdleGovernor (GoError)

variable {P : Type} [DecidableEq P]

/-! ## Handles -/

theorem handles_agree_iff (host : Host P) {s s' : State P} {devices : List Device}
    (he : enumerate.Exec host.Step s (.ok devices) s') :
    (host.Agrees devices ∧ host.Controls devices ∧ ∀ p ∈ host.nvml, host.Matched p) ↔
      (host.nvml.map host.bus).Nodup := by
  have hopened := (Host.enumerate_spec.exec he).2 devices rfl
  rw [← Host.agrees_iff hopened]
  constructor
  · intro ⟨hagrees, _, hmatched⟩
    exact ⟨hagrees, hmatched⟩
  · intro ⟨hagrees, hmatched⟩
    refine ⟨hagrees, fun k p hp => ⟨?_, ?_⟩, hmatched⟩
    · intro s load s' he
      exact ((Host.utilization_spec hagrees hp).exec he).2 load rfl
    · intro pstate s err s' he
      exact (Host.setPState_spec hagrees hp pstate).exec he

/-- Two GPUs on bus 1 of domains 0 and 1, or on buses 1 and 2 of domain 0. NVAPI lists them the other way round. -/
def twoGPUs (domain bus : BitVec 32) : Host Bool where
  pci p := if p then ⟨domain, bus, 0x1f0b10de, 0⟩ else ⟨0, 1, 0x1f0b10de, 0⟩
  nvml := [false, true]
  nvapi := [true, false]
  mlHandleOf p := if p then 0x2000 else 0x1000
  nvHandleOf p := if p then 0x200 else 0x100
  busStatus _ := nvapiOK
  nvml_nodup := by decide
  nvml_length := by decide
  nvapi_nodup := by decide
  nvapi_subset := by decide
  mlHandle_injective := by decide
  nvHandle_injective := by decide
  nvHandle_ne_zero := by decide

def stateP8 : State Bool := ⟨fun _ => 0, fun _ => 8⟩

theorem handles_agree_sample : ∃ devices s', enumerate.Exec (twoGPUs 0 2).Step stateP8 (.ok devices) s' ∧
    devices.map (·.nvHandle) = [0x100, 0x200] ∧ (twoGPUs 0 2).Agrees devices := by
  have he : enumerate.Exec (twoGPUs 0 2).Step stateP8 _ _ :=
    Prog.exec_interp id (twoGPUs 0 2).step_serve enumerate stateP8
  have hnodup : ((twoGPUs 0 2).nvml.map (twoGPUs 0 2).bus).Nodup := by decide
  exact ⟨_, _, he, rfl, ((handles_agree_iff (twoGPUs 0 2) he).mpr hnodup).1⟩

/-- Two domains have a bus 1. The GPU of domain 0 gets the NVAPI handle of the other one, which is throttled in its
place. -/
theorem handles_crossed : ∃ devices s s', enumerate.Exec (twoGPUs 1 1).Step stateP8 (.ok devices) s ∧
    devices.map (·.nvHandle) = [0x200, 0x200] ∧ (setPState devices 0 16).Exec (twoGPUs 1 1).Step s none s' ∧
    s'.pstate false = 8 ∧ s'.pstate true = 16 ∧ ¬ (twoGPUs 1 1).Agrees devices := by
  have he : enumerate.Exec (twoGPUs 1 1).Step stateP8 _ _ :=
    Prog.exec_interp id (twoGPUs 1 1).step_serve enumerate stateP8
  refine ⟨_, _, _, he, rfl, Prog.exec_interp id (twoGPUs 1 1).step_serve (setPState _ 0 16) _, rfl, rfl, ?_⟩
  intro hagrees
  exact absurd hagrees.distinct (by decide)

end Cmp50Unlock.Nvidia
