import Cmp50Unlock.Nvidia.Basic
import Mathlib.Data.List.Perm.Subperm
import Mathlib.Logic.Function.Basic

/-!
# A host with GPUs

The GPUs of a host, the two orders in which the libraries list them, and what the libraries say of a handle. Every
call may fail; what a call answers when it succeeds is true of the GPU of its handle.
-/

namespace Cmp50Unlock.Nvidia

open Lib

/-- The GPUs `P` of a host. The driver knows at most 64 of them. -/
structure Host (P : Type) where
  pci : P → PciInfo
  /-- The GPUs in the order of NVML, and in the order of NVAPI. -/
  nvml : List P
  nvapi : List P
  mlHandleOf : P → Handle
  nvHandleOf : P → Handle
  /-- What NVAPI returns when it is asked for the bus of a GPU. -/
  busStatus : P → Status
  nvml_nodup : nvml.Nodup
  nvml_length : nvml.length ≤ maxPhysicalGPUs
  nvapi_nodup : nvapi.Nodup
  nvapi_subset : nvapi ⊆ nvml
  mlHandle_injective : ∀ p ∈ nvml, ∀ q ∈ nvml, mlHandleOf p = mlHandleOf q → p = q
  nvHandle_injective : ∀ p ∈ nvapi, ∀ q ∈ nvapi, nvHandleOf p = nvHandleOf q → p = q
  nvHandle_ne_zero : ∀ p ∈ nvapi, nvHandleOf p ≠ 0

/-- What changes: the load of the GPUs, which nobody controls, and the P-states that are forced. -/
structure State (P : Type) where
  load : P → BitVec 32
  pstate : P → BitVec 32

namespace Host

variable {P : Type} (host : Host P)

/-- The bus number of a GPU. Buses of different domains may have the same number. -/
def bus (p : P) : BitVec 32 := (host.pci p).bus

/-- NVAPI has a handle for the GPU, and answers when it is asked for its bus. -/
def Matched (p : P) : Prop := p ∈ host.nvapi ∧ host.busStatus p = nvapiOK

/-- A call of a library that answers `a`. -/
def Step [DecidableEq P] : (o : LibOp) → State P → o.Ans → State P → Prop
  | .mlCount, s, a, s' => (a.status = nvmlSuccess → a.value.toNat = host.nvml.length) ∧ s' = s
  | .mlHandle index, s, a, s' => (a.status = nvmlSuccess →
      (host.nvml[index.toNat]?).map host.mlHandleOf = some a.value) ∧ s' = s
  | .mlPCI handle, s, a, s' => (a.status = nvmlSuccess →
      ∀ p ∈ host.nvml, host.mlHandleOf p = handle → a.value = host.pci p) ∧ s' = s
  | .mlUtil handle, s, a, s' => (a.status = nvmlSuccess →
      ∀ p ∈ host.nvml, host.mlHandleOf p = handle → a.value = s.load p) ∧ s' = s
  | .nvEnum, s, a, s' => (a.status = nvapiOK →
      a.value.handles.toList.take a.value.count.toNat = host.nvapi.map host.nvHandleOf) ∧ s' = s
  | .nvBus handle, s, a, s' => (∀ p ∈ host.nvapi, host.nvHandleOf p = handle →
      a.status = host.busStatus p ∧ (a.status = nvapiOK → a.value = host.bus p)) ∧ s' = s
  | .nvPState handle pstate _, s, (status : Status), s' => s' = if status = nvapiOK then
      { s with pstate := fun p => if p ∈ host.nvapi ∧ host.nvHandleOf p = handle then pstate else s.pstate p } else s
  | _, s, _, s' => s' = s

/-- The entry with index `k` has both handles of the GPU `p`. -/
structure Pairs (k : Nat) (p : P) (device : Device) : Prop where
  index : device.info.index = k
  handle : device.handle = host.mlHandleOf p
  nvHandle : p ∈ host.nvapi ∧ device.nvHandle = host.nvHandleOf p

/-- The entries are the GPUs in the order of NVML, each with its own handles. -/
structure Agrees (devices : List Device) : Prop where
  length : devices.length = host.nvml.length
  pairs : ∀ (k : Nat) (device : Device) (p : P), devices[k]? = some device → host.nvml[k]? = some p →
    host.Pairs k p device
  distinct : (devices.map Device.nvHandle).Nodup

/-- The calls with index `k` reach the GPU that NVML lists there: its load is read, and the P-state is set on it and
on no other one. -/
def Controls [DecidableEq P] (devices : List Device) : Prop :=
  ∀ (k : Nat) (p : P), host.nvml[k]? = some p →
    (∀ s load s', (utilization devices k).Exec host.Step s (.ok load) s' → load = s.load p) ∧
    ∀ pstate s err s', (setPState devices k pstate).Exec host.Step s err s' →
      s' = if err = none then { s with pstate := Function.update s.pstate p (BitVec.ofInt 32 pstate) } else s

/-! ## Calls that succeed -/

/-- The handles of `nvapi`, padded with zeros to the size of the array. -/
def enumerated : Enumerated :=
  ⟨Vector.ofFn fun k => (host.nvapi[k.val]?).elim 0 host.nvHandleOf, host.nvapi.length⟩

/-- Answer every call, without an error wherever that is possible. -/
def serve [DecidableEq P] : (o : LibOp) → State P → o.Ans × State P
  | .mlCount, s => (⟨nvmlSuccess, host.nvml.length⟩, s)
  | .mlHandle index, s => ((host.nvml[index.toNat]?).elim ⟨1, 0⟩ fun p => ⟨nvmlSuccess, host.mlHandleOf p⟩, s)
  | .mlPCI handle, s => ((host.nvml.find? (host.mlHandleOf · = handle)).elim ⟨1, ⟨0, 0, 0, 0⟩⟩
      fun p => ⟨nvmlSuccess, host.pci p⟩, s)
  | .mlUtil handle, s => ((host.nvml.find? (host.mlHandleOf · = handle)).elim ⟨1, 0⟩
      fun p => ⟨nvmlSuccess, s.load p⟩, s)
  | .nvEnum, s => (⟨nvapiOK, host.enumerated⟩, s)
  | .nvBus handle, s => ((host.nvapi.find? (host.nvHandleOf · = handle)).elim ⟨1, 0⟩
      fun p => ⟨host.busStatus p, host.bus p⟩, s)
  | .nvPState handle pstate _, s =>
      (nvapiOK,
        { s with pstate := fun p => if p ∈ host.nvapi ∧ host.nvHandleOf p = handle then pstate else s.pstate p })
  | .mlMemory _, s => (⟨nvmlSuccess, 0⟩, s)
  | .mlFans _, s | .mlTemperature _ _, s => (⟨nvmlSuccess, 0⟩, s)
  | .mlSetFan _ _ _, s | .mlFanAuto _ _, s | .mlResetClocks _, s | .mlSetClocks _ _ _, s
  | .mlSetCoreOffset _ _, s => (nvmlSuccess, s)

theorem find?_handle {handleOf : P → Handle} {ps : List P}
    (hinj : ∀ p ∈ ps, ∀ q ∈ ps, handleOf p = handleOf q → p = q) {p : P} (hp : p ∈ ps) :
    ps.find? (handleOf · = handleOf p) = some p := by
  cases hfind : ps.find? (handleOf · = handleOf p) with
  | none => simpa using List.find?_eq_none.mp hfind p hp
  | some q =>
      have hq := List.find?_some hfind
      rw [decide_eq_true_iff] at hq
      rw [hinj q (List.mem_of_find?_eq_some hfind) p hp hq]

/-- What is answered is true. -/
theorem step_serve [DecidableEq P] (o : LibOp) (s : State P) : host.Step o s (host.serve o s).1 (host.serve o s).2 := by
  cases o with
  | mlCount =>
      have hlen := host.nvml_length
      refine ⟨fun _ => Nat.mod_eq_of_lt (by simp only [maxPhysicalGPUs] at hlen; omega), rfl⟩
  | mlHandle index =>
      refine ⟨fun hok => ?_, rfl⟩
      simp only [serve] at hok ⊢
      cases hp : host.nvml[index.toNat]? with
      | none => simp [hp, nvmlSuccess] at hok
      | some p => rfl
  | mlPCI handle =>
      refine ⟨fun _ p hp hhandle => ?_, rfl⟩
      subst hhandle
      simp only [serve, find?_handle host.mlHandle_injective hp, Option.elim_some]
  | mlUtil handle =>
      refine ⟨fun _ p hp hhandle => ?_, rfl⟩
      subst hhandle
      simp only [serve, find?_handle host.mlHandle_injective hp, Option.elim_some]
  | nvEnum =>
      refine ⟨fun _ => ?_, rfl⟩
      have hlen : host.nvapi.length ≤ maxPhysicalGPUs :=
        Nat.le_trans (host.nvapi_nodup.subperm host.nvapi_subset).length_le host.nvml_length
      have hcount : ((host.nvapi.length : Nat) : BitVec 32).toNat = host.nvapi.length := by
        refine Nat.mod_eq_of_lt ?_
        simp only [maxPhysicalGPUs] at hlen
        omega
      apply List.ext_getElem?
      intro k
      simp only [serve, enumerated, hcount]
      by_cases hk : k < host.nvapi.length
      · have hmax : k < maxPhysicalGPUs := Nat.lt_of_lt_of_le hk hlen
        simp [hk, hmax]
      · rw [List.getElem?_eq_none (by simp; omega), List.getElem?_eq_none (by simp; omega)]
  | nvBus handle =>
      refine ⟨fun p hp hhandle => ?_, rfl⟩
      subst hhandle
      simp only [serve, find?_handle host.nvHandle_injective hp, Option.elim_some]
      exact ⟨trivial, fun _ => trivial⟩
  | nvPState handle pstate zero => exact (if_pos rfl).symm
  | _ => rfl

end Host

end Cmp50Unlock.Nvidia
