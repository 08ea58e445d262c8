import Cmp50Unlock.Nvidia.Lemmas.Pairing

/-!
# When the handles agree

The join is by bus number, so it is right exactly when the bus number tells the GPUs apart.
-/

namespace Cmp50Unlock.Nvidia

open Lib
open IdleGovernor (GoError)

namespace Host

variable {P : Type} {host : Host P} {devices : List Device} {p q : P}

theorem firstOn_some {b : BitVec 32} (h : host.firstOn b = some q) : host.Matched q ∧ host.bus q = b := by
  have hans := List.find?_some h
  rw [answersOn, Bool.and_eq_true, beq_iff_eq, beq_iff_eq] at hans
  exact ⟨⟨List.mem_of_find?_eq_some h, hans.1⟩, hans.2⟩

/-! ## What is opened -/

section
variable (hopened : List.Forall₂ (fun k device => ∃ p q, host.Opened k device p q)
  (List.range host.nvml.length) devices)
include hopened

theorem length_of_opened : devices.length = host.nvml.length := by
  rw [← hopened.length_eq, List.length_range]

theorem opened_at {k : Nat} {device : Device} (hdevice : devices[k]? = some device) :
    ∃ p q, host.Opened k device p q := by
  obtain ⟨hlt, hget⟩ := List.getElem?_eq_some_iff.mp hdevice
  have hat := hopened.get (by simpa [← length_of_opened hopened] using hlt) hlt
  simpa [hget] using hat

/-- The NVAPI handles depend on the bus numbers only. -/
theorem handles_of_opened : devices.map Device.nvHandle =
    (host.nvml.map host.bus).map fun b => (host.firstOn b).elim 0 host.nvHandleOf := by
  apply List.ext_getElem?
  intro k
  cases hdevice : devices[k]? with
  | none =>
      have hlen := List.getElem?_eq_none_iff.mp hdevice
      rw [length_of_opened hopened] at hlen
      simp [hdevice, List.getElem?_eq_none hlen]
  | some device =>
      obtain ⟨p, q, ho⟩ := opened_at hopened hdevice
      simp [hdevice, ho.gpu, ho.first, ho.nvHandle]

/-- Every GPU has an entry, and what was found on its bus is a matched one. -/
theorem found_of_opened (hp : p ∈ host.nvml) : ∃ q, host.firstOn (host.bus p) = some q := by
  obtain ⟨k, hlt, hget⟩ := List.mem_iff_getElem.mp hp
  have hlt' : k < devices.length := by rwa [length_of_opened hopened]
  obtain ⟨p', q, ho⟩ := opened_at hopened (List.getElem?_eq_getElem hlt')
  have hgpu := ho.gpu
  rw [List.getElem?_eq_getElem hlt, hget] at hgpu
  cases hgpu
  exact ⟨q, ho.first⟩

theorem agrees_of_nodup (hbuses : (host.nvml.map host.bus).Nodup) :
    host.Agrees devices ∧ ∀ p ∈ host.nvml, host.Matched p := by
  have hmatched : ∀ p ∈ host.nvml, host.Matched p ∧ host.firstOn (host.bus p) = some p := by
    intro p hp
    obtain ⟨q, hfirst⟩ := found_of_opened hopened hp
    obtain ⟨hq, hbus⟩ := firstOn_some hfirst
    obtain rfl := List.inj_on_of_nodup_map hbuses (host.nvapi_subset hq.1) hp hbus
    exact ⟨hq, hfirst⟩
  refine ⟨⟨length_of_opened hopened, ?_, ?_⟩, fun p hp => (hmatched p hp).1⟩
  · intro k device p hdevice hp
    obtain ⟨p', q, ho⟩ := opened_at hopened hdevice
    have hgpu := ho.gpu
    rw [hp] at hgpu
    cases hgpu
    obtain ⟨hm, hfirst⟩ := hmatched p (List.mem_of_getElem? hp)
    have hq := ho.first
    rw [hfirst] at hq
    cases hq
    exact ⟨ho.index, ho.handle, hm.1, ho.nvHandle⟩
  · rw [handles_of_opened hopened, List.map_map]
    refine hbuses.of_map.map_on fun p hp q hq h => ?_
    simp only [Function.comp_apply, (hmatched p hp).2, (hmatched q hq).2, Option.elim_some] at h
    exact host.nvHandle_injective p (hmatched p hp).1.1 q (hmatched q hq).1.1 h

theorem agrees_iff : (host.Agrees devices ∧ ∀ p ∈ host.nvml, host.Matched p) ↔ (host.nvml.map host.bus).Nodup := by
  constructor
  · intro ⟨hagrees, _⟩
    have hnodup := hagrees.distinct
    rw [handles_of_opened hopened] at hnodup
    exact hnodup.of_map
  · exact agrees_of_nodup hopened

end

/-! ## What a call of the interface reaches -/

section
variable {k : Nat} (hagrees : host.Agrees devices) (hp : host.nvml[k]? = some p)
include hagrees hp

theorem device_of_agrees : ∃ d, device devices k = .ok d ∧ host.Pairs k p d := by
  obtain ⟨hlt, -⟩ := List.getElem?_eq_some_iff.mp hp
  have hlt' : k < devices.length := by rwa [hagrees.length]
  refine ⟨devices[k], ?_, hagrees.pairs k _ p (List.getElem?_eq_getElem hlt') hp⟩
  rw [device, dif_neg (by omega)]
  rfl

variable [DecidableEq P] {s : State P}

/-- The utilization that is read is the load of the GPU. -/
theorem utilization_spec : (utilization devices k).wp host.Step anyCall s fun r s' =>
    s' = s ∧ ∀ load, r = .ok load → load = s.load p := by
  obtain ⟨d, hd, hpairs⟩ := device_of_agrees hagrees hp
  rw [utilization, hd, Prog.wp_bind, lib, Prog.wp_lift]
  refine ⟨trivial, fun answer s₁ hpost => ?_⟩
  obtain ⟨hload, hs⟩ := hpost
  subst hs
  refine Prog.wp_ite.mpr ⟨fun _ => ⟨rfl, by simp⟩, fun hok => ⟨rfl, fun load hr => ?_⟩⟩
  cases hr
  exact hload (Decidable.not_not.mp hok) p (List.mem_of_getElem? hp) hpairs.handle.symm

/-- The P-state is set on the GPU, and on no other one. -/
theorem setPState_spec (pstate : Int) : (setPState devices k pstate).wp host.Step anyCall s fun r s' =>
    s' = if r = none then { s with pstate := Function.update s.pstate p (BitVec.ofInt 32 pstate) } else s := by
  obtain ⟨d, hd, hpairs⟩ := device_of_agrees hagrees hp
  have honly : ∀ q, (q ∈ host.nvapi ∧ host.nvHandleOf q = d.nvHandle) ↔ q = p := by
    intro q
    rw [hpairs.nvHandle.2]
    constructor
    · rintro ⟨hq, h⟩
      exact host.nvHandle_injective q hq p hpairs.nvHandle.1 h
    · rintro rfl
      exact ⟨hpairs.nvHandle.1, rfl⟩
  rw [setPState, setter, hd, Prog.wp_bind, lib, Prog.wp_lift]
  refine ⟨trivial, fun (status : Status) s₁ hs => Prog.wp_ite.mpr ⟨fun hne => ?_, fun hok => ?_⟩⟩
  · rw [Prog.wp_pure, if_neg (by simp)]
    exact hs.trans (if_neg hne)
  · rw [Prog.wp_pure, if_pos rfl]
    refine (hs.trans (if_pos (Decidable.not_not.mp hok))).trans ?_
    congr 1
    funext q
    simp only [honly, Function.update_apply]

end

end Host

end Cmp50Unlock.Nvidia
