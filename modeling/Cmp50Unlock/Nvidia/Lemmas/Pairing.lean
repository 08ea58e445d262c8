import Cmp50Unlock.Nvidia.Host
import Mathlib.Data.List.Forall2
import Mathlib.Data.List.Nodup
import Mathlib.Algebra.Group.Nat.Defs

/-!
# Joining the two lists

`enumerate` looks for the handle of a GPU by its bus number only, and takes the first one that answers with it.
-/

namespace Cmp50Unlock.Nvidia

open Lib
open IdleGovernor (GoError)

/-- No guard on the calls. -/
abbrev anyCall {P : Type} : State P → LibOp → Prop := fun _ _ => True

namespace Host

variable {P : Type} [DecidableEq P] (host : Host P)

/-- NVAPI answers this bus number for the GPU. -/
def answersOn (b : BitVec 32) (p : P) : Bool := host.busStatus p == nvapiOK && host.bus p == b

/-- The first GPU of NVAPI that answers with the bus number. -/
def firstOn (b : BitVec 32) : Option P := host.nvapi.find? (host.answersOn b)

/-- What `enumerate` makes of index `k`. -/
structure Opened (k : Nat) (device : Device) (p q : P) : Prop where
  gpu : host.nvml[k]? = some p
  index : device.info.index = k
  handle : device.handle = host.mlHandleOf p
  first : host.firstOn (host.bus p) = some q
  nvHandle : device.nvHandle = host.nvHandleOf q

variable {host} {s s' : State P}

theorem findHandle_spec (b : BitVec 32) {ps : List P} (hps : ∀ p ∈ ps, p ∈ host.nvapi) :
    (findHandle b (ps.map host.nvHandleOf)).wp host.Step anyCall s fun r s' =>
      r = (ps.find? (host.answersOn b)).elim 0 host.nvHandleOf ∧ s' = s := by
  induction ps with
  | nil => exact ⟨rfl, rfl⟩
  | cons p ps ih =>
      rw [List.map_cons, findHandle, Prog.wp_bind, lib, Prog.wp_lift]
      refine ⟨trivial, fun a s₁ ⟨hanswer, hs⟩ => ?_⟩
      subst hs
      obtain ⟨hstatus, hbus⟩ := hanswer p (hps p (.head ps)) rfl
      rw [List.find?_cons]
      by_cases hfound : a.status = nvapiOK ∧ a.value = b
      · have hans : host.answersOn b p = true := by
          rw [answersOn, ← hstatus, ← hbus hfound.1, hfound.1, hfound.2]
          simp
        rw [if_pos hfound, hans]
        exact ⟨rfl, rfl⟩
      · have hans : host.answersOn b p = false := by
          rw [answersOn, ← hstatus]
          by_cases hok : a.status = nvapiOK
          · rw [← hbus hok]
            simpa using fun _ h => hfound ⟨hok, h⟩
          · simp [hok]
        rw [if_neg hfound, hans]
        exact ih fun q hq => hps q (.tail p hq)

/-- A device that was opened is that of its index in NVML, with the NVAPI handle that was found on its bus. -/
theorem openDevice_spec {k : Nat} (hk : k < 2 ^ 32) :
    (openDevice (host.nvapi.map host.nvHandleOf) k).wp host.Step anyCall s fun r s' =>
      s' = s ∧ ∀ device, r = .ok device → ∃ p q, host.Opened k device p q := by
  rw [openDevice, Prog.wp_bind, lib, Prog.wp_lift]
  refine ⟨trivial, fun handle s₁ ⟨hhandle, hs⟩ => ?_⟩
  subst hs
  refine Prog.wp_ite.mpr ⟨fun _ => ⟨rfl, nofun⟩, fun hok => ?_⟩
  have hgpu := hhandle (Decidable.not_not.mp hok)
  rw [show ((k : BitVec 32)).toNat = k from Nat.mod_eq_of_lt hk] at hgpu
  obtain ⟨p, hp, hvalue⟩ := Option.map_eq_some_iff.mp hgpu
  rw [Prog.wp_bind, lib, Prog.wp_lift]
  refine ⟨trivial, fun pci s₂ ⟨hpci, hs⟩ => ?_⟩
  subst hs
  refine Prog.wp_ite.mpr ⟨fun _ => ⟨rfl, nofun⟩, fun hok => ?_⟩
  have hbus : pci.value = host.pci p := hpci (Decidable.not_not.mp hok) p (List.mem_of_getElem? hp) hvalue
  rw [Prog.wp_bind, lib, Prog.wp_lift]
  refine ⟨trivial, fun memory s₃ hs => ?_⟩
  obtain rfl : s₃ = s₂ := hs
  refine Prog.wp_ite.mpr ⟨fun _ => ⟨rfl, nofun⟩, fun _ => ?_⟩
  rw [Prog.wp_bind, lib, Prog.wp_lift]
  refine ⟨trivial, fun fans s₄ hs => ?_⟩
  obtain rfl : s₄ = s₃ := hs
  refine Prog.wp_ite.mpr ⟨fun _ => ⟨rfl, nofun⟩, fun _ => ?_⟩
  rw [pairDevice, Prog.wp_bind]
  refine (findHandle_spec pci.value.bus fun _ h => h).mono fun nvHandle s₅ ⟨hfound, hs⟩ => ?_
  subst hs
  refine Prog.wp_ite.mpr ⟨fun _ => ⟨rfl, nofun⟩, fun hne => ⟨rfl, fun device hdevice => ?_⟩⟩
  cases hdevice
  rw [hbus] at hfound
  cases hfirst : host.firstOn (host.bus p) with
  | none =>
      rw [firstOn] at hfirst
      rw [bus] at hfirst
      rw [hfirst] at hfound
      exact absurd hfound hne
  | some q =>
      refine ⟨p, q, hp, rfl, hvalue.symm, hfirst, ?_⟩
      rw [firstOn, bus] at hfirst
      rw [hfirst] at hfound
      exact hfound

theorem openDevices_spec {indices : List Nat} (hindices : ∀ k ∈ indices, k < 2 ^ 32) (devices : List Device) :
    (openDevices (host.nvapi.map host.nvHandleOf) indices devices).wp host.Step anyCall s fun r s' =>
      s' = s ∧ ∀ result, r = .ok result → ∃ opened, result = devices ++ opened ∧
        List.Forall₂ (fun k device => ∃ p q, host.Opened k device p q) indices opened := by
  induction indices generalizing devices s with
  | nil =>
      refine ⟨rfl, fun result hresult => ⟨[], ?_, .nil⟩⟩
      cases hresult
      exact (List.append_nil _).symm
  | cons k indices ih =>
      rw [openDevices, Prog.wp_bind]
      refine (openDevice_spec (hindices k (.head indices))).mono fun r s₁ ⟨hs, hdevice⟩ => ?_
      subst hs
      cases r with
      | error err => exact ⟨rfl, nofun⟩
      | ok device =>
          refine (ih (fun k' hk' => hindices k' (.tail k hk')) (devices ++ [device])).mono fun r s₂ ⟨hs, hall⟩ => ?_
          refine ⟨hs, fun result hresult => ?_⟩
          obtain ⟨opened, rfl, hopened⟩ := hall result hresult
          exact ⟨device :: opened, by simp, .cons (hdevice device rfl) hopened⟩

/-- What `enumerate` leaves when it succeeds. -/
theorem enumerate_spec : enumerate.wp host.Step anyCall s fun r s' => s' = s ∧ ∀ devices, r = .ok devices →
    List.Forall₂ (fun k device => ∃ p q, host.Opened k device p q) (List.range host.nvml.length) devices := by
  rw [enumerate, Prog.wp_bind, lib, Prog.wp_lift]
  refine ⟨trivial, fun count s₁ ⟨hcount, hs⟩ => ?_⟩
  subst hs
  refine Prog.wp_ite.mpr ⟨fun _ => ⟨rfl, nofun⟩, fun hok => ?_⟩
  have hlen := hcount (Decidable.not_not.mp hok)
  rw [Prog.wp_bind, lib, Prog.wp_lift]
  refine ⟨trivial, fun nv s₂ ⟨hnv, hs⟩ => ?_⟩
  subst hs
  refine Prog.wp_ite.mpr ⟨fun _ => ⟨rfl, nofun⟩, fun hok => ?_⟩
  rw [hnv (Decidable.not_not.mp hok), hlen]
  have hrange : ∀ k ∈ List.range host.nvml.length, k < 2 ^ 32 := fun k hk => by
    have hk' := List.mem_range.mp hk
    have hmax : host.nvml.length ≤ 64 := host.nvml_length
    omega
  refine (openDevices_spec hrange []).mono fun r s₃ ⟨hs, hall⟩ => ⟨hs, fun devices hdevices => ?_⟩
  obtain ⟨opened, rfl, hopened⟩ := hall devices hdevices
  exact hopened

end Host

end Cmp50Unlock.Nvidia
