import Cmp50Unlock.Stockflow.History
import Cmp50Unlock.Stockflow.Resources
import Cmp50Unlock.Stockflow.Lemmas.Footprint

/-!
# The error path of the creation

The labels `fail_alloc` and `fail_create` of `_kgspCreateSignatureMemdesc` against what the call took before it
came to them.
-/

namespace Cmp50Unlock.Stockflow

open Lib

/-- A call that started with `g` left the saved copy alone and released what it took, each exactly once. -/
@[mk_iff]
structure SignatureUndone (g : KernelGsp) (w : World) : Prop where
  copy : w.gsp.pStockSignatureData = g.pStockSignatureData
  size : w.gsp.stockSignatureSize = g.stockSignatureSize
  returned : ∀ r, released r w.log = taken r w.log

/-- The copy of the signature can be made. -/
def Copyable (fw : GspFirmware) (al : Allocator) : Prop :=
  fw.pSignatureData.isSome ∧ fw.signatureSize ≠ 0 ∧ al.portMemAllocNonPaged = true

/-! ## What leaves the saved copy alone -/

section
variable {g : KernelGsp}

@[simp] theorem copy_hal {c : Hal} {a} : (g.step (.hal c) a).pStockSignatureData = g.pStockSignatureData ∧
    (g.step (.hal c) a).stockSignatureSize = g.stockSignatureSize := by
  cases c with
  | memdescCreate m size => cases a <;> cases m <;> exact ⟨rfl, rfl⟩
  | _ => exact ⟨rfl, rfl⟩

@[simp] theorem copy_tagAlloc {m : Memdesc} {a} :
    (g.step (.tagAlloc m) a).pStockSignatureData = g.pStockSignatureData ∧
    (g.step (.tagAlloc m) a).stockSignatureSize = g.stockSignatureSize := by
  obtain ⟨status, b⟩ := a
  cases status <;> cases m <;> exact ⟨rfl, rfl⟩

@[simp] theorem copy_destroy {m : Memdesc} : (g.destroy m).pStockSignatureData = g.pStockSignatureData ∧
    (g.destroy m).stockSignatureSize = g.stockSignatureSize := by
  cases m <;> exact ⟨rfl, rfl⟩

@[simp] theorem step_test {t : Test} {a} : g.step (.test t) a = g := rfl

@[simp] theorem step_getGsp {a} : g.step .getGsp a = g := rfl

@[simp] theorem step_act {c : Act} {a} : g.step (.act c) a = g.act c := rfl

end

/-! ## `fail_alloc` -/

section
variable {al : Allocator} {g : KernelGsp} {w : World} {status : NvStatus} (hs : status ≠ .ok)
  (hcopy : w.gsp.pStockSignatureData = g.pStockSignatureData)
  (hsize : w.gsp.stockSignatureSize = g.stockSignatureSize)

include hs hcopy hsize

/-- A failure after the allocation undoes the call exactly when there was no copy before and nothing but the buffer
is held. -/
theorem failAlloc_undone :
    (failAlloc true status).wp al.Step (fun _ _ => True) w (fun r w => r ≠ .ok → SignatureUndone g w) ↔
      g.pStockSignatureData = none ∧ ∀ r, taken r w.log =
        released r w.log + if .memory .signature = r ∨ .memdesc .signature = r then 1 else 0 := by
  have hbuffer (r : Resource) (n k : Nat) : ((n + if .memory .signature = r then 1 else 0) +
      if .memdesc .signature = r then 1 else 0) = k ↔
      k = n + if .memory .signature = r ∨ .memdesc .signature = r then 1 else 0 := by
    cases r <;> simp [eq_comm]
  cases hg : g.pStockSignatureData with
  | none =>
      simp [failAlloc, failCreate, hcopy, hsize, hg, KernelGsp.act, signatureUndone_iff, hs, Event.takes,
        Event.releases, hbuffer]
  | some data => simp [failAlloc, failCreate, hcopy, hg, KernelGsp.act, signatureUndone_iff, hs]

/-- A failure after the buffer was mapped leaves it mapped. -/
theorem failAlloc_mapped (hmap : taken (.mapping .signature) w.log ≠ released (.mapping .signature) w.log) :
    ¬ (failAlloc true status).wp al.Step (fun _ _ => True) w fun r w => r ≠ .ok → SignatureUndone g w := by
  rw [failAlloc_undone hs hcopy hsize]
  rintro ⟨-, h⟩
  exact hmap (h (.mapping .signature))

end

/-! ## The calls -/

section
variable {pGpu : ObjGpu} {fw : GspFirmware} {al : Allocator} {s : Slots} {g : KernelGsp}
  (hcmp : isCmp50ComputeUnlock pGpu)

include hcmp

/-- A call that maps the buffer undoes nothing, so it is good only if it cannot fail any more. -/
theorem create_mapped (hc : al.memdescCreate = .ok) (ha : al.memdescTagAlloc.1 = .ok)
    (hm : al.memdescMapInternal = true) :
    (kgspCreateSignatureMemdesc pGpu fw).wp al.Step (fun _ _ => True) (startWorld s g)
        (fun r w => r ≠ .ok → SignatureUndone g w) ↔
      g.pStockSignatureData = none ∧ Copyable fw al := by
  obtain ⟨_, ⟨_, b⟩, _, copied⟩ := al
  cases hc
  cases ha
  cases hm
  cases hd : fw.pSignatureData with
  | none =>
      simp [kgspCreateSignatureMemdesc, createCanarySignature, hcmp, hd, Copyable]
      apply failAlloc_mapped
      all_goals simp [startWorld, Event.takes, Event.releases]
  | some data =>
      cases hg : g.pStockSignatureData with
      | some copy =>
          simp [kgspCreateSignatureMemdesc, createCanarySignature, hcmp, hd, hg, startWorld]
          apply failAlloc_mapped
          all_goals simp [Event.takes, Event.releases, hg]
      | none =>
          by_cases hz : fw.signatureSize = 0
          · simp [kgspCreateSignatureMemdesc, createCanarySignature, hcmp, hd, hz, Copyable, startWorld]
            apply failAlloc_mapped
            all_goals simp [Event.takes, Event.releases, hg]
          cases copied with
          | false =>
              simp [kgspCreateSignatureMemdesc, createCanarySignature, hcmp, hd, hg, hz, Copyable, startWorld]
              apply failAlloc_mapped
              all_goals simp [Event.takes, Event.releases, hg]
          | true =>
              simp [kgspCreateSignatureMemdesc, createCanarySignature, kgspCreateSignatureMemdesc.finish, hcmp, hd, hg,
                hz, Copyable, startWorld]

theorem create_unmapped (hc : al.memdescCreate = .ok) (ha : al.memdescTagAlloc.1 = .ok)
    (hm : al.memdescMapInternal = false) :
    (kgspCreateSignatureMemdesc pGpu fw).wp al.Step (fun _ _ => True) (startWorld s g)
        (fun r w => r ≠ .ok → SignatureUndone g w) ↔ g.pStockSignatureData = none := by
  obtain ⟨_, ⟨_, b⟩, _, copied⟩ := al
  cases hc
  cases ha
  cases hm
  simp only [kgspCreateSignatureMemdesc, hcmp, if_true, Prog.wp_bind, wp_hal_with, wp_tagAlloc_with, wp_test_with,
    admits_memdescCreate, admits_tagAlloc, admits_memdescMapInternal, forall_eq, ne_eq, not_true_eq_false, if_false,
    true_and, Bool.not_false]
  rw [failAlloc_undone (g := g) (by simp) (by simp [startWorld]) (by simp [startWorld])]
  simp [startWorld, Event.takes, Event.releases]
  intro _ r
  cases r <;> simp

theorem create_refused (h : al.memdescCreate ≠ .ok ∨ al.memdescTagAlloc.1 ≠ .ok) :
    (kgspCreateSignatureMemdesc pGpu fw).wp al.Step (fun _ _ => True) (startWorld s g)
        fun r w => r ≠ .ok → SignatureUndone g w := by
  obtain ⟨created, ⟨allocated, b⟩, mapped, copied⟩ := al
  by_cases hc : created = .ok
  · have ha : allocated ≠ .ok := by simpa [hc] using h
    simp [kgspCreateSignatureMemdesc, failCreate, hcmp, hc, ha, signatureUndone_iff, startWorld, KernelGsp.act,
      Event.takes, Event.releases]
  · simp [kgspCreateSignatureMemdesc, hcmp, hc, signatureUndone_iff, startWorld, Event.takes, Event.releases]

end

end Cmp50Unlock.Stockflow
