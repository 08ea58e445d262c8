import Cmp50Unlock.Lib.Wp
import Cmp50Unlock.Stockflow.Bootstrap
import Mathlib.Tactic.MkIffOfInductiveProp

/-!
# What the parts of the bootstrap leave alone

Most of what the bootstrap calls cannot touch the state that the transaction is about. It is enough to look
at the operations a function may issue.
-/

namespace Cmp50Unlock.Stockflow

open Lib

/-! ## Kinds of operations -/

/-- The log lines that report a passed comparison of the live WPR2 range with the captured one. -/
@[simp] def Msg.IsWprPass : Msg → Prop
  | .persistentReadyRefwsecStockWprPass | .refwsecStockWprPass | .riscvModeBootargsPass => True
  | _ => False

/-- The log lines of the exploit-mode branches of `kgspExecuteBooterLoad_TU102` and
`kgspExecuteHsFalcon_TU102`. -/
@[simp] def Msg.IsExploitRun : Msg → Prop
  | .preResetPlmMismatch | .preResetSkippedHaltedPass | .fecsFeaturePlmResult | .mailbox1Accepted
  | .signedFullspeedPass | .signedExactStateMismatch | .exploitBooterBoundedHaltWait => True
  | _ => False

/-- The operation belongs to no decision of the transaction: it leaves the per-slot arrays alone, launches
nothing, does not run FWSEC, reports no passed comparison and is not part of an exploit-mode branch. -/
@[simp] def Op.Quiet : Op → Prop
  | .act (.setFlag ..) | .act (.setWpr ..) | .launch .. | .hal .kgspExecuteFwsec => False
  | .hal (.kflcnWaitForHalt t) => t ≠ some boundedHaltWait
  | .act (.print m) => ¬ m.IsWprPass ∧ ¬ m.IsExploitRun
  | _ => True

/-- The operation may be issued on the way to a Booter run. -/
def Op.Boots : Op → Prop
  | .launch u _ => u = .booterLoad
  | .hal (.kflcnWaitForHalt _) => True
  | .act (.print m) => ¬ m.IsWprPass
  | o => o.Quiet

/-- While the arrays are `s`, the operation is quiet, or it launches Booter in a state that satisfies `L`. -/
def Op.Calm (s : Slots) (L : World → BitVec 64 → Prop) (w : World) : Op → Prop
  | .launch u addr => u = .booterLoad ∧ w.slots = s ∧ L w addr
  | o => o.Quiet ∧ w.slots = s

/-- The operation leaves the per-slot arrays alone. -/
def Op.KeepsSlots : Op → Prop
  | .act (.setFlag ..) | .act (.setWpr ..) => False
  | _ => True

/-- The operation reads no register. -/
@[simp] def Op.NoRead : Op → Prop
  | .rd _ => False
  | _ => True

/-- The operation leaves the signature buffer and the saved copy alone. -/
@[simp] def Op.KeepsBuffers : Op → Prop
  | .hal (.memdescCreate .signature _) | .tagAlloc .signature => False
  | .act (.memdescDestroy .signature) | .act (.putSignature _) => False
  | .act (.putStockSignature ..) | .act .portMemFreeStock => False
  | _ => True

/-- The operation leaves the canonical metadata page alone. -/
@[simp] def Op.KeepsMeta : Op → Prop
  | .launch .. | .act (.setWprMeta _) => False
  | _ => True

/-- Nothing but the metadata pages differs. -/
@[mk_iff]
structure KernelGsp.SameBuffers (g g' : KernelGsp) : Prop where
  memdesc : g'.pSignatureMemdesc = g.pSignatureMemdesc
  copy : g'.pStockSignatureData = g.pStockSignatureData
  size : g'.stockSignatureSize = g.stockSignatureSize

theorem Op.Quiet.keepsSlots {o : Op} (h : o.Quiet) : o.KeepsSlots := by
  unfold Op.KeepsSlots
  split <;> first | exact h.elim | trivial

theorem Op.Boots.keepsSlots {o : Op} (h : o.Boots) : o.KeepsSlots := by
  unfold Op.KeepsSlots
  split <;> first | exact h.elim | trivial

theorem Op.Quiet.calm {o : Op} {s : Slots} {L : World → BitVec 64 → Prop} {w : World} (h : o.Quiet)
    (hs : w.slots = s) : o.Calm s L w := by
  cases o with
  | launch u addr => exact h.elim
  | _ => exact ⟨h, hs⟩

theorem Op.Calm.mono {o : Op} {s : Slots} {L L' : World → BitVec 64 → Prop} {w : World} (h : o.Calm s L w)
    (hL : ∀ a, L w a → L' w a) : o.Calm s L' w := by
  cases o with
  | launch u addr => exact ⟨h.1, h.2.1, hL addr h.2.2⟩
  | _ => exact h

@[simp] theorem slots_after {w : World} {o : Op} {a : o.Ans} : (w.after o a).slots = w.slots.step o := rfl

@[simp] theorem gsp_after {w : World} {o : Op} {a : o.Ans} : (w.after o a).gsp = w.gsp.step o a := rfl

@[simp] theorem log_after {w : World} {o : Op} {a : o.Ans} : (w.after o a).log = ⟨o, a⟩ :: w.log := rfl

theorem Op.KeepsSlots.step {o : Op} (h : o.KeepsSlots) (s : Slots) : s.step o = s := by
  unfold Slots.step
  split <;> first | rfl | exact h.elim

theorem Op.NoRead.lastRead {o : Op} (h : o.NoRead) (r : Reg) (a : o.Ans) (log : List Event) :
    lastRead r (⟨o, a⟩ :: log) = lastRead r log := by
  cases o <;> first | exact h.elim | rfl

theorem Op.KeepsBuffers.step {o : Op} (h : o.KeepsBuffers) (g : KernelGsp) (a : o.Ans) :
    g.SameBuffers (g.step o a) := by
  cases o with
  | hal c =>
      cases c with
      | memdescCreate m size => cases a <;> cases m <;> first | exact h.elim | exact ⟨rfl, rfl, rfl⟩
      | _ => exact ⟨rfl, rfl, rfl⟩
  | tagAlloc m =>
      obtain ⟨status, b⟩ := a
      cases status <;> cases m <;> first | exact h.elim | exact ⟨rfl, rfl, rfl⟩
  | act c =>
      cases c with
      | memdescDestroy m => cases m <;> first | exact h.elim | exact ⟨rfl, rfl, rfl⟩
      | _ => first | exact h.elim | exact ⟨rfl, rfl, rfl⟩
  | _ => exact ⟨rfl, rfl, rfl⟩

theorem KernelGsp.SameBuffers.trans {g g₁ g₂ : KernelGsp} (h₁ : g.SameBuffers g₁) (h₂ : g₁.SameBuffers g₂) :
    g.SameBuffers g₂ :=
  ⟨h₂.memdesc.trans h₁.memdesc, h₂.copy.trans h₁.copy, h₂.size.trans h₁.size⟩

theorem Op.KeepsMeta.step {o : Op} (h : o.KeepsMeta) (g : KernelGsp) (a : o.Ans) :
    (g.step o a).pWprMeta = g.pWprMeta := by
  cases o with
  | hal c =>
      cases c with
      | memdescCreate m size => cases a <;> cases m <;> rfl
      | _ => rfl
  | tagAlloc m =>
      obtain ⟨status, b⟩ := a
      cases status <;> cases m <;> rfl
  | act c =>
      cases c with
      | memdescDestroy m => cases m <;> rfl
      | _ => first | exact h.elim | rfl
  | launch u addr => exact h.elim
  | _ => rfl

section
variable {α : Type} {p : Driver α} {S : Op → Prop} {R : α → Prop} {w w' : World} {r : α}

theorem Op.KeepsSlots.of_step {o : Op} {a : o.Ans} (h : o.KeepsSlots) (hs : Step o w a w') :
    w'.slots = w.slots := by
  rw [hs.2]
  exact h.step w.slots

theorem slots_frame (h : p.Within S R) (hS : ∀ o, S o → o.KeepsSlots) (he : p.Exec Step w r w') :
    w'.slots = w.slots :=
  (h.exec (I := fun w' => w'.slots = w.slots) (fun _ _ _ _ ho hs hI => ((hS _ ho).of_step hs).trans hI) he rfl).2

theorem slots_frame_issued {o : Op} (h : p.Within S R) (hS : ∀ o, S o → o.KeepsSlots)
    (hi : p.Issued Step w o w') : w'.slots = w.slots :=
  h.issued_inv (I := fun w' => w'.slots = w.slots) (fun _ _ _ _ ho hs hI => ((hS _ ho).of_step hs).trans hI) hi rfl

/-- A quiet program, whatever else its footprint says. -/
theorem quiet_wp (h : p.Within S R) (hS : ∀ o, S o → o.Quiet) :
    p.wp Step (Op.Calm w.slots fun _ _ => False) w fun r w' => p.Exec Step w r w' ∧ w'.slots = w.slots := by
  refine Prog.wp_iff.mpr ⟨fun o w' hi => ?_, fun r w' he => ⟨he, ?_⟩⟩
  · exact (hS o (h.issued hi)).calm (slots_frame_issued h (fun o ho => (hS o ho).keepsSlots) hi)
  · exact slots_frame h (fun o ho => (hS o ho).keepsSlots) he

theorem lastRead_frame (h : p.Within S R) (hS : ∀ o, S o → o.NoRead) (he : p.Exec Step w r w') (reg : Reg) :
    lastRead reg w'.log = lastRead reg w.log := by
  refine (h.exec (I := fun w' => lastRead reg w'.log = lastRead reg w.log) (fun o w₁ a w₂ ho hs hI => ?_) he rfl).2
  rw [hs.2]
  exact ((hS o ho).lastRead reg a w₁.log).trans hI

theorem buffers_frame (h : p.Within S R) (hS : ∀ o, S o → o.KeepsBuffers) (he : p.Exec Step w r w') :
    w.gsp.SameBuffers w'.gsp := by
  refine (h.exec (I := fun w' => w.gsp.SameBuffers w'.gsp) (fun o w₁ a w₂ ho hs hI => ?_) he ⟨rfl, rfl, rfl⟩).2
  have hg : w₁.gsp.SameBuffers w₂.gsp := hs.2 ▸ (hS o ho).step w₁.gsp a
  exact hI.trans hg

theorem wprMeta_frame (h : p.Within S R) (hS : ∀ o, S o → o.KeepsMeta) (he : p.Exec Step w r w') :
    w'.gsp.pWprMeta = w.gsp.pWprMeta :=
  (h.exec (I := fun w' => w'.gsp.pWprMeta = w.gsp.pWprMeta)
    (fun o w₁ a _ ho hs hI => hs.2 ▸ ((hS o ho).step w₁.gsp a).trans hI) he rfl).2

end

/-! ## The parts -/

theorem rebuild_uses :
    kgspCmp50RebuildStockSignature.Uses fun o => o.Quiet ∧ o.NoRead := by
  unfold kgspCmp50RebuildStockSignature
  simp only [Prog.Uses, Prog.within_bind, within_getGsp]
  refine ⟨⟨trivial, trivial⟩, ?_⟩
  rintro ⟨_ | m, _ | data, size, _ | wprMeta, _, _, _⟩ <;> simp

theorem sanitize_uses :
    kgspCmp50SanitizeSec2AfterExploit.Uses fun o => o.Quiet ∧ o.KeepsBuffers ∧ o.KeepsMeta := by
  simp [kgspCmp50SanitizeSec2AfterExploit, boundedHaltWait]

theorem refwsec_uses (idx : Nat) : (refwsec idx).Uses fun o => o.KeepsBuffers ∧ o.KeepsMeta := by
  simp [refwsec, wprNeStock, readGate]

theorem riscvBootargs_uses (idx : Nat) : (riscvBootargs idx).Uses fun o => o.KeepsBuffers ∧ o.KeepsMeta := by
  simp [riscvBootargs, rdNeStock, fullSpeedLost]

theorem joinStockBooter_uses (pGpu : ObjGpu) :
    (joinStockBooter pGpu).Uses fun o => o.KeepsBuffers ∧ o.KeepsMeta := by
  simp [joinStockBooter, kgspCmp50SetExploitMode]

theorem policy_uses : cmp50ApplyGen2Policy.Uses Op.Quiet := by
  simp [cmp50ApplyGen2Policy, policyOk]

theorem checkStockBooter_uses : checkStockBooter.Uses Op.Quiet := by
  simp [checkStockBooter, policy_uses]

end Cmp50Unlock.Stockflow
