import Cmp50Unlock.Stockflow.Cards
import Cmp50Unlock.Stockflow.Lemmas.Booter

/-!
# The parts without FWSEC

Outside a few lines, the bootstrap neither runs FWSEC nor touches its command, stores no range, and accesses no
entry of the arrays but those of a CMP50's own slot; and outside the two forms of a launch it touches no fresh
page. What is shown here of a part is used for all of these.
-/

namespace Cmp50Unlock.Stockflow

open Lib

/-- The operation has no part in the FWSEC runs and stores no range; if it accesses an entry of the arrays, the GPU is
a CMP50 and the entry is its own. -/
@[simp] def Op.Routine (pGpu : ObjGpu) : Op → Prop
  | .hal .kgspExecuteFwsec | .act .portMemFreeFwsecCmd | .test .frtsRegion | .act (.setWpr ..) => False
  | .getFlag f i | .act (.setFlag f i _) => isCmp50ComputeUnlock pGpu ∧ i = slotOf pGpu f
  | .getWpr _ i => isCmp50ComputeUnlock pGpu ∧ i = cmp50StockflowGpuIndex pGpu
  | _ => True

/-- The operation launches nothing and has no part in the fresh page. -/
@[simp] def Op.OffPage : Op → Prop
  | .launch .. | .hal (.memdescCreate .freshMeta _) | .tagAlloc .freshMeta | .test (.memdescMapInternal .freshMeta) =>
      False
  | .act (.memdescUnmapInternal .freshMeta) | .act (.memdescFree .freshMeta) => False
  | .act (.memdescDestroy .freshMeta) | .act (.putFreshMeta _) => False
  | _ => True

/-- Routine, and not about the fresh page. -/
def Op.Aside (pGpu : ObjGpu) (o : Op) : Prop := o.Routine pGpu ∧ o.OffPage

section
variable {stock : StockCode} {pGpu : ObjGpu} {bootMode : BootMode}

theorem routine_of_aside {α : Type} {p : Driver α} (h : p.Uses (Op.Aside pGpu)) : p.Uses (Op.Routine pGpu) :=
  h.mono (fun _ ho => ho.1) fun _ h => h

/-! ## Booter -/

theorem booterLoad_routine (addr : BitVec 64) : (kgspExecuteBooterLoad pGpu addr).Uses (Op.Routine pGpu) := by
  by_cases hcmp : isCmp50ComputeUnlock pGpu <;>
    simp [kgspExecuteBooterLoad, isCmp50NativeBooterProbe, kgspCmp50GetExploitMode, nativeBooterProbe, stockBooterLoad,
      executeBooterUcode, kgspExecuteHsFalcon, signedExactState, slotOf, hcmp]

theorem freshMeta_routine : (kgspCmp50ExecuteBooterFreshMeta pGpu).Uses (Op.Routine pGpu) := by
  refine freshMeta_within booterLoad_routine fun o ho => ?_
  unfold Op.FreshPage at ho
  split at ho <;> first | exact ho.elim | trivial

theorem executeStockBooter_routine (rejoin : Bool) :
    (executeStockBooter stock pGpu bootMode rejoin).Uses (Op.Routine pGpu) := by
  simp only [executeStockBooter, Prog.Uses, Prog.within_ite, Prog.within_bind, within_getGsp]
  exact ⟨fun _ => freshMeta_routine, fun _ => ⟨trivial, fun g => booterLoad_routine _⟩⟩

/-! ## The stock state -/

theorem rebuild_aside : kgspCmp50RebuildStockSignature.Uses (Op.Aside pGpu) := by
  unfold kgspCmp50RebuildStockSignature
  simp only [Prog.Uses, Prog.within_bind, within_getGsp]
  refine ⟨⟨trivial, trivial⟩, ?_⟩
  rintro ⟨_ | m, _ | data, size, _ | wprMeta, _, _, _⟩ <;> simp [Op.Aside]

theorem sanitize_aside : kgspCmp50SanitizeSec2AfterExploit.Uses (Op.Aside pGpu) := by
  simp [kgspCmp50SanitizeSec2AfterExploit, Op.Aside]

theorem resetWprMetaInput_aside : resetWprMetaInput.Uses (Op.Aside pGpu) := by
  simp only [resetWprMetaInput, Prog.Uses, Prog.within_bind, within_print, within_getGsp]
  refine ⟨⟨trivial, trivial⟩, ⟨trivial, trivial⟩, fun g => ?_⟩
  cases g.pWprMeta <;> simp [Op.Aside]

theorem restoreStock_aside : restoreStock.Uses (Op.Aside pGpu) := by
  simp only [restoreStock, Prog.Uses, Prog.within_bind]
  refine rebuild_aside.within fun status => ?_
  simp only [Prog.within_ite, Prog.within_bind, Prog.within_pure]
  refine ⟨fun _ => trivial, fun _ => resetWprMetaInput_aside.within fun _ => sanitize_aside.within fun status => ?_⟩
  simp [readGate, Op.Aside]

/-! ## The end of the function -/

theorem policy_aside : cmp50ApplyGen2Policy.Uses (Op.Aside pGpu) := by
  simp [cmp50ApplyGen2Policy, policyOk, Op.Aside]

theorem checkStockBooter_aside : checkStockBooter.Uses (Op.Aside pGpu) := by
  simp [checkStockBooter, Op.Aside, policy_aside]

theorem finishBoot_aside : (finishBoot pGpu (cmp50StockflowGpuIndex pGpu)).Uses (Op.Aside pGpu) := by
  simp only [finishBoot, Prog.Uses, Prog.within_bind, Prog.within_ite, Prog.within_pure, within_hal,
    within_print, within_act]
  refine ⟨⟨trivial, trivial⟩, fun status =>
    ⟨fun _ => trivial, fun _ => ⟨⟨trivial, trivial⟩, fun hcmp => ?_, fun _ => trivial⟩⟩⟩
  exact policy_aside.within fun _ => ⟨⟨⟨hcmp, rfl⟩, trivial⟩, ⟨trivial, trivial⟩, trivial⟩

/-- What follows the launch in the last part. -/
theorem stockBooterPart_within {S : Op → Prop} {rejoin : Bool} (hS : ∀ o, o.Aside pGpu → S o)
    (hlaunch : (executeStockBooter stock pGpu bootMode rejoin).Uses S) :
    (stockBooterPart stock pGpu bootMode rejoin).Uses S := by
  have hcheck : checkStockBooter.Uses S := checkStockBooter_aside.mono hS fun _ h => h
  have hfinish : (finishBoot pGpu (cmp50StockflowGpuIndex pGpu)).Uses S := finishBoot_aside.mono hS fun _ h => h
  simp only [stockBooterPart, Prog.Uses, Prog.within_bind]
  refine hlaunch.within fun status => ?_
  simp only [Prog.within_ite, Prog.within_bind, Prog.within_pure, within_print]
  refine ⟨fun _ => ⟨hS _ ⟨trivial, trivial⟩, trivial⟩, fun _ => ⟨fun _ => hcheck.within fun r => ?_, fun _ => hfinish⟩⟩
  cases r with
  | some status => trivial
  | none => exact Prog.within_bind.mpr hfinish

theorem stockBooterPart_routine (rejoin : Bool) :
    (stockBooterPart stock pGpu bootMode rejoin).Uses (Op.Routine pGpu) :=
  stockBooterPart_within (fun _ ho => ho.1) (executeStockBooter_routine rejoin)

/-! ## The commit block -/

section
variable (hcmp : isCmp50ComputeUnlock pGpu)
include hcmp

theorem exploitBooter_routine : (exploitBooter pGpu).Uses (Op.Routine pGpu) := by
  simp only [exploitBooter, kgspCmp50SetExploitMode, Prog.Uses, Prog.within_bind, within_act]
  refine ⟨⟨hcmp, rfl⟩, freshMeta_routine.within fun status => ⟨⟨hcmp, rfl⟩, ?_⟩⟩
  simp [readGate]

theorem riscvBootargs_aside : (riscvBootargs (cmp50StockflowGpuIndex pGpu)).Uses (Op.Aside pGpu) := by
  simp [riscvBootargs, rdNeStock, fullSpeedLost, Op.Aside, slotOf, hcmp]

theorem joinStockBooter_aside : (joinStockBooter pGpu).Uses (Op.Aside pGpu) := by
  simp [joinStockBooter, kgspCmp50SetExploitMode, Op.Aside, slotOf, hcmp]

end

end

end Cmp50Unlock.Stockflow
