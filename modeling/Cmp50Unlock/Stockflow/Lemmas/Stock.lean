import Cmp50Unlock.Stockflow.Lemmas.Cards
import Cmp50Unlock.Stockflow.Lemmas.Jumps
import Cmp50Unlock.Stockflow.Stock

/-!
# Other GPUs run the code from before the patch

On a GPU that is no CMP50 every branch of the patch is dead, whatever the per-slot arrays hold.
-/

namespace Cmp50Unlock.Stockflow

open Lib

section
variable {stock : StockCode} {pGpu : ObjGpu} {bootMode : BootMode} (hcmp : isCmp50ComputeUnlock pGpu = false)

include hcmp

/-! ## Booter -/

theorem notNativeBooterProbe : isCmp50NativeBooterProbe pGpu = pure false := by
  simp [isCmp50NativeBooterProbe, andAlso, hcmp]

theorem kgspExecuteHsFalcon_stock (pFlcnUcode : FlcnUcode) (addr : BitVec 64) :
    kgspExecuteHsFalcon pGpu pFlcnUcode addr = Stock.kgspExecuteHsFalcon pFlcnUcode addr := by
  simp [kgspExecuteHsFalcon, Stock.kgspExecuteHsFalcon, notNativeBooterProbe hcmp, andAlso]

theorem kgspExecuteBooterLoad_stock (addr : BitVec 64) :
    kgspExecuteBooterLoad pGpu addr = Stock.kgspExecuteBooterLoad addr := by
  simp [kgspExecuteBooterLoad, Stock.kgspExecuteBooterLoad, notNativeBooterProbe hcmp, stockBooterLoad,
    executeBooterUcode, Stock.executeBooterUcode, kgspExecuteHsFalcon_stock hcmp, hcmp]

/-! ## The bootstrap -/

theorem executeFwsec_stock : executeFwsec pGpu = Stock.executeFwsec := by
  simp [executeFwsec, Stock.executeFwsec, hcmp]

theorem stockBooterPart_stock (rejoin : Bool) :
    stockBooterPart stock pGpu bootMode rejoin = Exit.ret <$> Stock.executeBooter stock bootMode := by
  simp [stockBooterPart, executeStockBooter, finishBoot, Stock.executeBooter, kgspExecuteBooterLoad_stock hcmp, hcmp,
    Prog.map_ite]

theorem scrubberAndFwsec_stock (idx : Nat) :
    scrubberAndFwsec stock pGpu bootMode idx >>= Goto.rest (fun _ => Stock.executeBooter stock bootMode) =
      Stock.kgspBootstrap stock bootMode := by
  simp [scrubberAndFwsec, fwsecBlock, Stock.kgspBootstrap, executeFwsec_stock hcmp, hcmp, Prog.ite_bind]

theorem inlines_stockBooter (rejoin : Bool) : Goto.Inlines Step (kgspBootstrap stock pGpu bootMode)
    (.cmp50V525StockBooter rejoin) (Stock.executeBooter stock bootMode) := by
  have h : Goto.Inlines Step (kgspBootstrap stock pGpu bootMode) (.cmp50V525StockBooter rejoin)
      (stockBooterPart stock pGpu bootMode rejoin >>= Goto.rest fun _ => pure .ok) :=
    Goto.inlines_bind ((stockBooterPart_returns rejoin).mono (fun _ h => h) fun e he l' hl => absurd hl (he l'))
  rw [stockBooterPart_stock hcmp] at h
  simpa using h

theorem inlines_commit : Goto.Inlines Step (kgspBootstrap stock pGpu bootMode) .cmp50V274Commit
    (Stock.kgspBootstrap stock bootMode) := by
  have hpart : commitPart stock pGpu bootMode =
      scrubberAndFwsec stock pGpu bootMode (cmp50StockflowGpuIndex pGpu) := by
    simp [commitPart, hcmp]
  have hstock : (commitPart stock pGpu bootMode).Within (fun _ => True) ToStock := by
    simp [hpart, scrubberAndFwsec, executeScrubberIfNeeded, fwsecBlock, executeFwsec, hcmp, ToStock]
  have h : Goto.Inlines Step (kgspBootstrap stock pGpu bootMode) .cmp50V274Commit
      (commitPart stock pGpu bootMode >>= Goto.rest fun _ => Stock.executeBooter stock bootMode) := by
    refine Goto.inlines_bind (hstock.mono (fun _ h => h) fun e he l' hl => ?_)
    obtain ⟨rejoin, rfl⟩ := he l' hl
    exact inlines_stockBooter hcmp rejoin
  rwa [hpart, scrubberAndFwsec_stock hcmp] at h

/-- The whole function is the one from before the patch. -/
theorem inlines_stock : Goto.Inlines Step (kgspBootstrap stock pGpu bootMode) .entry
    (Stock.kgspBootstrap stock bootMode) := by
  have hpart : entryPart pGpu bootMode = pure (.goto .cmp50V274Commit) := by simp [entryPart, hcmp]
  have h : Goto.Inlines Step (kgspBootstrap stock pGpu bootMode) .entry
      (entryPart pGpu bootMode >>= Goto.rest fun _ => Stock.kgspBootstrap stock bootMode) := by
    refine Goto.inlines_bind ?_
    change (entryPart pGpu bootMode).Within _ _
    rw [hpart]
    rintro l' hl
    cases hl
    exact inlines_commit hcmp
  rwa [hpart, pure_bind] at h

theorem Op.Own.keepsSlots {o : Op} (h : o.Own pGpu) : o.KeepsSlots := by
  unfold Op.KeepsSlots
  split <;> first | exact absurd h.1 (by simp [hcmp]) | trivial

theorem issued_keepsSlots {s : Slots} {g : KernelGsp} {o : Op} {w : World}
    (hi : Issued stock pGpu bootMode s g o w) : o.KeepsSlots := by
  obtain ⟨l, w₁, -, hi⟩ := hi
  exact ((bootstrap_own l).issued hi).keepsSlots hcmp

theorem returns_keepsSlots {s : Slots} {g : KernelGsp} {r : NvStatus} {w : World}
    (hr : Returns stock pGpu bootMode s g r w) : w.slots = s := by
  obtain ⟨l, w₁, hreach, he⟩ := hr
  have hown : ∀ l, (kgspBootstrap stock pGpu bootMode l).Uses (Op.Own pGpu) := fun l => bootstrap_own l
  have hw₁ : w₁.slots = s :=
    hreach.inv (I := fun _ w => w.slots = s) rfl fun l₁ w₁ _ _ hs he =>
      (slots_frame (hown l₁) (fun _ ho => ho.keepsSlots hcmp) he).trans hs
  exact (slots_frame (hown l) (fun _ ho => ho.keepsSlots hcmp) he).trans hw₁

end

/-! ## The signature buffer -/

section
variable (fw : GspFirmware) (w : World)

/-- After the allocation of the signature buffer. -/
abbrev afterAlloc (status : NvStatus) (b : Backing) : World :=
  (w.after (.hal (.memdescCreate .signature (alignUp256 fw.signatureSize))) .ok).after
    (.tagAlloc .signature) (status, b)

theorem stock_create_failed {status : NvStatus} (hst : status ≠ .ok) : (Stock.kgspCreateSignatureMemdesc fw).Exec Step w
    status (w.after (.hal (.memdescCreate .signature (alignUp256 fw.signatureSize))) status) := by
  simp only [Stock.kgspCreateSignatureMemdesc, Prog.exec_bind]
  exact ⟨status, _, exec_hal.mpr rfl, by rw [if_pos hst]; exact ⟨rfl, rfl⟩⟩

theorem stock_alloc_failed {status : NvStatus} (b : Backing) (hst : status ≠ .ok) :
    (Stock.kgspCreateSignatureMemdesc fw).Exec Step w status
      ((afterAlloc fw w status b).after (.act (.memdescDestroy .signature)) ()) := by
  simp only [Stock.kgspCreateSignatureMemdesc, Prog.exec_bind]
  refine ⟨.ok, _, exec_hal.mpr rfl, ?_⟩
  simp only [ne_eq, not_true_eq_false, if_false, Prog.exec_bind]
  refine ⟨(status, b), _, exec_tagAlloc.mpr rfl, ?_⟩
  simp only [if_pos hst, failCreate, Prog.exec_bind]
  exact ⟨(), _, exec_act.mpr rfl, rfl, rfl⟩

theorem stock_map_failed (b : Backing) : (Stock.kgspCreateSignatureMemdesc fw).Exec Step w .errInsufficientResources
    ((((afterAlloc fw w .ok b).after (.test (.memdescMapInternal .signature)) false).after
      (.act (.memdescFree .signature)) ()).after (.act (.memdescDestroy .signature)) ()) := by
  simp only [Stock.kgspCreateSignatureMemdesc, Prog.exec_bind]
  refine ⟨.ok, _, exec_hal.mpr rfl, ?_⟩
  simp only [ne_eq, not_true_eq_false, if_false, Prog.exec_bind]
  refine ⟨(.ok, b), _, exec_tagAlloc.mpr rfl, ?_⟩
  simp only [not_true_eq_false, if_false, Prog.exec_bind]
  refine ⟨false, _, exec_test.mpr rfl, ?_⟩
  simp only [Bool.not_false, if_true, failCreate, Prog.exec_bind]
  exact ⟨(), _, exec_act.mpr rfl, (), _, exec_act.mpr rfl, rfl, rfl⟩

/-- After the copy of the signature. -/
abbrev afterCopy (b : Backing) : World :=
  (((afterAlloc fw w .ok b).after (.test (.memdescMapInternal .signature)) true).after
    (.act (.putSignature (portMemCopy (fw.pSignatureData.getD [])))) ()).after
    (.act (.memdescUnmapInternal .signature)) ()

theorem stock_created (b : Backing) : (Stock.kgspCreateSignatureMemdesc fw).Exec Step w .ok (afterCopy fw w b) := by
  simp only [Stock.kgspCreateSignatureMemdesc, Prog.exec_bind]
  refine ⟨.ok, _, exec_hal.mpr rfl, ?_⟩
  simp only [ne_eq, not_true_eq_false, if_false, Prog.exec_bind]
  refine ⟨(.ok, b), _, exec_tagAlloc.mpr rfl, ?_⟩
  simp only [not_true_eq_false, if_false, Prog.exec_bind]
  refine ⟨true, _, exec_test.mpr rfl, ?_⟩
  simp only [Bool.not_true, Bool.false_eq_true, if_false, Prog.exec_bind]
  exact ⟨(), _, exec_act.mpr rfl, (), _, exec_act.mpr rfl, rfl, rfl⟩

/-- The stock size and the stock content. -/
def StockSignature (g : KernelGsp) : Prop :=
  ∃ m bytes, g.pSignatureMemdesc = some m ∧ m.size = alignUp256 fw.signatureSize ∧
    m.mem.bytes = portMemCopy (fw.pSignatureData.getD []) bytes

theorem create_stock {pGpu : ObjGpu} (hcmp : isCmp50ComputeUnlock pGpu = false) :
    (kgspCreateSignatureMemdesc pGpu fw).wp Step (fun _ _ => True) w fun r w' => w'.slots = w.slots ∧
      (∃ w'', (Stock.kgspCreateSignatureMemdesc fw).Exec Step w r w'' ∧ w''.gsp = w'.gsp) ∧
      (r = .ok → StockSignature fw w'.gsp) := by
  simp only [kgspCreateSignatureMemdesc, kgspCreateSignatureMemdesc.finish, failCreate, failAlloc, hcmp, Prog.wp_bind,
    Prog.wp_ite, Prog.wp_pure, wp_hal, wp_tagAlloc, wp_test, wp_act, wp_getGsp, true_and, Bool.false_eq_true, if_false,
    false_and]
  intro status
  refine ⟨fun hst => ⟨rfl, ⟨_, stock_create_failed fw w hst, rfl⟩, fun h => absurd h hst⟩, fun hst => ?_⟩
  obtain rfl := Decidable.not_not.mp hst
  rintro ⟨status, b⟩
  refine ⟨fun hst => ⟨rfl, ⟨_, stock_alloc_failed fw w b hst, rfl⟩, fun h => absurd h hst⟩, fun hst => ?_⟩
  obtain rfl := Decidable.not_not.mp hst
  rintro (_ | _)
  · refine ⟨fun _ => ⟨rfl, ⟨_, stock_map_failed fw w b, rfl⟩, fun h => by cases h⟩, fun h => absurd rfl h⟩
  · refine ⟨fun h => absurd h (by decide), fun _ => ⟨rfl, ⟨_, stock_created fw w b, rfl⟩, fun _ => ?_⟩⟩
    exact ⟨_, b.bytes, rfl, rfl, rfl⟩

end

end Cmp50Unlock.Stockflow
