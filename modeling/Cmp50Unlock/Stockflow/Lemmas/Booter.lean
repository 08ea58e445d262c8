import Cmp50Unlock.Stockflow.Lemmas.Footprint

/-!
# Booter launches

What a launch of Booter may do in either mode, and the state it starts from when the exploit mode is off.
-/

namespace Cmp50Unlock.Stockflow

open Lib

/-! ## Footprints -/

theorem booterLoad_uses (pGpu : ObjGpu) (addr : BitVec 64) :
    (kgspExecuteBooterLoad pGpu addr).Uses fun o => o.Boots ∧ o.KeepsBuffers := by
  simp [kgspExecuteBooterLoad, isCmp50NativeBooterProbe, kgspCmp50GetExploitMode, nativeBooterProbe, stockBooterLoad,
    executeBooterUcode, kgspExecuteHsFalcon, signedExactState, Op.Boots]

/-- The operations around the launch that handle the fresh metadata page. -/
def Op.FreshPage : Op → Prop
  | .getGsp | .hal (.memdescCreate .freshMeta _) | .test (.memdescMapInternal .freshMeta) | .tagAlloc .freshMeta => True
  | .act (.print .freshWprMetadata) | .act (.putFreshMeta _) | .act (.setWprMeta _) => True
  | .act (.memdescUnmapInternal _) | .act (.memdescFlushCpuCaches _) => True
  | .act (.memdescFree .freshMeta) | .act (.memdescDestroy .freshMeta) => True
  | _ => False

section
variable {pGpu : ObjGpu} {S : Op → Prop} (hload : ∀ addr, (kgspExecuteBooterLoad pGpu addr).Uses S)
  (hpage : ∀ o : Op, o.FreshPage → S o)

include hpage

theorem cleanupFreshMeta_within (status : NvStatus) : (cleanupFreshMeta status).Uses S := by
  simp only [cleanupFreshMeta, Prog.Uses, Prog.within_bind, within_act, Prog.within_pure]
  exact ⟨hpage _ trivial, hpage _ trivial, trivial⟩

include hload

theorem launchFreshMeta_within (wprMeta : WprMeta) : (launchFreshMeta pGpu wprMeta).Uses S := by
  have hclean := cleanupFreshMeta_within hpage
  simp only [launchFreshMeta, Prog.Uses, Prog.within_bind, within_act, within_print, within_getGsp]
  refine ⟨hpage _ trivial, hpage _ trivial, hpage _ trivial, hpage _ trivial, fun g => ⟨hpage _ trivial, ?_⟩⟩
  refine (hload _).within fun status => ?_
  simp only [within_test, Prog.within_ite, Prog.within_bind, within_getGsp]
  refine ⟨hpage _ trivial, fun mapped => ⟨fun _ => hclean _, fun _ => ⟨hpage _ trivial, fun g' => ?_⟩⟩⟩
  cases g'.pFreshMeta with
  | none =>
      simp only [Prog.within_bind, within_act]
      exact ⟨hpage _ trivial, hpage _ trivial, hclean _⟩
  | some page =>
      simp only [Prog.within_bind, within_act]
      exact ⟨hpage _ trivial, hpage _ trivial, hpage _ trivial, hclean _⟩

theorem freshMeta_within : (kgspCmp50ExecuteBooterFreshMeta pGpu).Uses S := by
  have hclean := cleanupFreshMeta_within hpage
  simp only [kgspCmp50ExecuteBooterFreshMeta, Prog.Uses, Prog.within_bind, within_getGsp]
  refine ⟨hpage _ trivial, ?_⟩
  rintro ⟨_, _, _, _ | wprMeta, _ | descriptor, _, _⟩ <;> try trivial
  simp only [Prog.within_bind, Prog.within_ite, Prog.within_pure, within_hal, within_tagAlloc, within_test]
  refine ⟨hpage _ trivial, fun _ =>
    ⟨fun _ => trivial, fun _ => ⟨hpage _ trivial, fun _ => ⟨fun _ => hclean _, fun _ => ?_⟩⟩⟩⟩
  exact ⟨hpage _ trivial, fun _ => ⟨fun _ => hclean _, fun _ => launchFreshMeta_within hload hpage wprMeta⟩⟩

end

theorem freshMeta_uses (pGpu : ObjGpu) :
    (kgspCmp50ExecuteBooterFreshMeta pGpu).Uses fun o => o.Boots ∧ o.KeepsBuffers := by
  refine freshMeta_within (booterLoad_uses pGpu) fun o ho => ?_
  unfold Op.FreshPage at ho
  split at ho <;> first | exact ho.elim | simp [Op.Boots]

/-! ## With the exploit mode off -/

/-- Nothing was read, and the signature and the metadata are as they were. -/
structure SameBoot (w w' : World) : Prop where
  reads : ∀ r, lastRead r w'.log = lastRead r w.log
  signature : w'.gsp.pSignatureMemdesc = w.gsp.pSignatureMemdesc
  wprMeta : w'.gsp.pWprMeta = w.gsp.pWprMeta

section
variable {pGpu : ObjGpu} {w : World}
  (hoff : w.slots.flag .exploitMode (cmp50ExploitModeIndex pGpu) = false)

include hoff

theorem booterLoad_wp_off {addr : BitVec 64} :
    (kgspExecuteBooterLoad pGpu addr).wp Step
      (Op.Calm w.slots fun w' a => a = addr ∧ w'.gsp = w.gsp ∧ ∀ r, lastRead r w'.log = lastRead r w.log)
      w fun _ w' => w'.slots = w.slots := by
  simp [kgspExecuteBooterLoad, isCmp50NativeBooterProbe, kgspCmp50GetExploitMode, stockBooterLoad, executeBooterUcode,
    kgspExecuteHsFalcon, Slots.step, hoff, Op.Calm, lastRead, KernelGsp.step, KernelGsp.act]

theorem launchFreshMeta_wp_off {wprMeta : WprMeta} {page : MetaPage} (hp : w.gsp.pFreshMeta = some page) :
    (launchFreshMeta pGpu wprMeta).wp Step
      (Op.Calm w.slots fun w' a => SameBoot w w' ∧ w'.gsp.pFreshMeta = some ⟨a, wprMeta⟩)
      w fun _ w' => w'.slots = w.slots := by
  simp only [launchFreshMeta, Prog.wp_bind]
  simp [Op.Calm, Slots.step, KernelGsp.step, KernelGsp.act, hp]
  refine (booterLoad_wp_off ?_).imp ?_ ?_
  · exact hoff
  · rintro w' o h
    refine Op.Calm.mono h ?_
    rintro addr ⟨rfl, hg, hr⟩
    refine ⟨⟨hr, ?_, ?_⟩, ?_⟩ <;> simp [hg, KernelGsp.step, KernelGsp.act, hp]
  · rintro status w' hs
    have hs : w'.slots = w.slots := hs
    cases w'.gsp.pFreshMeta <;> simp [cleanupFreshMeta, Op.Calm, Slots.step, hs]

theorem freshMeta_wp_off :
    (kgspCmp50ExecuteBooterFreshMeta pGpu).wp Step
      (Op.Calm w.slots fun w' a => SameBoot w w' ∧ w'.gsp.pFreshMeta = w.gsp.pWprMeta.map (MetaPage.mk a))
      w fun _ w' => w'.slots = w.slots := by
  simp only [kgspCmp50ExecuteBooterFreshMeta, Prog.wp_bind, wp_getGsp]
  refine ⟨⟨trivial, rfl⟩, ?_⟩
  cases hm : w.gsp.pWprMeta with
  | none => rfl
  | some wprMeta =>
      cases w.gsp.pWprMetaDescriptor with
      | none => rfl
      | some descriptor =>
          simp [Op.Calm, Slots.step, cleanupFreshMeta]
          rintro status b rfl
          refine (launchFreshMeta_wp_off ?_ rfl).imp ?_ fun _ _ h => h
          · exact hoff
          · rintro w' o h
            refine h.mono ?_
            rintro addr ⟨⟨hr, hsig, hmeta⟩, hp⟩
            exact ⟨⟨hr, hsig, hmeta⟩, hp⟩

end

end Cmp50Unlock.Stockflow
