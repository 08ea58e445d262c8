import Cmp50Unlock.Stockflow.History
import Cmp50Unlock.Stockflow.Lemmas.Booter
import Cmp50Unlock.Stockflow.Lemmas.Signature

/-!
# The parts of the transaction

What each part of the function checks before it goes on, whichever state it starts in.
-/

namespace Cmp50Unlock.Stockflow

open Lib

/-! ## What holds at each operation -/

/-- The operation `o` is issued by the exploit-mode run of the commit block, or ends it. -/
structure ExploitRun (pGpu : ObjGpu) (bootMode : BootMode) (w : World) (o : Op) : Prop where
  normal : bootMode = .normal
  uncommitted : w.slots.flag .phaseCommitted (cmp50StockflowGpuIndex pGpu) = false
  range : w.slots.HasRange (cmp50StockflowGpuIndex pGpu)
  window : (∃ w₀, (kgspCmp50ExecuteBooterFreshMeta pGpu).Issued Step
      (World.after w₀ (.act (.setFlag .exploitMode (cmp50ExploitModeIndex pGpu) true)) ()) o w) ∨
    o = .act (.setFlag .exploitMode (cmp50ExploitModeIndex pGpu) false)

/-- The call that is in the state `w` came through the gates of the transaction: the exploit-mode run and the
register gate after it, and then the rebuild, the sanitize step and the second gate. -/
def GatesPassed (pGpu : ObjGpu) (w : World) : Prop :=
  ∃ w₁ w₂ w₃, (exploitBooter pGpu).Exec Step w₁ none w₂ ∧ restoreStock.Exec Step w₂ none w₃ ∧ w₃.log <:+ w.log

/-- What holds when `o` is issued with the exploit mode off. `L` is what holds at a launch. -/
def Op.CheckedOff (pGpu : ObjGpu) (L : World → Prop) (w : World) : Op → Prop
  | .launch .. => L w
  | .hal (.kflcnWaitForHalt t) => t ≠ some boundedHaltWait
  | .act (.print m) => (m.IsWprPass → HoldsRange (cmp50StockflowGpuIndex pGpu) w) ∧ ¬ m.IsExploitRun
  | .act (.setFlag .phaseCommitted i b) => i = cmp50StockflowGpuIndex pGpu ∧ b = true ∧ GatesPassed pGpu w
  | _ => True

/-- What holds when the function issues `o`. -/
def Op.Checked (pGpu : ObjGpu) (bootMode : BootMode) (L : World → Prop) (w : World) (o : Op) : Prop :=
  if w.slots.flag .exploitMode (cmp50ExploitModeIndex pGpu) then ExploitRun pGpu bootMode w o
  else o.CheckedOff pGpu L w

section
variable {pGpu : ObjGpu} {bootMode : BootMode} {L : World → Prop} {w : World}

theorem Op.Calm.checked {o : Op} {L' : World → BitVec 64 → Prop} {s : Slots} (h : o.Calm s L' w)
    (hoff : s.flag .exploitMode (cmp50ExploitModeIndex pGpu) = false) (hL : ∀ a, w.slots = s → L' w a → L w) :
    o.Checked pGpu bootMode L w := by
  have hs : w.slots = s := by
    cases o with
    | launch u addr => exact h.2.1
    | _ => exact h.2
  simp only [Op.Checked, hs, hoff, Bool.false_eq_true, if_false]
  unfold Op.CheckedOff
  split
  · exact hL _ hs h.2.2
  · exact h.1
  · exact ⟨fun hm => absurd hm h.1.1, h.1.2⟩
  · exact h.1.elim
  · trivial

theorem GatesPassed.suffix {w' : World} (h : GatesPassed pGpu w) (hl : w.log <:+ w'.log) : GatesPassed pGpu w' := by
  obtain ⟨w₁, w₂, w₃, he₁, he₂, hs⟩ := h
  exact ⟨w₁, w₂, w₃, he₁, he₂, hs.trans hl⟩

theorem GatesPassed.after {o : Op} {a : o.Ans} (h : GatesPassed pGpu w) : GatesPassed pGpu (w.after o a) :=
  h.suffix (List.suffix_cons _ _)

/-! ## The arrays -/

theorem setFlag_same {s : Slots} {f : SlotFlag} {i : Nat} {b : Bool} (h : s.flag f i = b) : s.setFlag f i b = s := by
  obtain ⟨flag, wpr⟩ := s
  simp only [Slots.setFlag, Slots.mk.injEq, and_true]
  funext f' i'
  split
  · next hf => rw [hf.1, hf.2]; exact h.symm
  · rfl

theorem setFlag_restore {s : Slots} {f : SlotFlag} {i : Nat} {b b' : Bool} (h : s.flag f i = b') :
    (s.setFlag f i b).setFlag f i b' = s := by
  rw [← setFlag_same h]
  simp only [Slots.setFlag, Slots.mk.injEq, and_true]
  funext f' i'
  split <;> simp_all

theorem captureStockRange_wp {idx : Nat} {lo hi : BitVec 32} (hb : w.slots.Between) :
    (captureStockRange idx lo hi).wp Step (Op.Checked pGpu bootMode L) w fun r w' =>
      w'.gsp = w.gsp ∧
      (IsStockRange lo hi ∧ r = none ∧ w'.slots = (w.slots.setWpr .lo idx lo).setWpr .hi idx hi ∨
        ¬ IsStockRange lo hi ∧ w'.slots = w.slots ∧
          (r = none ∧ w.slots.HasRange idx ∨ r = some .errInvalidState)) := by
  have hoff := hb.exploitOff (cmp50ExploitModeIndex pGpu)
  by_cases hlt : lo ≠ 0 ∧ lo < hi
  · by_cases hspan : hi - lo = wpr2StockSpan
    · have hr := isStockRange_iff.mpr ⟨hlt, hspan⟩
      simp only [captureStockRange, if_pos hlt]
      simp [hspan, hr, Op.Checked, Op.CheckedOff, Slots.step, KernelGsp.step, KernelGsp.act, hoff, Slots.setWpr]
    · have hr : ¬ IsStockRange lo hi := fun h => hspan (isStockRange_iff.mp h).2
      simp only [captureStockRange, if_pos hlt]
      simp [hspan, hr, Op.Checked, Op.CheckedOff, Slots.step, KernelGsp.step, KernelGsp.act, hoff]
  · have hr : ¬ IsStockRange lo hi := fun h => hlt (isStockRange_iff.mp h).1
    have hstored := (hb.captured idx).hasRange
    simp only [captureStockRange, if_neg hlt]
    simp +contextual [hr, Op.Checked, Op.CheckedOff, Slots.step, KernelGsp.step, KernelGsp.act,
      hoff, Msg.IsWprPass, hstored]

/-! ## The commit block -/

theorem freshMeta_exploit_wp (hm : bootMode = .normal)
    (hc : w.slots.flag .phaseCommitted (cmp50StockflowGpuIndex pGpu) = false)
    (hr : w.slots.HasRange (cmp50StockflowGpuIndex pGpu)) {w₁ : World}
    (hw : w₁ = w.after (.act (.setFlag .exploitMode (cmp50ExploitModeIndex pGpu) true)) ()) :
    (kgspCmp50ExecuteBooterFreshMeta pGpu).wp Step (Op.Checked pGpu bootMode L) w₁ fun _ w' =>
      w'.slots = w₁.slots ∧ w₁.gsp.SameBuffers w'.gsp := by
  refine Prog.wp_iff.mpr ⟨fun o w' hi => ?_, fun r w' he => ⟨?_, ?_⟩⟩
  · have hs : w'.slots = w₁.slots := slots_frame_issued (freshMeta_uses pGpu) (fun _ h => h.1.keepsSlots) hi
    subst hw
    simp only [Op.Checked, hs, slots_after, Slots.step, Slots.setFlag, and_self, if_true]
    refine ⟨hm, ?_, ?_, .inl ⟨w, hi⟩⟩
    · simpa [hs, Slots.step, Slots.setFlag] using hc
    · simpa [hs, Slots.step, Slots.setFlag, Slots.HasRange] using hr
  · exact slots_frame (freshMeta_uses pGpu) (fun _ h => h.1.keepsSlots) he
  · exact buffers_frame (freshMeta_uses pGpu) (fun _ h => h.2) he

theorem freshMeta_restore_checked (hm : bootMode = .normal)
    (hc : w.slots.flag .phaseCommitted (cmp50StockflowGpuIndex pGpu) = false)
    (hr : w.slots.HasRange (cmp50StockflowGpuIndex pGpu)) {w₂ : World}
    (hs : w₂.slots.setFlag .exploitMode (cmp50ExploitModeIndex pGpu) false = w.slots) :
    Op.Checked pGpu bootMode L w₂ (.act (.setFlag .exploitMode (cmp50ExploitModeIndex pGpu) false)) := by
  rw [← hs] at hc hr
  by_cases hon : w₂.slots.flag .exploitMode (cmp50ExploitModeIndex pGpu)
  · simp only [Op.Checked, hon, if_true]
    exact ⟨hm, by simpa [Slots.setFlag] using hc, by simpa [Slots.setFlag, Slots.HasRange] using hr, .inr rfl⟩
  · simp only [Op.Checked, hon]
    trivial

theorem exploitBooter_wp (hb : w.slots.Between) (hm : bootMode = .normal)
    (hc : w.slots.flag .phaseCommitted (cmp50StockflowGpuIndex pGpu) = false)
    (hr : w.slots.HasRange (cmp50StockflowGpuIndex pGpu)) :
    (exploitBooter pGpu).wp Step (Op.Checked pGpu bootMode L) w fun r w' =>
      w'.slots = w.slots ∧ w.gsp.SameBuffers w'.gsp ∧
        (r = none → HoldsDown w'.log ∧ HoldsFullSpeed w'.log) := by
  have hoff := hb.exploitOff (cmp50ExploitModeIndex pGpu)
  simp only [exploitBooter, kgspCmp50SetExploitMode, Prog.wp_bind, wp_act]
  refine ⟨by simp [Op.Checked, Op.CheckedOff, hoff], ?_⟩
  refine (freshMeta_exploit_wp hm hc hr rfl).mono fun status w₂ hpost => ?_
  obtain ⟨hs, hg⟩ := hpost
  have hs : w₂.slots.setFlag .exploitMode (cmp50ExploitModeIndex pGpu) false = w.slots := by
    rw [hs, slots_after, Slots.step, setFlag_restore hoff]
  have hg : w.gsp.SameBuffers w₂.gsp := hg
  refine ⟨freshMeta_restore_checked hm hc hr hs, ?_⟩
  simp +contextual [readGate, Op.Checked, Op.CheckedOff, Slots.step, KernelGsp.step, KernelGsp.act, hs, hoff,
    Msg.IsWprPass, GateReads.fullSpeed, GateReads.wprDown, holdsDown_iff, holdsFullSpeed_iff, lastRead, hg]

theorem resetWprMetaInput_wp : resetWprMetaInput.wp Step (Op.Calm w.slots fun _ _ => False) w fun _ w' =>
    w'.slots = w.slots ∧ ∀ data, SignatureRestored data w.gsp → SignatureRestored data w'.gsp := by
  obtain ⟨s, ⟨m, d, n, _ | wprMeta, descriptor, c, f⟩, log⟩ := w <;>
    simp +contextual [resetWprMetaInput, Op.Calm, Op.Quiet, Msg.IsWprPass, Slots.step, KernelGsp.step,
      KernelGsp.act, SignatureRestored]

theorem sanitize_wp : kgspCmp50SanitizeSec2AfterExploit.wp Step (Op.Calm w.slots fun _ _ => False) w fun _ w' =>
    w'.slots = w.slots ∧ ∀ data, SignatureRestored data w.gsp → SignatureRestored data w'.gsp :=
  (quiet_wp sanitize_uses fun _ h => h.1).mono fun _ _ ⟨he, hs⟩ =>
    ⟨hs, fun _ => signature_frame sanitize_uses (fun _ h => h.2) he⟩

theorem restoreStock_wp (hb : w.slots.Between) :
    restoreStock.wp Step (Op.Checked pGpu bootMode L) w fun r w' => w'.slots = w.slots ∧
      (r = none → HoldsDown w'.log ∧ HoldsFullSpeed w'.log ∧ lastRead .sec2ResetPlm w'.log = some 0xFF ∧
        ∀ data, FreshSignature data w.gsp → SignatureRestored data w'.gsp) := by
  have hoff := hb.exploitOff (cmp50ExploitModeIndex pGpu)
  simp only [restoreStock, Prog.wp_bind]
  refine (rebuild_wp w).imp (fun w' o h => h.checked hoff fun _ _ => False.elim) fun status w₁ hpost => ?_
  obtain ⟨hs₁, _, hsig₁⟩ := hpost
  by_cases hst : status = .ok
  · subst hst
    simp only [ne_eq, not_true_eq_false, if_false, Prog.wp_bind]
    refine resetWprMetaInput_wp.imp (fun w' o h => h.checked (hs₁ ▸ hoff) fun _ _ => False.elim) fun _ w₂ hpost => ?_
    obtain ⟨hs₂, hsig₂⟩ := hpost
    have hs₂ := hs₂.trans hs₁
    refine sanitize_wp.imp (fun w' o h => h.checked (hs₂ ▸ hoff) fun _ _ => False.elim) fun status w₃ hpost => ?_
    obtain ⟨hs₃, hsig₃⟩ := hpost
    have hs₃ := hs₃.trans hs₂
    have hsig : ∀ data, FreshSignature data w.gsp → SignatureRestored data w₃.gsp :=
      fun data h => hsig₃ data (hsig₂ data (hsig₁ rfl data h))
    by_cases hst : status = .ok
    · subst hst
      simp +contextual [readGate, Op.Checked, Op.CheckedOff, Slots.step, KernelGsp.step, KernelGsp.act, hs₃, hoff,
        Msg.IsWprPass, GateReads.fullSpeed, GateReads.wprDown, holdsDown_iff, holdsFullSpeed_iff, lastRead, hsig]
    · simp [hst, hs₃]
  · simp [hst, hs₁]

/-! ## After the commit -/

theorem refwsec_wp {idx : Nat} (hidx : idx = cmp50StockflowGpuIndex pGpu) (hb : w.slots.Between)
    (hr : w.slots.HasRange idx) :
    (refwsec idx).wp Step (Op.Checked pGpu bootMode L) w fun _ w' =>
      w'.slots = w.slots ∧ ∀ data, SignatureRestored data w.gsp → SignatureRestored data w'.gsp := by
  have hwp : (refwsec idx).wp Step (Op.Checked pGpu bootMode L) w fun _ w' => w'.slots = w.slots := by
    subst hidx
    have hoff := hb.exploitOff (cmp50ExploitModeIndex pGpu)
    simp [refwsec, wprNeStock, readGate, Op.Checked, Op.CheckedOff, Slots.step, hoff, GateReads.fullSpeed,
      holdsRange_iff, lastRead, hr]
    exact fun _ _ _ _ _ _ hlo hhi _ _ _ => ⟨hlo, hhi⟩
  refine hwp.with_exec.mono fun _ _ hpost => ?_
  obtain ⟨hs, he⟩ := hpost
  exact ⟨hs, fun _ => signature_frame (refwsec_uses idx) (fun _ h => h) he⟩

theorem riscvBootargs_wp {idx : Nat} (hidx : idx = cmp50StockflowGpuIndex pGpu) (hb : w.slots.Between)
    (hr : w.slots.HasRange idx) (hp : GatesPassed pGpu w) :
    (riscvBootargs idx).wp Step (Op.Checked pGpu bootMode L) w fun r w' => w'.slots.Between ∧
      (∀ data, SignatureRestored data w.gsp → SignatureRestored data w'.gsp) ∧
      ∀ l, r = .goto l → l = .cmp50V525StockBooter false ∧ HoldsRange idx w' ∧ HoldsFullSpeed w'.log := by
  have hwp : (riscvBootargs idx).wp Step (Op.Checked pGpu bootMode L) w fun r w' => w'.slots.Between ∧
      ∀ l, r = .goto l → l = .cmp50V525StockBooter false ∧ HoldsRange idx w' ∧ HoldsFullSpeed w'.log := by
    subst hidx
    have hoff := hb.exploitOff (cmp50ExploitModeIndex pGpu)
    simp [riscvBootargs, rdNeStock, fullSpeedLost, Op.Checked, Op.CheckedOff, Slots.step, hoff, hb, holdsRange_iff,
      holdsFullSpeed_iff, lastRead, hr]
    intro _ _
    repeat apply GatesPassed.after
    exact hp
  refine hwp.with_exec.mono fun _ _ hpost => ?_
  obtain ⟨⟨hs, hl⟩, he⟩ := hpost
  exact ⟨hs, fun _ => signature_frame (riscvBootargs_uses idx) (fun _ h => h) he, hl⟩

/-! ## The whole block -/

/-- What is established when a part of the function goes to the stock Booter. `g` is the `KernelGsp` that the
part was entered with. -/
structure StockReady (idx : Nat) (g : KernelGsp) (w : World) : Prop where
  range : HoldsRange idx w
  fullSpeed : HoldsFullSpeed w.log
  signature : ∀ data, FreshSignature data g → SignatureRestored data w.gsp

theorem StockReady.print {idx : Nat} {g : KernelGsp} {m : Msg} (h : StockReady idx g w) :
    StockReady idx g (w.after (.act (.print m)) ()) :=
  ⟨⟨h.range.range, h.range.lo, h.range.hi⟩, ⟨h.fullSpeed.plm, h.fullSpeed.speed0, h.fullSpeed.speed1⟩, h.signature⟩

theorem commitTransaction_wp {idx : Nat} (hidx : idx = cmp50StockflowGpuIndex pGpu) (hb : w.slots.Between)
    (hm : bootMode = .normal) (hc : w.slots.flag .phaseCommitted idx = false) (hr : w.slots.HasRange idx) :
    (commitTransaction pGpu idx).wp Step (Op.Checked pGpu bootMode L) w fun r w' => w'.slots.Between ∧
      ∀ l, r = .goto l → l = .cmp50V525StockBooter false ∧ StockReady idx w.gsp w' := by
  subst hidx
  simp only [commitTransaction, Prog.wp_bind]
  refine (exploitBooter_wp hb hm hc hr).with_exec.mono fun r₁ w₁ hpost => ?_
  obtain ⟨⟨hs₁, hg₁, _⟩, he₁⟩ := hpost
  cases r₁ with
  | some status => simp [hs₁, hb]
  | none =>
      simp only [Prog.wp_bind]
      refine (restoreStock_wp (hs₁ ▸ hb)).with_exec.mono fun r₂ w₂ hpost => ?_
      obtain ⟨⟨hs₂, hp₂⟩, he₂⟩ := hpost
      have hs₂ := hs₂.trans hs₁
      cases r₂ with
      | some status => simp [hs₂, hb]
      | none =>
          obtain ⟨-, -, -, hsig₂⟩ := hp₂ rfl
          have hb₃ : (w₂.slots.setFlag .phaseCommitted (cmp50StockflowGpuIndex pGpu) true).Between := by simp [hs₂, hb]
          have hoff := hb.exploitOff (cmp50ExploitModeIndex pGpu)
          have hpass₂ : GatesPassed pGpu w₂ := ⟨w, w₁, w₂, he₁, he₂, List.suffix_refl _⟩
          simp [Op.Checked, Op.CheckedOff, Slots.step, hs₂, hoff, hpass₂]
          intro _
          refine (refwsec_wp rfl ?_ ?_).with_exec.mono fun r₃ w₃ hpost => ?_
          · exact hb₃
          · exact hasRange_setFlag.mpr (hs₂ ▸ hr)
          · obtain ⟨⟨hs₃, hsig₃⟩, he₃⟩ := hpost
            have hb₃ : w₃.slots.Between := hs₃ ▸ hb₃
            cases r₃ with
            | some status => simp [hb₃]
            | none =>
                have hr₃ : w₃.slots.HasRange (cmp50StockflowGpuIndex pGpu) := hs₃ ▸ (hasRange_setFlag.mpr (hs₂ ▸ hr))
                have hpass₃ : GatesPassed pGpu w₃ := hpass₂.after.after.after.after.suffix (recorded.exec he₃)
                refine (riscvBootargs_wp rfl hb₃ hr₃ hpass₃).mono fun r₄ w₄ hpost => ?_
                obtain ⟨hb₄, hsig₄, hl⟩ := hpost
                refine ⟨hb₄, fun l h => ?_⟩
                obtain ⟨rfl, hrange, hspeed⟩ := hl l h
                refine ⟨rfl, hrange, hspeed, fun data hd => hsig₄ data (hsig₃ data ?_)⟩
                exact hsig₂ data (hd.same hg₁)

theorem commitBlock_wp {idx : Nat} (hidx : idx = cmp50StockflowGpuIndex pGpu) (hb : w.slots.Between)
    (hm : bootMode = .normal) (hc : w.slots.flag .phaseCommitted idx = false) :
    (commitBlock pGpu idx).wp Step (Op.Checked pGpu bootMode L) w fun r w' => w'.slots.Between ∧
      ∀ l, r = .goto l → l = .cmp50V525StockBooter false ∧ StockReady idx w.gsp w' := by
  have hoff := hb.exploitOff (cmp50ExploitModeIndex pGpu)
  simp [commitBlock, Op.Checked, Op.CheckedOff, Slots.step, hoff, hb]
  intro lo hi _ _
  refine (captureStockRange_wp ?_).mono fun r₁ w₁ h => ?_
  · exact hb
  simp only [slots_after, Slots.step, gsp_after, KernelGsp.step, KernelGsp.act] at h
  obtain ⟨hg₁, h₁⟩ := h
  have hb₁ : w₁.slots.Between := by
    rcases h₁ with ⟨hrange, -, hs⟩ | ⟨-, hs, -⟩
    · exact hs ▸ hb.setWpr hrange
    · exact hs ▸ hb
  cases r₁ with
  | some status => simp [hb₁]
  | none =>
      have hr₁ : w₁.slots.HasRange idx := by
        rcases h₁ with ⟨hrange, -, hs⟩ | ⟨-, hs, ⟨-, hr⟩ | h⟩
        · exact hs ▸ hasRange_setWpr hrange
        · exact hs ▸ hr
        · cases h
      have hc₁ : w₁.slots.flag .phaseCommitted idx = false := by
        rcases h₁ with ⟨-, -, hs⟩ | ⟨-, hs, -⟩ <;> simpa [hs] using hc
      refine (commitTransaction_wp hidx hb₁ hm hc₁ hr₁).mono fun r w' hpost => ?_
      obtain ⟨hb', hl⟩ := hpost
      refine ⟨hb', fun l h => ?_⟩
      exact hg₁ ▸ hl l h

/-! ## The retry of a committed slot -/

theorem rebuild_ready (pGpu : ObjGpu) (idx : Nat) (g : KernelGsp)
    (hoff : w.slots.flag .exploitMode (cmp50ExploitModeIndex pGpu) = false) (hg : g.SameBuffers w.gsp)
    (hr : HoldsRange idx w) (hf : HoldsFullSpeed w.log) :
    kgspCmp50RebuildStockSignature.wp Step (Op.Checked pGpu bootMode L) w fun r w' =>
      w'.slots = w.slots ∧ (r = .ok → StockReady idx g w') := by
  refine (rebuild_wp w).imp (fun w' o h => h.checked hoff fun _ _ => False.elim) fun status w₁ ⟨hs₁, hlast₁,
    hsig₁⟩ => ⟨hs₁, fun hst => ?_⟩
  refine ⟨?_, ?_, fun data hd => hsig₁ hst data (hd.same hg)⟩
  · simpa [holdsRange_iff, hs₁, hlast₁] using hr
  · simpa [holdsFullSpeed_iff, hlast₁] using hf

theorem persistentReady_wp {idx : Nat} (hidx : idx = cmp50StockflowGpuIndex pGpu) (hb : w.slots.Between) :
    (persistentReady idx).wp Step (Op.Checked pGpu bootMode L) w fun r w' =>
      w'.slots = w.slots ∧ (r = none → StockReady idx w.gsp w') := by
  subst hidx
  have hoff := hb.exploitOff (cmp50ExploitModeIndex pGpu)
  simp [persistentReady, wprNeStock, readGateWprFirst, Op.Checked, Op.CheckedOff, Slots.step, hoff, GateReads.fullSpeed,
    holdsRange_iff, lastRead]
  intro _ lo hi plm speed0 speed1 hlo hhi h₁ h₂ h₃ h₄ h₅
  have hr := (hb.captured (cmp50StockflowGpuIndex pGpu)).hasRange (not_or.mpr ⟨hlo, hhi⟩)
  refine ⟨⟨hr, h₁, h₂⟩, ?_⟩
  refine (rebuild_ready pGpu (cmp50StockflowGpuIndex pGpu) w.gsp ?_ ?_ ?_ ?_).mono fun status w₁ h => ?_
  · simpa [Slots.step] using hoff
  · simp [KernelGsp.sameBuffers_iff, KernelGsp.step, KernelGsp.act]
  · simpa [holdsRange_iff, Slots.step, lastRead] using ⟨hr, h₁, h₂⟩
  · simp [holdsFullSpeed_iff, lastRead, h₃, h₄, h₅]
  · have hs₁ : w₁.slots = w.slots := by simpa [Slots.step] using h.1
    refine ⟨fun hst => ⟨by simp [hs₁, hoff], hs₁, ?_⟩, fun _ => ⟨by simp [hs₁, hoff], hs₁⟩⟩
    exact (h.2 hst).print

theorem joinStockBooter_wp (hb : w.slots.Between) :
    (joinStockBooter pGpu).wp Step (Op.Checked pGpu bootMode L) w fun r w' => w'.slots.Between ∧
      ∀ l, r = .goto l → l = .cmp50V525StockBooter true ∧
        ∀ idx g, StockReady idx g w → StockReady idx g w' := by
  have hwp : (joinStockBooter pGpu).wp Step (Op.Checked pGpu bootMode L) w fun r w' => w'.slots = w.slots ∧
      (∀ r, lastRead r w'.log = lastRead r w.log) ∧ ∀ l, r = .goto l → l = .cmp50V525StockBooter true := by
    have hoff := hb.exploitOff (cmp50ExploitModeIndex pGpu)
    simp [joinStockBooter, kgspCmp50SetExploitMode, Op.Checked, Op.CheckedOff, Slots.step, hoff,
      setFlag_same hoff, lastRead]
  refine hwp.with_exec.mono fun r w' hpost => ?_
  obtain ⟨⟨hs, hlast, hl⟩, he⟩ := hpost
  refine ⟨hs ▸ hb, fun l h => ⟨hl l h, fun idx g hready => ?_⟩⟩
  refine ⟨?_, ?_, fun data hd => signature_frame (joinStockBooter_uses pGpu) (fun _ h => h) he
    (hready.signature data hd)⟩
  · simpa [holdsRange_iff, hs, hlast] using hready.range
  · simpa [holdsFullSpeed_iff, hlast] using hready.fullSpeed

theorem retryRejoin_wp {idx : Nat} (hidx : idx = cmp50StockflowGpuIndex pGpu) (hb : w.slots.Between) :
    (retryRejoin pGpu idx).wp Step (Op.Checked pGpu bootMode L) w fun r w' => w'.slots.Between ∧
      ∀ l, r = .goto l → l = .cmp50V525StockBooter true ∧
        (w.slots.flag .gspReady idx = true → StockReady idx w.gsp w') := by
  have hoff := hb.exploitOff (cmp50ExploitModeIndex pGpu)
  simp [retryRejoin, fullSpeedLost, Op.Checked, Op.CheckedOff, Slots.step, hoff, hb]
  intro lo hi _
  constructor
  · intro _
    refine (persistentReady_wp hidx ?_).mono fun r₁ w₁ h => ?_
    · simpa [Slots.step] using hb
    simp only [slots_after, Slots.step, gsp_after, KernelGsp.step] at h
    obtain ⟨hs₁, hready⟩ := h
    have hb₁ : w₁.slots.Between := hs₁ ▸ hb
    cases r₁ with
    | some status => simp [hb₁]
    | none =>
        refine (joinStockBooter_wp hb₁).mono fun r w' hpost => ?_
        obtain ⟨hb', hl⟩ := hpost
        refine ⟨hb', fun l h => ⟨(hl l h).1, fun _ => ?_⟩⟩
        exact (hl l h).2 idx w.gsp (hready rfl)
  · intro hnot
    refine (joinStockBooter_wp ?_).mono fun r w' hpost => ?_
    · simpa [Slots.step] using hb
    · obtain ⟨hb', hl⟩ := hpost
      refine ⟨hb', fun l h => ⟨(hl l h).1, ?_⟩⟩
      simp [hnot]

end

end Cmp50Unlock.Stockflow
