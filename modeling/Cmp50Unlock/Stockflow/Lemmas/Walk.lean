import Cmp50Unlock.Stockflow.Lemmas.Transaction

/-!
# The whole function

Assertions at the labels of `kgspBootstrap_TU102`, and the proof that each of its parts keeps them while
every operation it issues is a checked one.
-/

namespace Cmp50Unlock.Stockflow

open Lib

section
variable {stock : StockCode} {pGpu : ObjGpu} {bootMode : BootMode} {L : World → Prop} {w : World}

/-! ## Scrubber and FWSEC -/

theorem scrubberAndFwsec_wp {idx : Nat} (hb : w.slots.Between) :
    (scrubberAndFwsec stock pGpu bootMode idx).wp Step (Op.Checked pGpu bootMode L) w fun r w' =>
      w'.slots.Between ∧ w'.slots.flag .phaseCommitted idx = w.slots.flag .phaseCommitted idx ∧
      w.gsp.SameBuffers w'.gsp ∧ ∀ l, r = .goto l →
        l = .cmp50V274Commit ∨ l = .cmp50V525StockBooter false ∧ ¬(bootMode = .normal ∧ isCmp50ComputeUnlock pGpu) := by
  have hoff := hb.exploitOff (cmp50ExploitModeIndex pGpu)
  by_cases hn : bootMode = .normal ∧ isCmp50ComputeUnlock pGpu
  · obtain ⟨rfl, hcmp⟩ := hn
    simp +contextual [scrubberAndFwsec, fwsecBlock, executeFwsec, executeScrubberIfNeeded, Op.Checked, Op.CheckedOff,
      Slots.step, KernelGsp.step, KernelGsp.act, hoff, hb, Msg.IsWprPass, KernelGsp.sameBuffers_iff, hcmp,
      stock.admits_normal]
  · simp +contextual [scrubberAndFwsec, fwsecBlock, executeFwsec, executeScrubberIfNeeded, Op.Checked, Op.CheckedOff,
      Slots.step, KernelGsp.step, KernelGsp.act, hoff, hb, Msg.IsWprPass, KernelGsp.sameBuffers_iff, hn]

/-! ## The stock Booter -/

theorem executeStockBooter_wp {rejoin : Bool} (hb : w.slots.Between) :
    (executeStockBooter stock pGpu bootMode rejoin).wp Step
      (Op.Calm w.slots fun w' _ => SameBoot w w') w fun _ w' => w'.slots = w.slots := by
  have hoff := hb.exploitOff (cmp50ExploitModeIndex pGpu)
  simp only [executeStockBooter, Prog.wp_ite, Prog.wp_bind, wp_getGsp]
  refine ⟨fun _ => ?_, fun _ => ⟨⟨trivial, rfl⟩, ?_⟩⟩
  · exact (freshMeta_wp_off hoff).guard fun w' o h => h.mono fun a h => h.1
  · refine (booterLoad_wp_off ?_).imp ?_ fun _ _ h => h
    · exact hoff
    · refine fun w' o h => h.mono fun a hpost => ?_
      obtain ⟨_, hg, hr⟩ := hpost
      exact ⟨hr, by rw [hg]; rfl, by rw [hg]; rfl⟩

theorem checkStockBooter_wp : checkStockBooter.wp Step (Op.Calm w.slots fun _ _ => False) w fun _ w' =>
    w'.slots = w.slots :=
  (quiet_wp checkStockBooter_uses fun _ h => h).mono fun _ _ h => h.2

theorem policy_wp : cmp50ApplyGen2Policy.wp Step (Op.Calm w.slots fun _ _ => False) w fun _ w' =>
    w'.slots = w.slots :=
  (quiet_wp policy_uses fun _ h => h).mono fun _ _ h => h.2

theorem finishBoot_wp {idx : Nat} (hb : w.slots.Between) :
    (finishBoot pGpu idx).wp Step (Op.Checked pGpu bootMode L) w fun _ w' => w'.slots.Between := by
  have hoff := hb.exploitOff (cmp50ExploitModeIndex pGpu)
  simp [finishBoot, Op.Checked, Op.CheckedOff, Slots.step, hoff, hb]
  intro _
  refine policy_wp.imp (fun w' o h => h.checked hoff fun _ _ => False.elim) fun _ w₁ h => ?_
  have hs₁ : w₁.slots = w.slots := h
  simp [hs₁, hoff, hb]

theorem stockBooterPart_wp {rejoin : Bool} (hb : w.slots.Between)
    (hL : ∀ w', w'.slots = w.slots → SameBoot w w' → L w') :
    (stockBooterPart stock pGpu bootMode rejoin).wp Step (Op.Checked pGpu bootMode L) w fun r w' =>
      w'.slots.Between ∧ ∀ l, r ≠ .goto l := by
  have hoff := hb.exploitOff (cmp50ExploitModeIndex pGpu)
  simp only [stockBooterPart, Prog.wp_bind]
  refine (executeStockBooter_wp hb).imp (fun w' o h => h.checked hoff fun _ => hL w') fun status w₁ hs₁ => ?_
  have hb₁ : w₁.slots.Between := hs₁ ▸ hb
  have hoff₁ := hb₁.exploitOff (cmp50ExploitModeIndex pGpu)
  by_cases hst : status = .ok
  · simp only [hst, ne_eq, not_true_eq_false, if_false, Prog.wp_ite, Prog.wp_bind]
    refine ⟨fun _ => ?_, fun _ => ?_⟩
    · refine checkStockBooter_wp.imp (fun w' o h => h.checked hoff₁ fun _ _ => False.elim) fun r₂ w₂ hs₂ => ?_
      have hb₂ : w₂.slots.Between := hs₂ ▸ hb₁
      cases r₂ with
      | some status => simp [hb₂]
      | none =>
          simp only [Prog.wp_bind]
          exact (finishBoot_wp hb₂).mono fun r w' h => ⟨h, by simp⟩
    · exact (finishBoot_wp hb₁).mono fun r w' h => ⟨h, by simp⟩
  · simp [hst, Op.Checked, Op.CheckedOff, Slots.step, hoff₁, hb₁]

/-! ## The assertions at the labels -/

/-- What holds when a call that started with the arrays `s` and the `KernelGsp` `g` comes to a label. -/
def Reached (pGpu : ObjGpu) (bootMode : BootMode) (s : Slots) (g : KernelGsp) : Label → World → Prop
  | .entry, w => w.slots = s ∧ w.gsp = g
  | .cmp50V274Commit, w => w.slots.Between ∧ g.SameBuffers w.gsp ∧
      (bootMode = .normal ∧ isCmp50ComputeUnlock pGpu →
        w.slots.flag .phaseCommitted (cmp50StockflowGpuIndex pGpu) = false)
  | .cmp50V525StockBooter _, w => w.slots.Between ∧
      (bootMode = .normal ∧ isCmp50ComputeUnlock pGpu →
        ¬(s.flag .phaseCommitted (cmp50StockflowGpuIndex pGpu) = true ∧
          s.flag .gspReady (cmp50StockflowGpuIndex pGpu) = false) →
        StockReady (cmp50StockflowGpuIndex pGpu) g w)

/-- What holds when such a call launches Booter with the exploit mode off. -/
def StockLaunch (pGpu : ObjGpu) (bootMode : BootMode) (s : Slots) (g : KernelGsp) (w : World) : Prop :=
  Reached pGpu bootMode s g (.cmp50V525StockBooter false) w

variable {s : Slots} {g : KernelGsp}

theorem entryPart_wp (hs : s.Between) (h : Reached pGpu bootMode s g .entry w) :
    (entryPart pGpu bootMode).wp Step (Op.Checked pGpu bootMode L) w
      (Goto.Post (Reached pGpu bootMode s g) fun _ w' => w'.slots.Between) := by
  obtain ⟨rfl, rfl⟩ := h
  have hoff := hs.exploitOff (cmp50ExploitModeIndex pGpu)
  simp [entryPart, Op.Checked, Op.CheckedOff, hoff]
  refine ⟨fun hm hcmp => ⟨fun hc => ?_, fun hc => ?_⟩, fun hn => ?_⟩
  · refine (retryRejoin_wp rfl ?_).mono fun r w' hpost => ?_
    · exact hs
    obtain ⟨hb', hl⟩ := hpost
    cases r with
    | ret status => exact hb'
    | goto l =>
        obtain ⟨rfl, hready⟩ := hl l rfl
        refine ⟨hb', fun _ hnot => hready ?_⟩
        have : ¬ w.slots.flag .gspReady (cmp50StockflowGpuIndex pGpu) = false := fun hg => hnot ⟨hc, hg⟩
        simpa [Slots.step] using this
  · exact ⟨hs, ⟨rfl, rfl, rfl⟩, fun _ => hc⟩
  · exact ⟨hs, ⟨rfl, rfl, rfl⟩, fun h => by simp [hn h.1] at h⟩

theorem commitPart_wp (h : Reached pGpu bootMode s g .cmp50V274Commit w) :
    (commitPart stock pGpu bootMode).wp Step (Op.Checked pGpu bootMode L) w
      (Goto.Post (Reached pGpu bootMode s g) fun _ w' => w'.slots.Between) := by
  obtain ⟨hb, hg, hc⟩ := h
  have hoff := hb.exploitOff (cmp50ExploitModeIndex pGpu)
  have hscrub : ∀ w₁, w₁.slots = w.slots → w₁.gsp = w.gsp →
      (scrubberAndFwsec stock pGpu bootMode (cmp50StockflowGpuIndex pGpu)).wp Step (Op.Checked pGpu bootMode L) w₁
        (Goto.Post (Reached pGpu bootMode s g) fun _ w' => w'.slots.Between) := by
    intro w₁ hs₁ hg₁
    refine (scrubberAndFwsec_wp (hs₁ ▸ hb)).mono fun r w' hpost => ?_
    obtain ⟨hb', hc', hg', hl⟩ := hpost
    cases r with
    | ret status => exact hb'
    | goto l =>
        rcases hl l rfl with rfl | ⟨rfl, hn⟩
        · exact ⟨hb', hg.trans (hg₁ ▸ hg'), fun hn => hc'.trans (hs₁ ▸ hc hn)⟩
        · exact ⟨hb', fun hn' => absurd hn' hn⟩
  simp only [commitPart, Prog.wp_ite, Prog.wp_bind, wp_getFlag]
  refine ⟨fun hn => ?_, fun hn => ?_⟩
  · refine ⟨by simp [Op.Checked, Op.CheckedOff, hoff], fun _ => ?_, fun _ => ?_⟩
    · refine (commitBlock_wp rfl ?_ hn.1 ?_).mono fun r w' hpost => ?_
      · exact hb
      · exact hc hn
      obtain ⟨hb', hl⟩ := hpost
      cases r with
      | ret status => exact hb'
      | goto l =>
          obtain ⟨rfl, hready⟩ := hl l rfl
          exact ⟨hb', fun _ _ => ⟨hready.range, hready.fullSpeed, fun data hd => hready.signature data (hd.same hg)⟩⟩
    · exact hscrub _ rfl rfl
  · exact hscrub _ rfl rfl

theorem StockReady.sameBoot {idx : Nat} {w' : World} (h : StockReady idx g w) (hs : w'.slots = w.slots)
    (hw : SameBoot w w') : StockReady idx g w' := by
  refine ⟨?_, ?_, fun data hd => (h.signature data hd).same hw.signature hw.wprMeta⟩
  · simpa [holdsRange_iff, hs, hw.reads] using h.range
  · simpa [holdsFullSpeed_iff, hw.reads] using h.fullSpeed

theorem bootstrap_wp (hs : s.Between) (l : Label) (w : World) (h : Reached pGpu bootMode s g l w) :
    (kgspBootstrap stock pGpu bootMode l).wp Step (Op.Checked pGpu bootMode (StockLaunch pGpu bootMode s g)) w
      (Goto.Post (Reached pGpu bootMode s g) fun _ w' => w'.slots.Between) := by
  cases l with
  | entry => exact entryPart_wp hs h
  | cmp50V274Commit => exact commitPart_wp h
  | cmp50V525StockBooter rejoin =>
      refine (stockBooterPart_wp h.1 fun w' hs' hw => ?_).mono fun r w' ⟨hb', hl⟩ => ?_
      · exact ⟨hs' ▸ h.1, fun hn hfin => (h.2 hn hfin).sameBoot hs' hw⟩
      · cases r with
        | ret status => exact hb'
        | goto l => exact absurd rfl (hl l)

end

end Cmp50Unlock.Stockflow
