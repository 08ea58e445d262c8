import Cmp50Unlock.Stockflow.Lemmas.Routine

/-!
# A card keeps to its slot

Every access to the per-slot arrays is to the slot of the GPU, and it is a CMP50 that makes it.
-/

namespace Cmp50Unlock.Stockflow

open Lib

/-- If the operation accesses an entry of the arrays, the GPU is a CMP50 and the entry is its own. -/
def Op.Own (pGpu : ObjGpu) : Op → Prop
  | .getFlag f i | .act (.setFlag f i _) => isCmp50ComputeUnlock pGpu ∧ i = slotOf pGpu f
  | .getWpr _ i | .act (.setWpr _ i _) => isCmp50ComputeUnlock pGpu ∧ i = cmp50StockflowGpuIndex pGpu
  | _ => True

section
variable {stock : StockCode} {pGpu : ObjGpu} {bootMode : BootMode}

/-! ## The parts -/

theorem Op.Routine.own {o : Op} (h : o.Routine pGpu) : o.Own pGpu := by
  unfold Op.Own
  split <;> first | exact h | exact h.elim | trivial

theorem own_of_routine {α : Type} {p : Driver α} (h : p.Uses (Op.Routine pGpu)) : p.Uses (Op.Own pGpu) :=
  h.mono (fun _ ho => ho.own) fun _ h => h

section
variable (hcmp : isCmp50ComputeUnlock pGpu)
include hcmp

theorem refwsec_own : (refwsec (cmp50StockflowGpuIndex pGpu)).Uses (Op.Own pGpu) := by
  simp [refwsec, wprNeStock, readGate, Op.Own, hcmp]

theorem captureStockRange_own {lo hi : BitVec 32} :
    (captureStockRange (cmp50StockflowGpuIndex pGpu) lo hi).Uses (Op.Own pGpu) := by
  simp [captureStockRange, Op.Own, hcmp]

theorem commitTransaction_own : (commitTransaction pGpu (cmp50StockflowGpuIndex pGpu)).Uses (Op.Own pGpu) := by
  simp only [commitTransaction, Prog.Uses, Prog.within_bind]
  refine (own_of_routine (exploitBooter_routine hcmp)).within fun r₁ => ?_
  cases r₁ with
  | some status => trivial
  | none =>
      simp only [Prog.within_bind]
      refine (own_of_routine (routine_of_aside restoreStock_aside)).within fun r₂ => ?_
      cases r₂ with
      | some status => trivial
      | none =>
          simp only [Prog.within_bind, within_act, within_print, within_printRegs]
          refine ⟨⟨hcmp, rfl⟩, trivial, trivial, trivial, (refwsec_own hcmp).within fun r₃ => ?_⟩
          cases r₃ with
          | some status => trivial
          | none => exact own_of_routine (routine_of_aside (riscvBootargs_aside hcmp))

theorem commitBlock_own : (commitBlock pGpu (cmp50StockflowGpuIndex pGpu)).Uses (Op.Own pGpu) := by
  simp only [commitBlock, Prog.Uses, Prog.within_bind, Prog.within_ite, Prog.within_pure, within_rd, within_print,
    within_printRegs]
  refine ⟨trivial, fun lo => ⟨trivial, fun hi => ⟨trivial, trivial, fun _ => ⟨trivial, trivial⟩, fun _ => ?_⟩⟩⟩
  refine (captureStockRange_own hcmp).within fun r => ?_
  cases r with
  | some status => trivial
  | none => exact commitTransaction_own hcmp

theorem persistentReady_own : (persistentReady (cmp50StockflowGpuIndex pGpu)).Uses (Op.Own pGpu) := by
  have hrebuild : kgspCmp50RebuildStockSignature.Uses (Op.Own pGpu) := own_of_routine (routine_of_aside rebuild_aside)
  simp [persistentReady, wprNeStock, readGateWprFirst, Op.Own, hcmp, hrebuild]

theorem retryRejoin_own : (retryRejoin pGpu (cmp50StockflowGpuIndex pGpu)).Uses (Op.Own pGpu) := by
  have hlost : ∀ lo hi, (orElse (pure (!retryWprAccepted lo hi)) fullSpeedLost).Uses (Op.Own pGpu) := by
    simp [fullSpeedLost, Op.Own]
  have hjoin : (joinStockBooter pGpu).Uses (Op.Own pGpu) :=
    own_of_routine (routine_of_aside (joinStockBooter_aside hcmp))
  simp only [retryRejoin, Prog.Uses, Prog.within_bind, Prog.within_ite, Prog.within_pure, within_rd,
    within_printRegs, within_getFlag]
  refine ⟨trivial, fun lo => ⟨trivial, fun hi => (hlost lo hi).within fun lost => ⟨fun _ => ?_, fun _ => ?_⟩⟩⟩
  · exact ⟨trivial, trivial, trivial⟩
  · refine ⟨⟨hcmp, rfl⟩, fun ready => ⟨fun _ => (persistentReady_own hcmp).within fun r => ?_, fun _ => hjoin⟩⟩
    cases r with
    | some status => trivial
    | none => exact hjoin

end

/-! ## The whole function -/

theorem scrubberAndFwsec_own :
    (scrubberAndFwsec stock pGpu bootMode (cmp50StockflowGpuIndex pGpu)).Uses (Op.Own pGpu) := by
  by_cases hcmp : isCmp50ComputeUnlock pGpu <;>
    simp [scrubberAndFwsec, executeScrubberIfNeeded, fwsecBlock, executeFwsec, Op.Own, slotOf, hcmp]

theorem bootstrap_own (l : Label) : (kgspBootstrap stock pGpu bootMode l).Uses (Op.Own pGpu) := by
  cases l with
  | entry =>
      simp only [kgspBootstrap, entryPart, Prog.Uses, Prog.within_ite, Prog.within_bind,
        Prog.within_pure, within_getFlag]
      exact ⟨fun hn => ⟨⟨hn.2, rfl⟩, fun _ => ⟨fun _ => retryRejoin_own hn.2, fun _ => trivial⟩⟩, fun _ => trivial⟩
  | cmp50V274Commit =>
      simp only [kgspBootstrap, commitPart, Prog.Uses, Prog.within_ite, Prog.within_bind, within_getFlag]
      refine ⟨fun hn => ⟨⟨hn.2, rfl⟩, fun _ => ⟨fun _ => commitBlock_own hn.2, fun _ => scrubberAndFwsec_own⟩⟩,
        fun _ => ?_⟩
      exact scrubberAndFwsec_own
  | cmp50V525StockBooter rejoin => exact own_of_routine (stockBooterPart_routine rejoin)

end

/-! ## Slots -/

/-- The PCI address without the domain is one of those that have a slot. -/
def HasSlot (pGpu : ObjGpu) : Prop := pGpu.bus.toNat < 256 ∧ pGpu.device.toNat < 32

instance (pGpu : ObjGpu) : Decidable (HasSlot pGpu) := inferInstanceAs (Decidable (_ ∧ _))

/-- Both GPUs have the same bus and device. -/
def SameBusDevice (a b : ObjGpu) : Prop := a.bus = b.bus ∧ a.device = b.device

instance (a b : ObjGpu) : Decidable (SameBusDevice a b) := inferInstanceAs (Decidable (_ ∧ _))

section
variable {a b : ObjGpu}

theorem slot_lt (h : HasSlot a) : (a.bus * 32 + a.device).toNat = a.bus.toNat * 32 + a.device.toNat := by
  obtain ⟨hbus, hdevice⟩ := h
  bv_omega

theorem stockflowGpuIndex_eq (h : HasSlot a) : cmp50StockflowGpuIndex a = a.bus.toNat * 32 + a.device.toNat := by
  have hslot := slot_lt h
  have hlt : a.bus * 32 + a.device < stockflowBdfSlots := by
    rw [BitVec.lt_def, hslot]
    change _ < 8192
    have := h.1
    have := h.2
    omega
  simp only [cmp50StockflowGpuIndex, if_pos hlt, hslot]

theorem exploitModeIndex_eq (h : HasSlot a) : cmp50ExploitModeIndex a = a.bus.toNat * 32 + a.device.toNat := by
  have hslot := slot_lt h
  have hlt : a.bus * 32 + a.device < 8192 := by
    rw [BitVec.lt_def, hslot]
    change _ < 8192
    have := h.1
    have := h.2
    omega
  simp only [cmp50ExploitModeIndex, if_pos hlt, hslot]

theorem slotOf_eq (h : HasSlot a) (f : SlotFlag) : slotOf a f = a.bus.toNat * 32 + a.device.toNat := by
  cases f <;> simp only [slotOf, stockflowGpuIndex_eq h, exploitModeIndex_eq h]

/-- The two GPUs share their slots exactly when they share bus and device. -/
theorem slots_eq_iff (ha : HasSlot a) (hb : HasSlot b) :
    a.bus.toNat * 32 + a.device.toNat = b.bus.toNat * 32 + b.device.toNat ↔ SameBusDevice a b := by
  obtain ⟨-, hda⟩ := ha
  obtain ⟨-, hdb⟩ := hb
  rw [SameBusDevice, ← BitVec.toNat_inj, ← BitVec.toNat_inj]
  omega

theorem Op.Own.not_touches {o : Op} (h : o.Own a) (ha : HasSlot a) (hb : HasSlot b)
    (hne : isCmp50ComputeUnlock a → ¬ SameBusDevice a b) : ¬ o.Touches b := by
  intro ht
  unfold Op.Touches at ht
  split at ht
  all_goals first | exact ht.elim | skip
  all_goals
    refine hne h.1 ((slots_eq_iff ha hb).mp ?_)
    have hi := h.2.symm.trans ht
    simpa only [slotOf_eq ha, slotOf_eq hb, stockflowGpuIndex_eq ha, stockflowGpuIndex_eq hb] using hi

end

/-! ## What an operation does to the entries of a card -/

section
variable {pGpu : ObjGpu} {s t : Slots} {o : Op}

theorem SameSlots.step (h : SameSlots pGpu s t) (o : Op) : SameSlots pGpu (s.step o) (t.step o) := by
  unfold Slots.step
  split
  · exact ⟨fun f => by simp only [Slots.setFlag]; split <;> simp [h.flag], h.wpr⟩
  · exact ⟨h.flag, fun b => by simp only [Slots.setWpr]; split <;> simp [h.wpr]⟩
  · exact h

theorem SameSlots.untouched (h : SameSlots pGpu s t) (ho : ¬ o.Touches pGpu) : SameSlots pGpu (s.step o) t := by
  unfold Slots.step
  split
  · refine ⟨fun f => ?_, h.wpr⟩
    simp only [Slots.setFlag]
    split
    · next hf => exact absurd (hf.1 ▸ hf.2.symm) ho
    · exact h.flag f
  · refine ⟨h.flag, fun b => ?_⟩
    simp only [Slots.setWpr]
    split
    · next hb => exact absurd hb.2.symm ho
    · exact h.wpr b
  · exact h

end

/-! ## The cards of a host -/

section
variable {stock : StockCode} {ι : Type} {gpus : ι → ObjGpu}

/-- What is left of an attempt keeps to the slot of its GPU. -/
def KeepsToSlot (pGpu : ObjGpu) (p : Option Progress) : Prop :=
  ∀ x, p = some x → x.prog.Uses (Op.Own pGpu)

/-- The arrays are the same for the GPU, if it looks at them at all. -/
def SameFor (pGpu : ObjGpu) (s t : Slots) : Prop := isCmp50ComputeUnlock pGpu → SameSlots pGpu s t

theorem keepsToSlot_step {pGpu : ObjGpu} {s s' : Slots} {p p' : Option Progress} (h : KeepsToSlot pGpu p)
    (hs : CardStep stock pGpu (s, p) (s', p')) : KeepsToSlot pGpu p' := by
  rintro x rfl
  cases hs with
  | start bootMode g =>
      have huses : (kgspBootstrap stock pGpu bootMode .entry).Uses (Op.Own pGpu) := bootstrap_own .entry
      exact huses
  | op hst => exact (h _ rfl).2 _
  | goto => exact bootstrap_own _

theorem cardStep_sameFor {pGpu : ObjGpu} {s s' t : Slots} {p p' : Option Progress} (h : KeepsToSlot pGpu p)
    (hs : CardStep stock pGpu (s, p) (s', p')) (hst : SameFor pGpu s t) :
    ∃ t', CardStep stock pGpu (t, p) (t', p') ∧ SameFor pGpu s' t' := by
  cases hs with
  | start bootMode g => exact ⟨t, .start bootMode g, hst⟩
  | goto => exact ⟨t, .goto, hst⟩
  | finish => exact ⟨t, .finish, hst⟩
  | @op s bootMode o k g log a w' hstep =>
      obtain ⟨hadmits, rfl⟩ := hstep
      have hown := (h _ rfl).1
      have hadmits' : World.Admits ⟨t, g, log⟩ o a := by
        cases o with
        | getFlag f i =>
            obtain ⟨hcmp, rfl⟩ := hown
            exact hadmits.trans ((hst hcmp).flag f)
        | getWpr b i =>
            obtain ⟨hcmp, rfl⟩ := hown
            exact hadmits.trans ((hst hcmp).wpr b)
        | _ => exact hadmits
      have hop : Step o ⟨t, g, log⟩ a ⟨t.step o, g.step o a, ⟨o, a⟩ :: log⟩ := ⟨hadmits', rfl⟩
      exact ⟨t.step o, .op hop, fun hcmp => (hst hcmp).step o⟩

theorem cards_separated (hslot : ∀ i, HasSlot (gpus i))
    (hne : ∀ i j, i ≠ j → isCmp50ComputeUnlock (gpus i) → ¬ SameBusDevice (gpus i) (gpus j)) :
    Pool.Separated (fun i => CardStep stock (gpus i)) (fun i => KeepsToSlot (gpus i)) fun i => SameFor (gpus i) where
  keeps := fun _ _ _ _ _ hok hs => keepsToSlot_step hok hs
  own := fun _ _ _ _ _ _ hok hs hst => cardStep_sameFor hok hs hst
  other := by
    intro i j s p s' p' t hij hok hs hst hcmp
    cases hs with
    | op hstep =>
        obtain ⟨-, rfl⟩ := hstep
        exact (hst hcmp).untouched ((hok _ rfl).1.not_touches (hslot j) (hslot i) (hne j i (Ne.symm hij)))
    | _ => exact hst hcmp

theorem idle_keepsToSlot (s : Slots) (i : ι) : KeepsToSlot (gpus i) ((idle s).own i) :=
  fun _ h => by cases h

/-- The first thing that a NORMAL attempt of a CMP50 does is to read an entry of the card. -/
theorem entry_reads (stock : StockCode) {pGpu : ObjGpu} (hcmp : isCmp50ComputeUnlock pGpu) :
    ∃ k, kgspBootstrap stock pGpu .normal .entry = .op (.getFlag .phaseCommitted (cmp50StockflowGpuIndex pGpu)) k := by
  simp only [kgspBootstrap, entryPart, hcmp, and_self, if_true]
  exact ⟨_, rfl⟩

end

end Cmp50Unlock.Stockflow
