import Cmp50Unlock.Stockflow.Lemmas.Walk

/-!
# Attempts and histories

What the walk through the function says about a whole attempt and, by induction, about every history.
-/

namespace Cmp50Unlock.Stockflow

open Lib

section
variable {stock : StockCode} {pGpu : ObjGpu} {bootMode : BootMode} {s : Slots} {g : KernelGsp} {L : World → Prop}
  {w : World}

/-! ## One attempt -/

theorem reached_start (pGpu : ObjGpu) (bootMode : BootMode) (s : Slots) (g : KernelGsp) :
    Reached pGpu bootMode s g .entry (startWorld s g) := ⟨rfl, rfl⟩

theorem Issued.checked {o : Op} (hi : Issued stock pGpu bootMode s g o w) (hs : s.Between) :
    o.Checked pGpu bootMode (StockLaunch pGpu bootMode s g) w :=
  Goto.issues_of_wp (bootstrap_wp hs) (reached_start pGpu bootMode s g) hi

theorem ComesTo.reached {l : Label} (hr : ComesTo stock pGpu bootMode s g l w) (hs : s.Between) :
    Reached pGpu bootMode s g l w :=
  Goto.reaches_of_wp (bootstrap_wp hs) (reached_start pGpu bootMode s g) hr

theorem ComesTo.between {l : Label} (hr : ComesTo stock pGpu bootMode s g l w) (hs : s.Between) :
    w.slots.Between := by
  have h := hr.reached hs
  cases l with
  | entry => exact h.1 ▸ hs
  | cmp50V274Commit => exact h.1
  | cmp50V525StockBooter rejoin => exact h.1

theorem Returns.between {r : NvStatus} (hr : Returns stock pGpu bootMode s g r w) (hs : s.Between) :
    w.slots.Between :=
  Goto.call_of_wp (bootstrap_wp hs) (reached_start pGpu bootMode s g) hr

theorem exploitRun_keeps {o : Op} (h : ExploitRun pGpu bootMode w o) :
    o.KeepsSlots ∨ o = .act (.setFlag .exploitMode (cmp50ExploitModeIndex pGpu) false) := by
  rcases h.window with ⟨_, hi⟩ | rfl
  · exact .inl ((freshMeta_uses pGpu).issued hi).1.keepsSlots
  · exact .inr rfl

/-- Only a call that came through the gates sets the flag of its slot, and none clears a flag. -/
theorem Op.Checked.commit {i : Nat} {b : Bool}
    (h : Op.Checked pGpu bootMode L w (.act (.setFlag .phaseCommitted i b))) :
    i = cmp50StockflowGpuIndex pGpu ∧ b = true ∧ GatesPassed pGpu w := by
  by_cases hon : w.slots.flag .exploitMode (cmp50ExploitModeIndex pGpu)
  · simp only [Op.Checked, hon, if_true] at h
    rcases exploitRun_keeps h with hk | ho
    · exact hk.elim
    · cases ho
  · simpa [Op.Checked, Op.CheckedOff, hon] using h

theorem Op.Checked.keeps_committed {o : Op} {x : o.Ans} {w' : World} {i : Nat} (h : o.Checked pGpu bootMode L w)
    (hst : Step o w x w') (hw : w.slots.flag .phaseCommitted i = true) :
    w'.slots.flag .phaseCommitted i = true := by
  rw [hst.2, slots_after]
  unfold Slots.step
  split
  · next f j b =>
      by_cases hf : f = .phaseCommitted
      · subst hf
        obtain ⟨-, rfl, -⟩ := h.commit
        simp [Slots.setFlag, hw]
      · exact (flag_setFlag_ne (Ne.symm hf)).trans hw
  · exact hw
  · exact hw

theorem Returns.committed {r : NvStatus} {i : Nat} (hr : Returns stock pGpu bootMode s g r w) (hs : s.Between)
    (hc : s.flag .phaseCommitted i = true) : w.slots.flag .phaseCommitted i = true :=
  Goto.call_inv (I := fun w => w.slots.flag .phaseCommitted i = true) (bootstrap_wp hs)
    (fun _ _ _ _ hchk hst => hchk.keeps_committed hst) (reached_start pGpu bootMode s g) hc hr

theorem Issued.committed {o : Op} {i : Nat} (hi : Issued stock pGpu bootMode s g o w) (hs : s.Between)
    (hc : s.flag .phaseCommitted i = true) : w.slots.flag .phaseCommitted i = true :=
  Goto.issues_inv (I := fun w => w.slots.flag .phaseCommitted i = true) (bootstrap_wp hs)
    (fun _ _ _ _ hchk hst => hchk.keeps_committed hst) (reached_start pGpu bootMode s g) hc hi

/-! ## The gates of the transaction -/

/-- The steps of the transaction that the call in the state `w` came through, with the registers as each gate
read them. -/
def TransactionSteps (pGpu : ObjGpu) (w : World) : Prop :=
  ∃ w₁ w₂ w₃ w₄ w₅ w₆ w₇ : World,
    (kgspCmp50ExecuteBooterFreshMeta pGpu).Exec Step w₁ .ok w₂ ∧ w₂.log <:+ w₃.log ∧
    HoldsDown w₃.log ∧ HoldsFullSpeed w₃.log ∧
    kgspCmp50RebuildStockSignature.Exec Step w₃ .ok w₄ ∧ w₄.log <:+ w₅.log ∧
    kgspCmp50SanitizeSec2AfterExploit.Exec Step w₅ .ok w₆ ∧ w₆.log <:+ w₇.log ∧
    HoldsDown w₇.log ∧ HoldsFullSpeed w₇.log ∧ lastRead .sec2ResetPlm w₇.log = some 0xFF ∧ w₇.log <:+ w.log

theorem exploitBooter_passed : (exploitBooter pGpu).wp Step (fun _ _ => True) w fun r w' => r = none →
    (∃ w₁ w₂, (kgspCmp50ExecuteBooterFreshMeta pGpu).Exec Step w₁ .ok w₂ ∧ w₂.log <:+ w'.log) ∧
      HoldsDown w'.log ∧ HoldsFullSpeed w'.log := by
  simp only [exploitBooter, kgspCmp50SetExploitMode, Prog.wp_bind, wp_act]
  refine ⟨trivial, Prog.wp_exec.mono fun status w₂ he => ?_⟩
  simp +contextual [readGate, GateReads.fullSpeed, GateReads.wprDown, holdsDown_iff, holdsFullSpeed_iff, lastRead]
  intro _ _ _ _ _ hst _ _ _ _ _
  exact ⟨_, w₂, hst ▸ he, [_, _, _, _, _, _], rfl⟩

theorem restoreStock_passed : restoreStock.wp Step (fun _ _ => True) w fun r w' => r = none →
    (∃ w₁ w₂ w₃, kgspCmp50RebuildStockSignature.Exec Step w .ok w₁ ∧ w₁.log <:+ w₂.log ∧
      kgspCmp50SanitizeSec2AfterExploit.Exec Step w₂ .ok w₃ ∧ w₃.log <:+ w'.log) ∧
      HoldsDown w'.log ∧ HoldsFullSpeed w'.log ∧ lastRead .sec2ResetPlm w'.log = some 0xFF := by
  simp only [restoreStock, Prog.wp_bind]
  refine Prog.wp_exec.mono fun status w₁ he₁ => ?_
  by_cases hst : status = .ok
  · subst hst
    simp only [ne_eq, not_true_eq_false, if_false, Prog.wp_bind]
    refine Prog.wp_exec.mono fun _ w₂ he₂ => Prog.wp_exec.mono fun status w₃ he₃ => ?_
    by_cases hst : status = .ok
    · subst hst
      simp +contextual [readGate, GateReads.fullSpeed, GateReads.wprDown, holdsDown_iff, holdsFullSpeed_iff, lastRead]
      intro _ _ _ _ _ _ _ _ _ _ _
      exact ⟨w₁, he₁, w₂, recorded.exec he₂, w₃, he₃, [_, _, _, _, _, _, _, _], rfl⟩
    · simp [hst]
  · simp [hst]

theorem GatesPassed.steps (h : GatesPassed pGpu w) : TransactionSteps pGpu w := by
  obtain ⟨w₀, w₃, w₇, he₁, he₂, hs⟩ := h
  obtain ⟨⟨w₁, w₂, hboot, hl₂⟩, hdown₃, hspeed₃⟩ := exploitBooter_passed.exec he₁ rfl
  obtain ⟨⟨w₄, w₅, w₆, hrebuild, hl₄, hsane, hl₆⟩, hdown₇, hspeed₇, hreset⟩ := restoreStock_passed.exec he₂ rfl
  exact ⟨w₁, w₂, w₃, w₄, w₅, w₆, w₇, hboot, hl₂, hdown₃, hspeed₃, hrebuild, hl₄, hsane, hl₆, hdown₇, hspeed₇,
    hreset, hs⟩

end

/-! ## Every history -/

theorem Later.between {stock : StockCode} {A : Attempt → Prop} {s₀ s : Slots} (h : Later stock A s₀ s)
    (h₀ : s₀.Between) : s.Between :=
  h.inv h₀ fun _ _ hr hs => Returns.between hr hs

theorem history_between {stock : StockCode} {A : Attempt → Prop} {s : Slots} (h : History stock A s) : s.Between :=
  h.between Slots.between_zero

end Cmp50Unlock.Stockflow
