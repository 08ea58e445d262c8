import Cmp50Unlock.Stockflow.Board
import Cmp50Unlock.Stockflow.Lemmas.Footprint

/-!
# How often the function jumps back

The jump at the end of the FWSEC block goes back to `cmp50_v274_commit`, where the block of the commit is entered
only in NORMAL mode. In any other mode the FWSEC block runs again.
-/

namespace Cmp50Unlock.Stockflow

open Lib

section
variable {stock : StockCode} {pGpu : ObjGpu} {bootMode : BootMode} {w w' : World} {l : Label}

/-! ## Where the parts go -/

/-- The part goes nowhere but to the stock Booter. -/
def ToStock (e : Exit Label NvStatus) : Prop := ∀ l, e = .goto l → ∃ rejoin, l = .cmp50V525StockBooter rejoin

/-- The slot of the device is ready for the commit block. -/
def FwsecReady (pGpu : ObjGpu) (w : World) : Prop :=
  w.slots.flag .fwsecReady (cmp50StockflowGpuIndex pGpu) = true

/-- The part goes to the stock Booter, or on a CMP50 back to a commit block that is ready. -/
def JumpsTo (pGpu : ObjGpu) (e : Exit Label NvStatus) (w : World) : Prop :=
  ∀ l, e = .goto l → (∃ rejoin, l = .cmp50V525StockBooter rejoin) ∨
    l = .cmp50V274Commit ∧ isCmp50ComputeUnlock pGpu ∧ FwsecReady pGpu w

theorem toStock_ret {r : NvStatus} : ToStock (.ret r) := fun _ h => by cases h

theorem scrubberAndFwsec_jumps :
    (scrubberAndFwsec stock pGpu bootMode (cmp50StockflowGpuIndex pGpu)).wp Step (fun _ _ => True) w
      (JumpsTo pGpu) := by
  by_cases hcmp : isCmp50ComputeUnlock pGpu <;>
    simp [scrubberAndFwsec, executeScrubberIfNeeded, fwsecBlock, executeFwsec, JumpsTo, FwsecReady, hcmp, Slots.step]

theorem commitTransaction_toStock (pGpu : ObjGpu) (idx : Nat) :
    (commitTransaction pGpu idx).Within (fun _ => True) ToStock := by
  simp only [commitTransaction, Prog.within_bind]
  refine (Prog.uses_true _).within fun r₁ => ?_
  cases r₁ with
  | some status => exact toStock_ret
  | none =>
      simp only [Prog.within_bind]
      refine (Prog.uses_true _).within fun r₂ => ?_
      cases r₂ with
      | some status => exact toStock_ret
      | none =>
          simp only [Prog.within_bind, within_act, within_print, within_printRegs, true_and]
          refine (Prog.uses_true _).within fun r₃ => ?_
          cases r₃ with
          | some status => exact toStock_ret
          | none => simp [riscvBootargs, rdNeStock, fullSpeedLost, ToStock]

theorem commitBlock_toStock (pGpu : ObjGpu) (idx : Nat) :
    (commitBlock pGpu idx).Within (fun _ => True) ToStock := by
  simp only [commitBlock, Prog.within_bind, Prog.within_ite, Prog.within_pure, within_rd, within_print,
    within_printRegs, true_and]
  refine fun lo hi => ⟨fun _ => toStock_ret, fun _ => (Prog.uses_true _).within fun r => ?_⟩
  cases r with
  | some status => exact toStock_ret
  | none => exact commitTransaction_toStock pGpu idx

theorem retryRejoin_toStock (pGpu : ObjGpu) (idx : Nat) :
    (retryRejoin pGpu idx).Within (fun _ => True) ToStock := by
  have hjoin : (joinStockBooter pGpu).Within (fun _ => True) ToStock := by
    simp [joinStockBooter, kgspCmp50SetExploitMode, ToStock]
  simp only [retryRejoin, Prog.within_bind, Prog.within_ite, Prog.within_pure, within_rd, within_printRegs,
    within_getFlag, true_and]
  refine fun lo hi => (Prog.uses_true _).within fun lost =>
    ⟨fun _ => toStock_ret, fun _ ready => ⟨fun _ => ?_, fun _ => hjoin⟩⟩
  refine (Prog.uses_true _).within fun r => ?_
  cases r with
  | some status => exact toStock_ret
  | none => exact hjoin

theorem stockBooterPart_returns (rejoin : Bool) :
    (stockBooterPart stock pGpu bootMode rejoin).Within (fun _ => True) fun e => ∀ l, e ≠ .goto l := by
  simp only [stockBooterPart, Prog.within_bind]
  refine (Prog.uses_true _).within fun status => ?_
  have hfinish : ((finishBoot pGpu (cmp50StockflowGpuIndex pGpu)) >>= fun status =>
      (pure (.ret status) : Driver (Exit Label NvStatus))).Within (fun _ => True) fun e => ∀ l, e ≠ .goto l :=
    Prog.within_bind.mpr ((Prog.uses_true _).within fun _ l h => by cases h)
  simp only [Prog.within_ite, within_print, Prog.within_pure, Prog.within_bind]
  refine ⟨fun _ => ⟨trivial, fun l h => by cases h⟩, fun _ => ⟨fun _ => ?_, fun _ => Prog.within_bind.mp hfinish⟩⟩
  refine (Prog.uses_true _).within fun r => ?_
  cases r with
  | some status => exact fun l h => by cases h
  | none => exact hfinish

/-! ## The commit block ends the loop -/

/-- A call that comes back is in the commit block. -/
theorem commitPart_block {e : Exit Label NvStatus} (hn : bootMode = .normal ∧ isCmp50ComputeUnlock pGpu)
    (hr : FwsecReady pGpu w) (he : (commitPart stock pGpu bootMode).Exec Step w e w') :
    (commitBlock pGpu (cmp50StockflowGpuIndex pGpu)).Exec Step
      (w.after (.getFlag .fwsecReady (cmp50StockflowGpuIndex pGpu)) true) e w' := by
  have hwp : (commitPart stock pGpu bootMode).wp Step (fun _ _ => True) w fun e w' =>
      (commitBlock pGpu (cmp50StockflowGpuIndex pGpu)).Exec Step
        (w.after (.getFlag .fwsecReady (cmp50StockflowGpuIndex pGpu)) true) e w' := by
    have hr : w.slots.flag .fwsecReady (cmp50StockflowGpuIndex pGpu) = true := hr
    simp only [commitPart, if_pos hn, Prog.wp_bind, Prog.wp_ite, wp_getFlag, hr, true_and]
    exact ⟨fun _ => Prog.wp_exec, fun hf => absurd trivial hf⟩
  exact hwp.exec he

theorem commitPart_ready (hn : bootMode = .normal ∧ isCmp50ComputeUnlock pGpu) (hr : FwsecReady pGpu w)
    (he : (commitPart stock pGpu bootMode).Exec Step w (.goto l) w') :
    ∃ rejoin, l = .cmp50V525StockBooter rejoin :=
  (commitBlock_toStock _ _).result (commitPart_block hn hr he) l rfl

theorem commitPart_jumps (he : (commitPart stock pGpu bootMode).Exec Step w (.goto l) w') :
    (∃ rejoin, l = .cmp50V525StockBooter rejoin) ∨
      l = .cmp50V274Commit ∧ isCmp50ComputeUnlock pGpu ∧ FwsecReady pGpu w' := by
  have hwp : (commitPart stock pGpu bootMode).wp Step (fun _ _ => True) w (JumpsTo pGpu) := by
    simp only [commitPart, Prog.wp_bind, Prog.wp_ite, wp_getFlag, true_and]
    refine ⟨fun _ => ⟨fun _ => Prog.wp_exec.mono fun e w' he l h => .inl ?_, fun _ => ?_⟩, fun _ => ?_⟩
    · exact (commitBlock_toStock _ _).result he l h
    · exact scrubberAndFwsec_jumps
    · exact scrubberAndFwsec_jumps
  exact hwp.exec he l rfl

theorem entryPart_jumps (he : (entryPart pGpu bootMode).Exec Step w (.goto l) w') :
    (∃ rejoin, l = .cmp50V525StockBooter rejoin) ∨ l = .cmp50V274Commit := by
  cases l with
  | entry =>
      have hwithin : (entryPart pGpu bootMode).Within (fun _ => True) fun e => e ≠ .goto .entry := by
        simp only [entryPart, Prog.within_bind, Prog.within_ite, Prog.within_pure, within_getFlag, true_and]
        refine ⟨fun _ _ => ⟨fun _ => ?_, fun _ => by simp⟩, fun _ => by simp⟩
        refine (retryRejoin_toStock _ _).mono (fun _ h => h) fun e h heq => ?_
        obtain ⟨_, h⟩ := h _ heq
        cases h
      exact absurd rfl (hwithin.result he)
  | cmp50V274Commit => exact .inr rfl
  | cmp50V525StockBooter rejoin => exact .inl ⟨rejoin, rfl⟩

theorem no_jump_back {rejoin : Bool}
    (he : (stockBooterPart stock pGpu bootMode rejoin).Exec Step w (.goto l) w') : False :=
  (stockBooterPart_returns rejoin).result he l rfl

/-! ## Calls that stop -/

theorem halts_stock (rejoin : Bool) :
    Goto.Halts Step (kgspBootstrap stock pGpu bootMode) (.cmp50V525StockBooter rejoin) w :=
  .intro fun _ _ he => (no_jump_back he).elim

theorem halts_ready (hn : bootMode = .normal ∧ isCmp50ComputeUnlock pGpu) (hr : FwsecReady pGpu w) :
    Goto.Halts Step (kgspBootstrap stock pGpu bootMode) .cmp50V274Commit w := by
  refine .intro fun l w' he => ?_
  obtain ⟨rejoin, rfl⟩ := commitPart_ready hn hr he
  exact halts_stock rejoin

theorem halts_commit (hloop : isCmp50ComputeUnlock pGpu → bootMode = .normal) :
    Goto.Halts Step (kgspBootstrap stock pGpu bootMode) .cmp50V274Commit w := by
  refine .intro fun l w' he => ?_
  rcases commitPart_jumps he with ⟨rejoin, rfl⟩ | ⟨rfl, hcmp, hr⟩
  · exact halts_stock rejoin
  · exact halts_ready ⟨hloop hcmp, hcmp⟩ hr

theorem halts_entry (hloop : isCmp50ComputeUnlock pGpu → bootMode = .normal) :
    Goto.Halts Step (kgspBootstrap stock pGpu bootMode) .entry w := by
  refine .intro fun l w' he => ?_
  rcases entryPart_jumps he with ⟨rejoin, rfl⟩ | rfl
  · exact halts_stock rejoin
  · exact halts_commit hloop

theorem commitPart_unadmitted (ha : stock.admitsFwsec bootMode = false)
    (he : (commitPart stock pGpu bootMode).Exec Step w (.goto l) w') : ∃ rejoin, l = .cmp50V525StockBooter rejoin := by
  have hwithin : (commitPart stock pGpu bootMode).Within (fun _ => True) ToStock := by
    have hscrub : (scrubberAndFwsec stock pGpu bootMode (cmp50StockflowGpuIndex pGpu)).Within
        (fun _ => True) ToStock := by
      simp [scrubberAndFwsec, executeScrubberIfNeeded, ha, ToStock]
    simp only [commitPart, Prog.within_bind, Prog.within_ite, within_getFlag, true_and]
    exact ⟨fun _ _ => ⟨fun _ => commitBlock_toStock _ _, fun _ => hscrub⟩, fun _ => hscrub⟩
  exact hwithin.result he l rfl

theorem halts_unadmitted (ha : stock.admitsFwsec bootMode = false) :
    Goto.Halts Step (kgspBootstrap stock pGpu bootMode) .entry w := by
  refine .intro fun l w' he => ?_
  rcases entryPart_jumps he with ⟨rejoin, rfl⟩ | rfl
  · exact halts_stock rejoin
  · refine .intro fun l w' he => ?_
    obtain ⟨rejoin, rfl⟩ := commitPart_unadmitted ha he
    exact halts_stock rejoin

/-- What is known when a call has jumped back `n` times. -/
def Jumped (pGpu : ObjGpu) (n : Nat) : Label → World → Prop
  | .entry, _ => n = 0
  | .cmp50V274Commit, w => n = 0 ∨ n = 1 ∧ isCmp50ComputeUnlock pGpu ∧ FwsecReady pGpu w
  | .cmp50V525StockBooter _, _ => n ≤ 1

theorem jumped {n : Nat} (hloop : isCmp50ComputeUnlock pGpu → bootMode = .normal)
    (h : Goto.Jumps Step (kgspBootstrap stock pGpu bootMode) isBackward .entry w n l w') : Jumped pGpu n l w' := by
  refine h.inv (I := Jumped pGpu) rfl fun n l₁ w₁ l₂ w₂ hn he => ?_
  cases l₁ with
  | entry =>
      obtain rfl : n = 0 := hn
      rcases entryPart_jumps he with ⟨rejoin, rfl⟩ | rfl
      · exact Nat.zero_le 1
      · exact .inl rfl
  | cmp50V274Commit =>
      rcases hn with rfl | ⟨rfl, hcmp, hr⟩
      · rcases commitPart_jumps he with ⟨rejoin, rfl⟩ | ⟨rfl, hcmp, hr⟩
        · exact Nat.zero_le 1
        · exact .inr ⟨rfl, hcmp, hr⟩
      · obtain ⟨rejoin, rfl⟩ := commitPart_ready ⟨hloop hcmp, hcmp⟩ hr he
        exact Nat.le_refl 1
  | cmp50V525StockBooter rejoin => exact (no_jump_back he).elim

/-! ## Calls that do not stop -/

/-- A board on which every step of the FWSEC block succeeds. -/
def fwsecSucceeds : Board := ⟨(0, 0), (0, 0), fun _ => .ok, .ok, none⟩

theorem commitPart_loops (hcmp : isCmp50ComputeUnlock pGpu) (hm : bootMode ≠ .normal)
    (ha : stock.admitsFwsec bootMode = true) (w : World) :
    ∃ w', (commitPart stock pGpu bootMode).Exec Step w (.goto .cmp50V274Commit) w' ∧
      Board.fwsecRuns w'.log = Board.fwsecRuns w.log + 1 := by
  have hr : ((commitPart stock pGpu bootMode).interp fwsecSucceeds.run w).1 = .goto .cmp50V274Commit ∧
      Board.fwsecRuns ((commitPart stock pGpu bootMode).interp fwsecSucceeds.run w).2.log =
      Board.fwsecRuns w.log + 1 := by
    have hhal : ∀ c w, (hal c).interp fwsecSucceeds.run w = (.ok, w.after (.hal c) .ok) := fun c w => by cases c <;> rfl
    have htest : ∀ c w, (test c).interp fwsecSucceeds.run w = (true, w.after (.test c) true) := fun c w => rfl
    have hact : ∀ c w, (act c).interp fwsecSucceeds.run w = ((), w.after (.act c) ()) := fun c w => rfl
    have hprint : ∀ m w, (print m).interp fwsecSucceeds.run w = ((), w.after (.act (.print m)) ()) := fun m w => rfl
    cases bootMode with
    | normal => exact absurd rfl hm
    | _ =>
      simp [commitPart, scrubberAndFwsec, executeScrubberIfNeeded, fwsecBlock, executeFwsec,
        hcmp, ha, hhal, htest, hact, hprint, Board.fwsecRuns]
  exact ⟨_, hr.1 ▸ Prog.exec_interp id fwsecSucceeds.run_step (commitPart stock pGpu bootMode) w, hr.2⟩

section
variable (hcmp : isCmp50ComputeUnlock pGpu) (hm : bootMode ≠ .normal) (ha : stock.admitsFwsec bootMode = true)

theorem entry_to_commit (hm : bootMode ≠ .normal) :
    (entryPart pGpu bootMode).Exec Step w (.goto .cmp50V274Commit) w := by
  simp [entryPart, hm]

include hcmp hm ha

theorem not_halts : ¬ Goto.Halts Step (kgspBootstrap stock pGpu bootMode) .entry w := by
  intro h
  refine h.not_loop (I := fun l _ => l = Label.entry ∨ l = .cmp50V274Commit) ?_ (.inl rfl)
  rintro l w (rfl | rfl)
  · exact ⟨_, w, entry_to_commit hm, .inr rfl⟩
  · obtain ⟨w', he, -⟩ := commitPart_loops hcmp hm ha w
    exact ⟨_, w', he, .inr rfl⟩

theorem jumps_unbounded (n : Nat) :
    ∃ w', Goto.Jumps Step (kgspBootstrap stock pGpu bootMode) isBackward .entry w n .cmp50V274Commit w' := by
  induction n with
  | zero => exact ⟨w, .tail .refl (entry_to_commit hm)⟩
  | succ n ih =>
      obtain ⟨w₁, hj⟩ := ih
      obtain ⟨w₂, he, -⟩ := commitPart_loops hcmp hm ha w₁
      exact ⟨w₂, hj.tail he⟩

end

theorem halts_iff (hcmp : isCmp50ComputeUnlock pGpu) :
    Goto.Halts Step (kgspBootstrap stock pGpu bootMode) .entry w ↔
      bootMode = .normal ∨ stock.admitsFwsec bootMode = false := by
  refine ⟨fun h => ?_, ?_⟩
  · by_cases hm : bootMode = .normal
    · exact .inl hm
    · cases ha : stock.admitsFwsec bootMode with
      | false => exact .inr rfl
      | true => exact absurd h (not_halts hcmp hm ha)
  · rintro (hm | ha)
    · exact halts_entry fun _ => hm
    · exact halts_unadmitted ha

end

end Cmp50Unlock.Stockflow
