import Cmp50Unlock.Stockflow.Command
import Cmp50Unlock.Stockflow.Lemmas.Jumps
import Cmp50Unlock.Stockflow.Lemmas.Routine

/-!
# Who runs and who frees the command

Only the FWSEC block and the two replays touch the command. What each of them does with it, and from that what
holds at the labels.
-/

namespace Cmp50Unlock.Stockflow

open Lib

/-- While the command is used as `B` allows, the operation does not use one that was freed, and it runs the command
only if `B` allows that. -/
def Op.UsesCommand (B : CommandUse → Prop) (w : World) (o : Op) : Prop :=
  w.OwnsCommand o ∧ (o = .hal .kgspExecuteFwsec → B w.command)

section
variable {stock : StockCode} {pGpu : ObjGpu} {bootMode : BootMode} {w : World} {B : CommandUse → Prop}

/-! ## Routine operations -/

theorem Op.Routine.usesCommand {o : Op} (h : o.Routine pGpu) : o.UsesCommand B w := by
  constructor
  · unfold World.OwnsCommand
    split <;> first | exact h.elim | trivial
  · rintro rfl
    exact h.elim

theorem prepared_step {o : Op} (h : o.Routine pGpu) (g : KernelGsp) (a : o.Ans) :
    (g.step o a).pPreparedFwsecCmd = g.pPreparedFwsecCmd := by
  cases o with
  | hal c =>
      cases c with
      | memdescCreate m size => cases a <;> cases m <;> rfl
      | _ => rfl
  | tagAlloc m =>
      obtain ⟨status, b⟩ := a
      cases status <;> cases m <;> rfl
  | act c =>
      cases c with
      | memdescDestroy m => cases m <;> rfl
      | _ => first | exact h.elim | rfl
  | _ => rfl

theorem Op.Routine.command {o : Op} (h : o.Routine pGpu) (w : World) (a : o.Ans) :
    (w.after o a).command = w.command := by
  have hg := prepared_step h w.gsp a
  cases o with
  | hal c => cases c <;> first | exact h.elim | simp [World.command, hg, Board.fwsecRuns, fwsecFrees, frtsAbsent]
  | test t => cases t <;> first | exact h.elim | simp [World.command, hg, Board.fwsecRuns, fwsecFrees, frtsAbsent]
  | act c => cases c <;> first | exact h.elim | simp [World.command, hg, Board.fwsecRuns, fwsecFrees, frtsAbsent]
  | _ => simp [World.command, hg, Board.fwsecRuns, fwsecFrees, frtsAbsent]

theorem command_frame {α : Type} {p : Driver α} {R : α → Prop} (h : p.Within (Op.Routine pGpu) R) :
    p.wp Step (Op.UsesCommand B) w fun r w' => R r ∧ w'.command = w.command :=
  h.wp (I := fun w' : World => w'.command = w.command) (fun _ w₁ a _ ho hs hI => hs.2 ▸ (ho.command w₁ a).trans hI)
    (fun _ _ ho _ => ho.usesCommand) rfl

/-! ## The replays -/

/-- The command is there, it was not freed, and it may be run. -/
structure Runnable (B : CommandUse → Prop) (c : CommandUse) : Prop where
  prepared : c.prepared = true
  unfreed : c.frees = 0
  allowed : B c

/-- What a retry of a committed slot makes of the command: it fails before the replay, or replays it. -/
def Replays (c : CommandUse) (passed : Prop) (c' : CommandUse) : Prop := (¬ passed ∧ c' = c) ∨ c' = c.replay

theorem Replays.passed {c c' : CommandUse} {passed : Prop} (h : Replays c passed c') (hp : passed) : c' = c.replay := by
  rcases h with ⟨hn, -⟩ | h
  · exact absurd hp hn
  · exact h

theorem Replays.mono {c c' : CommandUse} {P Q : Prop} (h : Replays c P c') (hn : ¬ Q) : Replays c Q c' :=
  h.imp (fun h => ⟨hn, h.2⟩) id

theorem captureStockRange_command {idx : Nat} {lo hi : BitVec 32} :
    (captureStockRange idx lo hi).wp Step (Op.UsesCommand B) w fun _ w' => w'.command = w.command := by
  simp [captureStockRange, Op.UsesCommand, World.OwnsCommand, World.command, KernelGsp.step, KernelGsp.act,
    Board.fwsecRuns, fwsecFrees, frtsAbsent]

theorem usesCommand_rd {r : Reg} : Op.UsesCommand B w (.rd r) := ⟨trivial, nofun⟩

theorem usesCommand_logRd {rs : List Reg} : Op.UsesCommand B w (.logRd rs) := ⟨trivial, nofun⟩

theorem usesCommand_getGsp : Op.UsesCommand B w .getGsp := ⟨trivial, nofun⟩

theorem usesCommand_act {c : Act} (hc : c ≠ .portMemFreeFwsecCmd) : Op.UsesCommand B w (.act c) := by
  refine ⟨?_, nofun⟩
  cases c <;> trivial

theorem usesCommand_hal {c : Hal} (hc : c ≠ .kgspExecuteFwsec) : Op.UsesCommand B w (.hal c) := by
  refine ⟨?_, fun h => absurd (Op.hal.inj h) hc⟩
  cases c <;> trivial

/-- The run of a replay and the free after it. -/
theorem fwsec_replay {α : Type} (pGpu : ObjGpu) {p : NvStatus → Driver α} {Q : α → World → Prop}
    (h : Runnable B w.command) (hp : ∀ status, (p status).Uses (Op.Routine pGpu))
    (hQ : ∀ r w', w'.command = w.command.replay → Q r w') :
    (do let status ← hal .kgspExecuteFwsec
        act .portMemFreeFwsecCmd
        p status).wp Step (Op.UsesCommand B) w Q := by
  obtain ⟨hprep, hfree, hB⟩ := h
  simp only [Prog.wp_bind, wp_hal, wp_act]
  refine ⟨⟨⟨hprep, hfree⟩, fun _ => hB⟩, fun status => ⟨⟨⟨hprep, hfree⟩, by simp⟩, ?_⟩⟩
  exact (command_frame (hp status)).mono fun r w' hw' => hQ r w' hw'.2

/-! ## The phases before the replay -/

section
variable {p q : Driver (Option NvStatus)} {w' : World}

theorem andThen_bind {α : Type} (f : Option NvStatus → Driver α) :
    andThen p q >>= f = p >>= ifPassed (fun status => f (some status)) (q >>= f) := by
  rw [andThen, bind_assoc]
  congr 1
  funext r
  cases r with
  | some status => exact pure_bind _ _
  | none => rfl

theorem andThen_none : (andThen p q).Exec Step w none w' ↔ ∃ w₁, p.Exec Step w none w₁ ∧ q.Exec Step w₁ none w' := by
  rw [andThen, Prog.exec_bind]
  constructor
  · rintro ⟨r, w₁, hp, hq⟩
    cases r with
    | some status => cases hq.1
    | none => exact ⟨w₁, hp, hq⟩
  · rintro ⟨w₁, hp, hq⟩
    exact ⟨none, w₁, hp, hq⟩

theorem stepsSucceed_iff {log : List Event} : StepsSucceed pGpu w log ↔
    ∃ w', (upToReplay pGpu (cmp50StockflowGpuIndex pGpu)).Exec Step w none w' ∧ w'.log <:+ log := by
  simp only [upToReplay, andThen_none]
  constructor
  · rintro ⟨w₁, w₂, w₃, w₄, h₁, h₂, h₃, h₄, hl⟩
    exact ⟨w₄, ⟨w₁, h₁, w₂, h₂, w₃, h₃, h₄⟩, hl⟩
  · rintro ⟨w₄, ⟨w₁, h₁, w₂, h₂, w₃, h₃, h₄⟩, hl⟩
    exact ⟨w₁, w₂, w₃, w₄, h₁, h₂, h₃, h₄, hl⟩

theorem learnRange_bind {α : Type} {idx : Nat} (f : Option NvStatus → Driver α) : learnRange idx >>= f = (do
    let wpr2Lo ← rd .wpr2AddrLo
    let wpr2Hi ← rd .wpr2AddrHi
    printRegs .postFwsecPreGspEntry [.fecsFeaturePlm, .sec2ResetPlm]
    if ¬(wpr2Hi = 0 ∨ (wpr2Lo ≠ 0 ∧ wpr2Lo < wpr2Hi)) then
      print .unexpectedPostFwsecWpr
      f (some .errInvalidState)
    else
      captureStockRange idx wpr2Lo wpr2Hi >>= f) := by
  simp only [learnRange, bind_assoc, Prog.ite_bind, pure_bind]

theorem refwsec_bind {α : Type} {idx : Nat} (f : Option NvStatus → Driver α) : (do
    act (.setFlag .phaseCommitted idx true)
    printRegs .phaseBoundaryPass [.sec2ResetPlm]
    print .bdfState
    refwsec idx >>= f) =
    resetForReplay idx >>= ifPassed (fun status => f (some status)) (replayFwsec idx >>= f) := by
  simp only [resetForReplay, refwsec, replayFwsec, bind_assoc, Prog.ite_bind, pure_bind, ifPassed]

/-- The commit block, with the phases before the replay taken together. -/
theorem commitBlock_phases {idx : Nat} : commitBlock pGpu idx = upToReplay pGpu idx >>=
    ifPassed (fun status => pure (.ret status))
      (replayFwsec idx >>= ifPassed (fun status => pure (.ret status)) (riscvBootargs idx)) := by
  simp only [upToReplay, andThen_bind]
  rw [learnRange_bind]
  simp only [commitBlock, commitTransaction, refwsec_bind]
  rfl

/-- The program leaves the command alone. -/
def LeavesCommand (p : Driver (Option NvStatus)) : Prop :=
  ∀ (B : CommandUse → Prop) (w : World), p.wp Step (Op.UsesCommand B) w fun _ w' => w'.command = w.command

theorem LeavesCommand.of_routine (h : p.Uses (Op.Routine pGpu)) : LeavesCommand p :=
  fun _ _ => (command_frame h).mono fun _ _ hw' => hw'.2

theorem LeavesCommand.andThen (hp : LeavesCommand p) (hq : LeavesCommand q) : LeavesCommand (andThen p q) := by
  intro B w
  rw [Stockflow.andThen, Prog.wp_bind]
  refine (hp B w).mono fun r w₁ h₁ => ?_
  cases r with
  | some status => exact h₁
  | none => exact (hq B w₁).mono fun _ _ h₂ => h₂.trans h₁

theorem learnRange_command (idx : Nat) : LeavesCommand (learnRange idx) := by
  intro B w
  simp only [learnRange, Prog.wp_bind, Prog.wp_ite, Prog.wp_pure, wp_rd, wp_print, wp_printRegs]
  refine ⟨usesCommand_rd, fun lo => ⟨usesCommand_rd, fun hi => ⟨usesCommand_logRd, fun _ => ?_⟩⟩⟩
  refine ⟨usesCommand_act ?_, fun _ => ⟨usesCommand_act ?_, rfl⟩, fun _ => captureStockRange_command⟩
  · simp
  · simp

theorem upToReplay_command (hcmp : isCmp50ComputeUnlock pGpu) :
    LeavesCommand (upToReplay pGpu (cmp50StockflowGpuIndex pGpu)) := by
  have hreset : (resetForReplay (cmp50StockflowGpuIndex pGpu)).Uses (Op.Routine pGpu) := by
    simp [resetForReplay, slotOf, hcmp]
  refine (learnRange_command _).andThen (.andThen ?_ (.andThen ?_ (.of_routine hreset)))
  · exact .of_routine (exploitBooter_routine hcmp)
  · exact .of_routine (routine_of_aside (@restoreStock_aside pGpu))

end

section
variable (hcmp : isCmp50ComputeUnlock pGpu) (h : Runnable B w.command)
include hcmp h

theorem persistentReady_command :
    (persistentReady (cmp50StockflowGpuIndex pGpu)).wp Step (Op.UsesCommand B) w fun r w' =>
    Replays w.command (r = none) w'.command := by
  have hcmd : w.gsp.pPreparedFwsecCmd = true := h.prepared
  have hrebuild : kgspCmp50RebuildStockSignature.Uses (Op.Routine pGpu) := routine_of_aside rebuild_aside
  unfold persistentReady
  rw [Prog.wp_bind, wp_getGsp]
  refine ⟨usesCommand_getGsp, ?_⟩
  rw [if_neg (by simp [hcmd]), Prog.wp_bind, wp_print]
  refine ⟨usesCommand_act nofun, ?_⟩
  rw [Prog.wp_bind, wp_hal]
  refine ⟨usesCommand_hal nofun, fun status => ?_⟩
  split
  · exact .inl ⟨nofun, rfl⟩
  · have h : Runnable B (((w.after .getGsp w.gsp).after (.act (.print .persistentReadyRefwsec)) ()).after
        (.hal .kflcnReset) status).command := h
    refine fwsec_replay pGpu h (fun status => ?_) fun r w' hw' => .inr hw'
    simp [readGateWprFirst, wprNeStock, hcmp, hrebuild]

theorem replayFwsec_command : (replayFwsec (cmp50StockflowGpuIndex pGpu)).wp Step (Op.UsesCommand B) w fun _ w' =>
    w'.command = w.command.replay := by
  refine fwsec_replay pGpu h (fun status => ?_) fun _ _ hw' => hw'
  simp [readGate, wprNeStock, hcmp]

/-- The commit block stops before the replay, or every step up to it succeeds. -/
theorem commitBlock_command :
    (commitBlock pGpu (cmp50StockflowGpuIndex pGpu)).wp Step (Op.UsesCommand B) w fun e w' =>
      ((∃ r, e = .ret r) ∧ w'.command = w.command) ∨ StepsSucceed pGpu w w'.log ∧ w'.command = w.command.replay := by
  rw [commitBlock_phases, Prog.wp_bind]
  refine (upToReplay_command hcmp B w).with_exec.mono fun r₁ w₁ ⟨h₁, he₁⟩ => ?_
  cases r₁ with
  | some status => exact .inl ⟨⟨status, rfl⟩, h₁⟩
  | none =>
      have hsteps : ∀ w₂ : World, w₁.log <:+ w₂.log → StepsSucceed pGpu w w₂.log :=
        fun w₂ hl => stepsSucceed_iff.2 ⟨w₁, he₁, hl⟩
      rw [ifPassed, Prog.wp_bind]
      refine (replayFwsec_command hcmp (h₁.symm ▸ h)).with_exec.mono fun r₂ w₂ ⟨h₂, he₂⟩ => ?_
      rw [h₁] at h₂
      cases r₂ with
      | some status => exact .inr ⟨hsteps w₂ (recorded.exec he₂), h₂⟩
      | none =>
          refine (command_frame (routine_of_aside (riscvBootargs_aside hcmp))).with_exec.mono
            fun e w₃ ⟨⟨_, h₃⟩, he₃⟩ => ?_
          exact .inr ⟨hsteps w₃ ((recorded.exec he₂).trans (recorded.exec he₃)), h₃.trans h₂⟩

theorem retryRejoin_command :
    (retryRejoin pGpu (cmp50StockflowGpuIndex pGpu)).wp Step (Op.UsesCommand B) w fun _ w' =>
      Replays w.command False w'.command := by
  have hlost : ∀ lo hi, (orElse (pure (!retryWprAccepted lo hi)) fullSpeedLost).Uses (Op.Routine pGpu) := by
    simp [fullSpeedLost]
  simp only [retryRejoin, Prog.wp_bind, wp_rd]
  refine ⟨usesCommand_rd, fun lo => ⟨usesCommand_rd, fun hi => ?_⟩⟩
  refine (command_frame (hlost lo hi)).mono fun lost w₁ hpost => ?_
  obtain ⟨_, h₁⟩ := hpost
  simp only [Prog.wp_ite, Prog.wp_bind, Prog.wp_pure, wp_print, wp_printRegs, wp_getFlag]
  refine ⟨fun _ => ⟨usesCommand_logRd, fun _ => ⟨usesCommand_act (by simp), .inl ⟨id, h₁⟩⟩⟩,
    fun _ => ⟨⟨trivial, by simp⟩, fun _ => ?_, fun _ => ?_⟩⟩
  · refine (persistentReady_command hcmp (h₁.symm ▸ h)).mono fun r w₂ h₂ => ?_
    have h₂ : Replays w.command (r = none) w₂.command := h₁ ▸ h₂
    cases r with
    | some status => exact h₂.mono (by simp)
    | none =>
        refine (command_frame (routine_of_aside (joinStockBooter_aside hcmp))).mono fun e w₃ hpost => ?_
        obtain ⟨_, h₃⟩ := hpost
        refine .inr ?_
        exact h₃.trans (h₂.passed rfl)
  · refine (command_frame (routine_of_aside (joinStockBooter_aside hcmp))).mono fun e w₂ hpost => ?_
    obtain ⟨_, h₂⟩ := hpost
    refine .inl ⟨id, ?_⟩
    exact h₂.trans h₁

/-- What the scrubber and the FWSEC block make of the command. -/
def BlockOutcome (stock : StockCode) (pGpu : ObjGpu) (bootMode : BootMode) (c : CommandUse) :
    Exit Label NvStatus → World → Prop
  | .ret _, w => w.command = c ∨ stock.admitsFwsec bootMode = true ∧ w.command = c.run
  | .goto .entry, _ => False
  | .goto .cmp50V274Commit, w => stock.admitsFwsec bootMode = true ∧ FwsecReady pGpu w ∧
      (w.command = c.run ∨ w.command = { c with noFrts := true })
  | .goto (.cmp50V525StockBooter _), w => stock.admitsFwsec bootMode = false ∧ w.command = c

theorem scrubberAndFwsec_command :
    (scrubberAndFwsec stock pGpu bootMode (cmp50StockflowGpuIndex pGpu)).wp Step (Op.UsesCommand B) w
      (BlockOutcome stock pGpu bootMode w.command) := by
  obtain ⟨hprep, hfree, hB⟩ := h
  simp only [World.command] at hprep hfree hB
  rw [hprep, hfree] at hB
  cases ha : stock.admitsFwsec bootMode <;>
    simp +contextual [scrubberAndFwsec, executeScrubberIfNeeded, fwsecBlock, executeFwsec, hcmp, ha, BlockOutcome,
      Op.UsesCommand, World.OwnsCommand, World.command, KernelGsp.step, KernelGsp.act, Board.fwsecRuns, fwsecFrees,
      frtsAbsent, FwsecReady, Slots.step, hprep, hfree, hB, CommandUse.run]

end

/-! ## The assertions at the labels -/

/-- The slot was committed or ready before the call, which started with the arrays `s`, or there is no FRTS region: the
call has no first run. -/
def NoFirstRun (pGpu : ObjGpu) (s : Slots) (c : CommandUse) : Prop :=
  s.flag .phaseCommitted (cmp50StockflowGpuIndex pGpu) = true ∨
    s.flag .fwsecReady (cmp50StockflowGpuIndex pGpu) = true ∨ c.noFrts = true

/-- What is known of the command at the commit: in NORMAL mode the slot was not committed, and either the FWSEC block
did not run the command, or it ran it once. -/
structure AtCommit (stock : StockCode) (pGpu : ObjGpu) (bootMode : BootMode) (s : Slots) (w : World) : Prop where
  prepared : w.command.prepared = true
  unfreed : w.command.frees = 0
  unadmitted : stock.admitsFwsec bootMode = false → w.command.runs = 0
  normal : bootMode = .normal →
    (w.command.runs = 0 ∧ (FwsecReady pGpu w ↔ NoFirstRun pGpu s w.command)) ∨
      w.command.runs = 1 ∧ FwsecReady pGpu w ∧ ¬ NoFirstRun pGpu s w.command

/-- A NORMAL call is in its first round until the slot is ready, and has run the command only if it came back. -/
structure Rounds (stock : StockCode) (pGpu : ObjGpu) (bootMode : BootMode) (s : Slots) (g : KernelGsp) (w : World) :
    Prop where
  first : bootMode = .normal → ¬ FwsecReady pGpu w → AtCommitBlock stock pGpu bootMode s g 0 w
  back : bootMode = .normal → w.command.runs = 1 → AtCommitBlock stock pGpu bootMode s g 1 w

/-- The command was not used, or it was freed after its last run. -/
def Settled (stock : StockCode) (pGpu : ObjGpu) (bootMode : BootMode) (s : Slots) (g : KernelGsp) (w : World) : Prop :=
  (w.command.runs = 0 ∧ w.command.frees = 0) ∨
    (bootMode = .normal ∧ w.command.prepared = false ∧ w.command.frees = 1 ∧
      (w.command.runs = 1 ∧ NoFirstRun pGpu s w.command ∨
        w.command.runs = 2 ∧ ReplayUnhindered stock pGpu bootMode s g w.log))

/-- The command was run and not freed. -/
def Leaked (pGpu : ObjGpu) (bootMode : BootMode) (s : Slots) (c : CommandUse) : Prop :=
  0 < c.runs ∧ c.frees = 0 ∧ (bootMode = .normal → c.runs = 1 ∧ ¬ NoFirstRun pGpu s c)

/-- What a part leaves at the label that it goes to. -/
def CommandLeft (stock : StockCode) (pGpu : ObjGpu) (bootMode : BootMode) (s : Slots) (g : KernelGsp) :
    Label → World → Prop
  | .entry, _ => False
  | .cmp50V274Commit, w => AtCommit stock pGpu bootMode s w
  | .cmp50V525StockBooter _, w => Settled stock pGpu bootMode s g w

/-- The assertions at the labels. -/
def CommandAt (stock : StockCode) (pGpu : ObjGpu) (bootMode : BootMode) (s : Slots) (g : KernelGsp) :
    Label → World → Prop
  | .entry, w => w = startWorld s g ∧ w.command = ⟨true, 0, 0, false⟩
  | .cmp50V274Commit, w => AtCommit stock pGpu bootMode s w ∧ Rounds stock pGpu bootMode s g w
  | .cmp50V525StockBooter _, w => Settled stock pGpu bootMode s g w

/-- The postcondition of the part of a label. -/
abbrev CommandPost (stock : StockCode) (pGpu : ObjGpu) (bootMode : BootMode) (s : Slots) (g : KernelGsp) :
    Exit Label NvStatus → World → Prop :=
  Goto.Post (CommandLeft stock pGpu bootMode s g) fun _ w =>
    Settled stock pGpu bootMode s g w ∨ Leaked pGpu bootMode s w.command

/-- A CMP50 runs the command a third time only in a mode other than NORMAL. -/
def RunsTwice (stock : StockCode) (bootMode : BootMode) (c : CommandUse) : Prop :=
  bootMode = .normal ∨ stock.admitsFwsec bootMode = false → c.runs < 2

section
variable {s : Slots} {g : KernelGsp} {w' : World} (hcmp : isCmp50ComputeUnlock pGpu)

theorem entryPart_idle (he : (entryPart pGpu bootMode).Exec Step w (.goto .cmp50V274Commit) w') :
    w'.command = w.command := by
  have hwp : (entryPart pGpu bootMode).wp Step (fun _ _ => True) w fun e w' =>
      e = .goto .cmp50V274Commit → w'.command = w.command := by
    simp only [entryPart, Prog.wp_bind, Prog.wp_ite, Prog.wp_pure, wp_getFlag, true_and]
    refine ⟨fun _ => ⟨fun _ => Prog.wp_exec.mono fun e w' he heq => ?_, fun _ _ => rfl⟩, fun _ _ => trivial⟩
    obtain ⟨_, hl⟩ := (retryRejoin_toStock _ _).result he _ heq
    cases hl
  exact hwp.exec he rfl

theorem settled_replay (hm : bootMode = .normal) (hf : w.command.frees = 0) (hw : w'.command = w.command.replay)
    (hr : w.command.runs = 0 ∧ NoFirstRun pGpu s w.command ∨
      w.command.runs = 1 ∧ ReplayUnhindered stock pGpu bootMode s g w'.log) :
    Settled stock pGpu bootMode s g w' := by
  refine .inr ⟨hm, by rw [hw]; rfl, by simp [hw, CommandUse.replay, hf], ?_⟩
  rw [hw]
  rcases hr with ⟨hr, hn⟩ | ⟨hr, hs⟩
  · exact .inl ⟨by simp [CommandUse.replay, hr], hn⟩
  · exact .inr ⟨by simp [CommandUse.replay, hr], hs⟩

theorem ReplayUnhindered.later {log log' : List Event} (h : ReplayUnhindered stock pGpu bootMode s g log)
    (hl : log <:+ log') : ReplayUnhindered stock pGpu bootMode s g log' := by
  obtain ⟨w₀, hj, w₁, w₂, w₃, w₄, h₁, h₂, h₃, h₄, hlog⟩ := h
  exact ⟨w₀, hj, w₁, w₂, w₃, w₄, h₁, h₂, h₃, h₄, hlog.trans hl⟩

theorem Settled.later (h : Settled stock pGpu bootMode s g w) (hw : w'.command = w.command) (hl : w.log <:+ w'.log) :
    Settled stock pGpu bootMode s g w' := by
  rw [Settled, hw]
  exact h.imp_right fun ⟨hm, hp, hf, hr⟩ => ⟨hm, hp, hf, hr.imp_right fun ⟨hr, hs⟩ => ⟨hr, hs.later hl⟩⟩

theorem Settled.post {e : Exit Label NvStatus} (h : Settled stock pGpu bootMode s g w) (he : ToStock e) :
    CommandPost stock pGpu bootMode s g e w := by
  cases e with
  | ret r => exact .inl h
  | goto l =>
      obtain ⟨rejoin, rfl⟩ := he l rfl
      exact h

theorem blockOutcome_post {e : Exit Label NvStatus} (hc : AtCommit stock pGpu bootMode s w)
    (hnot : bootMode = .normal → ¬ FwsecReady pGpu w) (h : BlockOutcome stock pGpu bootMode w.command e w') :
    CommandPost stock pGpu bootMode s g e w' := by
  have hfirst : bootMode = .normal → w.command.runs = 0 ∧ ¬ NoFirstRun pGpu s w.command := by
    intro hm
    rcases hc.normal hm with ⟨hr, hready⟩ | ⟨-, hready, -⟩
    · exact ⟨hr, fun hn => hnot hm (hready.2 hn)⟩
    · exact absurd hready (hnot hm)
  cases e with
  | ret r =>
      rcases h with h | ⟨-, h⟩ <;> simp only [Goto.post_ret, Settled, h]
      · rcases Nat.eq_zero_or_pos w.command.runs with hr | hr
        · exact .inl (.inl ⟨hr, hc.unfreed⟩)
        · exact .inr ⟨hr, hc.unfreed, fun hm => absurd (hfirst hm).1 (Nat.ne_of_gt hr)⟩
      · refine .inr ⟨Nat.succ_pos _, hc.unfreed, fun hm => ⟨?_, (hfirst hm).2⟩⟩
        exact congrArg (· + 1) (hfirst hm).1
  | goto l =>
      cases l with
      | entry => exact h.elim
      | cmp50V525StockBooter rejoin =>
          obtain ⟨ha, h⟩ := h
          simp only [Goto.post_goto, CommandLeft, Settled, h]
          exact .inl ⟨hc.unadmitted ha, hc.unfreed⟩
      | cmp50V274Commit =>
          obtain ⟨ha, hready, h | h⟩ := h
          · refine ⟨?_, ?_, fun hna => absurd (ha.symm.trans hna) (by simp), fun hm => .inr ⟨?_, hready, ?_⟩⟩ <;> rw [h]
            · exact hc.prepared
            · exact hc.unfreed
            · exact congrArg (· + 1) (hfirst hm).1
            · exact (hfirst hm).2
          · refine ⟨?_, ?_, fun hna => absurd (ha.symm.trans hna) (by simp), fun hm => .inl ⟨?_, ?_⟩⟩ <;> rw [h]
            · exact hc.prepared
            · exact hc.unfreed
            · exact (hfirst hm).1
            · exact iff_of_true hready (.inr (.inr rfl))

include hcmp

theorem entryPart_command (h : CommandAt stock pGpu bootMode s g .entry w) :
    (entryPart pGpu bootMode).wp Step (Op.UsesCommand (RunsTwice stock bootMode)) w
      (CommandPost stock pGpu bootMode s g) := by
  obtain ⟨rfl, hc⟩ := h
  have hfresh : Runnable (RunsTwice stock bootMode) (startWorld s g).command := by
    rw [hc]
    exact ⟨rfl, rfl, fun _ => Nat.zero_lt_two⟩
  have hstart : ∀ w', w'.slots = s → w'.command = (startWorld s g).command →
      (bootMode = .normal → s.flag .phaseCommitted (cmp50StockflowGpuIndex pGpu) ≠ true) →
      AtCommit stock pGpu bootMode s w' := by
    intro w' hs hc' hnot
    rw [hc] at hc'
    refine ⟨by rw [hc'], by rw [hc'], fun _ => by rw [hc'], fun hm => .inl ⟨by rw [hc'], ?_⟩⟩
    simp [FwsecReady, NoFirstRun, hs, hc', hnot hm]
  simp only [entryPart, Prog.wp_bind, Prog.wp_ite, Prog.wp_pure, wp_getFlag]
  refine ⟨fun hn => ⟨⟨trivial, by simp⟩, fun hcommitted => ?_, fun hnot => ?_⟩, fun hn => ?_⟩
  · refine (retryRejoin_command hcmp ?_).with_exec.mono fun e w' hpost => ?_
    · exact hfresh
    · obtain ⟨h, he⟩ := hpost
      refine Settled.post ?_ ((retryRejoin_toStock _ _).result he)
      rcases h with ⟨-, h⟩ | h
      · exact .inl (by rw [h]; exact ⟨congrArg CommandUse.runs hc, congrArg CommandUse.frees hc⟩)
      · refine settled_replay hn.1 (congrArg CommandUse.frees hc) h
          (.inl ⟨congrArg CommandUse.runs hc, .inl hcommitted⟩)
  · exact hstart _ rfl rfl fun _ => hnot
  · exact hstart _ rfl rfl fun hm => absurd ⟨hm, hcmp⟩ hn

theorem commitPart_command (h : AtCommit stock pGpu bootMode s w)
    (hback : bootMode = .normal → w.command.runs = 1 → AtCommitBlock stock pGpu bootMode s g 1 w) :
    (commitPart stock pGpu bootMode).wp Step (Op.UsesCommand (RunsTwice stock bootMode)) w
      (CommandPost stock pGpu bootMode s g) := by
  obtain ⟨hprep, hfree, hun, hnormal⟩ := h
  have hruns : Runnable (RunsTwice stock bootMode) w.command := by
    refine ⟨hprep, hfree, fun hm => ?_⟩
    rcases hm with hm | ha
    · rcases hnormal hm with ⟨hr, -⟩ | ⟨hr, -⟩ <;> omega
    · exact (hun ha).symm ▸ Nat.zero_lt_two
  have hscrub : ∀ w', w'.slots = w.slots → w'.command = w.command → (bootMode = .normal → ¬ FwsecReady pGpu w) →
      (scrubberAndFwsec stock pGpu bootMode (cmp50StockflowGpuIndex pGpu)).wp Step
        (Op.UsesCommand (RunsTwice stock bootMode)) w' (CommandPost stock pGpu bootMode s g) := by
    intro w' hs hc hnot
    refine (scrubberAndFwsec_command hcmp (hc.symm ▸ hruns)).mono fun e w₁ h => ?_
    rw [hc] at h
    exact blockOutcome_post ⟨hprep, hfree, hun, hnormal⟩ hnot h
  simp only [commitPart, Prog.wp_bind, Prog.wp_ite, wp_getFlag]
  refine ⟨fun hn => ⟨⟨trivial, by simp⟩, fun hready => ?_, fun hnot => ?_⟩, fun hn => ?_⟩
  · refine (commitBlock_command hcmp ?_).with_exec.mono fun e w' hpost => ?_
    · exact hruns
    · obtain ⟨⟨⟨r, rfl⟩, h⟩ | ⟨hsteps, h⟩, he⟩ := hpost
      · have h : w'.command = w.command := h
        simp only [CommandPost, Goto.post_ret, Settled, h]
        rcases hnormal hn.1 with ⟨hr, -⟩ | ⟨hr, -, hnot⟩
        · exact .inl (.inl ⟨hr, hfree⟩)
        · exact .inr ⟨hr ▸ Nat.one_pos, hfree, fun _ => ⟨hr, hnot⟩⟩
      · have h : w'.command = w.command.replay := h
        rw [hready] at hsteps
        refine Settled.post (settled_replay hn.1 hfree h ?_) ((commitBlock_toStock _ _).result he)
        rcases hnormal hn.1 with ⟨hr, hready'⟩ | ⟨hr, -⟩
        · exact .inl ⟨hr, hready'.1 hready⟩
        · exact .inr ⟨hr, w, hback hn.1 hr, hsteps⟩
  · exact hscrub _ rfl rfl fun _ => hnot
  · exact hscrub _ rfl rfl fun hm => absurd ⟨hm, hcmp⟩ hn

theorem bootstrap_command (l : Label) (w : World) (h : CommandAt stock pGpu bootMode s g l w) :
    (kgspBootstrap stock pGpu bootMode l).wp Step (Op.UsesCommand (RunsTwice stock bootMode)) w
      (Goto.Post (CommandAt stock pGpu bootMode s g) fun _ w =>
        Settled stock pGpu bootMode s g w ∨ Leaked pGpu bootMode s w.command) := by
  cases l with
  | entry =>
      refine (entryPart_command hcmp h).with_exec.mono fun e w' ⟨hpost, he⟩ => ?_
      obtain ⟨rfl, hc⟩ := h
      cases e with
      | ret r => exact hpost
      | goto l =>
          rcases entryPart_jumps he with ⟨rejoin, rfl⟩ | rfl
          · exact hpost
          · have hjump : AtCommitBlock stock pGpu bootMode s g 0 w' := .tail .refl he
            refine ⟨hpost, fun _ _ => hjump, fun _ hr => ?_⟩
            rw [entryPart_idle he, hc] at hr
            cases hr
  | cmp50V274Commit =>
      refine (commitPart_command hcmp h.1 h.2.back).with_exec.mono fun e w' ⟨hpost, he⟩ => ?_
      cases e with
      | ret r => exact hpost
      | goto l =>
          rcases commitPart_jumps he with ⟨rejoin, rfl⟩ | ⟨rfl, -, hready⟩
          · exact hpost
          · refine ⟨hpost, fun _ hnot => absurd hready hnot, fun hm _ => ?_⟩
            have hfirst : ¬ FwsecReady pGpu w := fun hw => by
              obtain ⟨_, hl⟩ := commitPart_ready ⟨hm, hcmp⟩ hw he
              cases hl
            exact (h.2.first hm hfirst).tail he
  | cmp50V525StockBooter rejoin =>
      refine (command_frame (stockBooterPart_routine rejoin)).with_exec.mono fun e w' ⟨⟨_, hw'⟩, he⟩ => ?_
      have h : Settled stock pGpu bootMode s g w' := h.later hw' (recorded.exec he)
      cases e with
      | ret r => exact .inl h
      | goto l => exact (no_jump_back he).elim

end

/-! ## One call -/

section
variable {s : Slots} {g : KernelGsp}

theorem commandAt_start (hg : g.pPreparedFwsecCmd = true) :
    CommandAt stock pGpu bootMode s g .entry (startWorld s g) := by
  refine ⟨rfl, ?_⟩
  simp [World.command, startWorld, hg, Board.fwsecRuns, fwsecFrees, frtsAbsent]

theorem fwsecFrees_suffix {log log' : List Event} (h : log <:+ log') : fwsecFrees log ≤ fwsecFrees log' := by
  obtain ⟨since, rfl⟩ := h
  induction since with
  | nil => exact Nat.le_refl _
  | cons e since ih =>
      refine Nat.le_trans ih ?_
      obtain ⟨o, a⟩ := e
      cases o with
      | act c => cases c <;> simp [fwsecFrees]
      | _ => exact Nat.le_refl _

variable (hcmp : isCmp50ComputeUnlock pGpu)
include hcmp

theorem Issued.usesCommand (hg : g.pPreparedFwsecCmd = true) {o : Op} (hi : Issued stock pGpu bootMode s g o w) :
    o.UsesCommand (RunsTwice stock bootMode) w :=
  Goto.issues_of_wp (bootstrap_command hcmp) (commandAt_start hg) hi

theorem Returns.command (hg : g.pPreparedFwsecCmd = true) {r : NvStatus} (hr : Returns stock pGpu bootMode s g r w) :
    Settled stock pGpu bootMode s g w ∨ Leaked pGpu bootMode s w.command :=
  Goto.call_of_wp (bootstrap_command hcmp) (commandAt_start hg) hr

/-- A call whose steps up to the replay succeed frees the command. -/
theorem Returns.frees {r : NvStatus} (hm : bootMode = .normal) (hr : Returns stock pGpu bootMode s g r w)
    (h : ReplayUnhindered stock pGpu bootMode s g w.log) : 0 < w.command.frees := by
  obtain ⟨w₁, hjumps, hsteps⟩ := h
  obtain ⟨w₂, hup, hl₂⟩ := stepsSucceed_iff.1 hsteps
  have hl₁ : w₁.log <:+ w.log := ((List.suffix_cons _ _).trans (recorded.exec hup)).trans hl₂
  -- The call goes through the commit block that the steps belong to.
  obtain ⟨l, w₃, hreach, hend⟩ := Goto.call_through recorded hr hjumps.reaches hl₁
  have hblock : ∃ e w', (commitPart stock pGpu bootMode).Exec Step w₁ e w' ∧ w'.log <:+ w.log := by
    rcases hreach.cases_head with ⟨rfl, rfl⟩ | ⟨l', w', he, hreach'⟩
    · exact ⟨_, w, hend, List.suffix_refl _⟩
    · exact ⟨_, w', he, (Goto.reaches_later recorded hreach').trans (recorded.exec hend)⟩
  obtain ⟨e, w', he, hl'⟩ := hblock
  have hready : FwsecReady pGpu w₁ := by
    rcases jumped (fun _ => hm) hjumps with h | ⟨-, -, h⟩
    · cases h
    · exact h
  have hphases := commitPart_block ⟨hm, hcmp⟩ hready he
  rw [commitBlock_phases, Prog.exec_bind] at hphases
  obtain ⟨r₁, w₄, hup', hrest⟩ := hphases
  obtain ⟨rfl, rfl⟩ := recorded.exec_unique hup hup' hl₂ ((recorded.exec hrest).trans hl')
  obtain ⟨status, _, ⟨-, rfl⟩, _, _, ⟨-, rfl⟩, hrest⟩ := hrest
  exact Nat.lt_of_lt_of_le (Nat.succ_pos _) (fwsecFrees_suffix ((recorded.exec hrest).trans hl'))

end

end

end Cmp50Unlock.Stockflow
