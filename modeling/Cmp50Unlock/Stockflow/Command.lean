import Cmp50Unlock.Stockflow.Board

/-!
# The prepared FWSEC command

RM prepares one FWSEC command for a boot attempt. Stock code runs it once and frees it; the patch keeps it on a
CMP50 for one replay, which an attempt comes to only through the gates of the commit block.
-/

namespace Cmp50Unlock.Stockflow

open Lib

/-- How often the command was freed. -/
def fwsecFrees : List Event → Nat
  | [] => 0
  | ⟨.act .portMemFreeFwsecCmd, _⟩ :: log => fwsecFrees log + 1
  | _ :: log => fwsecFrees log

/-- The board has no FRTS region: the FWSEC block was passed without a run. -/
def frtsAbsent : List Event → Bool
  | [] => false
  | ⟨.test .frtsRegion, b⟩ :: log => !b || frtsAbsent log
  | _ :: log => frtsAbsent log

/-- What became of the command in a call. -/
structure CommandUse where
  prepared : Bool
  runs : Nat
  frees : Nat
  noFrts : Bool

def World.command (w : World) : CommandUse :=
  ⟨w.gsp.pPreparedFwsecCmd, Board.fwsecRuns w.log, fwsecFrees w.log, frtsAbsent w.log⟩

/-- The command is run and freed only while there is one that was not freed yet. -/
def World.OwnsCommand (w : World) : Op → Prop
  | .hal .kgspExecuteFwsec | .act .portMemFreeFwsecCmd => w.command.prepared = true ∧ w.command.frees = 0
  | _ => True

/-- The command was run at most twice and freed at most once, and if it was run, it was freed and its pointer
cleared. -/
structure CommandUse.Released (c : CommandUse) : Prop where
  runs : c.runs ≤ 2
  frees : c.frees ≤ 1
  freed : 0 < c.runs → c.frees = 1 ∧ c.prepared = false

namespace CommandUse

variable (c : CommandUse)

/-- One more run. -/
def run : CommandUse := { c with runs := c.runs + 1 }

/-- A run, after which the command is freed. -/
def replay : CommandUse := { c with prepared := false, runs := c.runs + 1, frees := c.frees + 1 }

end CommandUse

/-! ## From the first run to the replay

The commit block that a call comes back to after the first run, cut where the command is run again. Each phase returns
`none` if all of its steps succeed. -/

/-- The range of WPR2 is read, and learned if it is one. -/
def learnRange (idx : Nat) : Driver (Option NvStatus) := do
  let wpr2Lo ← rd .wpr2AddrLo
  let wpr2Hi ← rd .wpr2AddrHi
  printRegs .postFwsecPreGspEntry [.fecsFeaturePlm, .sec2ResetPlm]
  if ¬(wpr2Hi = 0 ∨ (wpr2Lo ≠ 0 ∧ wpr2Lo < wpr2Hi)) then
    print .unexpectedPostFwsecWpr
    return some .errInvalidState
  captureStockRange idx wpr2Lo wpr2Hi

/-- The slot is committed, and the Falcon reset for the replay. -/
def resetForReplay (idx : Nat) : Driver (Option NvStatus) := do
  act (.setFlag .phaseCommitted idx true)
  printRegs .phaseBoundaryPass [.sec2ResetPlm]
  print .bdfState
  if !(← getGsp).pPreparedFwsecCmd then
    return some .errInvalidState
  let status ← hal .kflcnReset
  if status ≠ .ok then
    return some status
  return none

/-- The command is run again and freed. -/
def replayFwsec (idx : Nat) : Driver (Option NvStatus) := do
  let status ← hal .kgspExecuteFwsec
  act .portMemFreeFwsecCmd
  if status ≠ .ok then
    print .refwsecFail
    return some status
  let g ← readGate
  if ← orElse (wprNeStock idx g.wprLo g.wprHi) (pure (!g.fullSpeed)) then
    print .refwsecStateMismatch
    return some .errInvalidState
  print .refwsecStockWprPass
  return none

/-- Go on with `q` after a phase that succeeded. -/
def ifPassed {α : Type} (failed : NvStatus → Driver α) (q : Driver α) : Option NvStatus → Driver α
  | some status => failed status
  | none => q

/-- One phase, and the next one if it succeeds. -/
def andThen (p q : Driver (Option NvStatus)) : Driver (Option NvStatus) :=
  p >>= ifPassed (fun status => pure (some status)) q

/-- The phases before the replay: the exploit-mode run of Booter and the register gate after it are the second, the
rebuild of the signature, the sanitize step, the second gate and the check of the SEC2 reset PLM the third. -/
def upToReplay (pGpu : ObjGpu) (idx : Nat) : Driver (Option NvStatus) :=
  andThen (learnRange idx) (andThen (exploitBooter pGpu) (andThen restoreStock (resetForReplay idx)))

/-- Every step of the phases before the replay succeeds, for the commit block that is entered in `w` by the call with
the log `log`. -/
def StepsSucceed (pGpu : ObjGpu) (w : World) (log : List Event) : Prop :=
  ∃ w₁ w₂ w₃ w₄,
    (learnRange (cmp50StockflowGpuIndex pGpu)).Exec Step w none w₁ ∧ (exploitBooter pGpu).Exec Step w₁ none w₂ ∧
    restoreStock.Exec Step w₂ none w₃ ∧ (resetForReplay (cmp50StockflowGpuIndex pGpu)).Exec Step w₃ none w₄ ∧
    w₄.log <:+ log

/-- The call comes to the commit block in `w`, after `n` jumps back. -/
abbrev AtCommitBlock (stock : StockCode) (pGpu : ObjGpu) (bootMode : BootMode) (s : Slots) (g : KernelGsp) (n : Nat)
    (w : World) : Prop :=
  Goto.Jumps Step (kgspBootstrap stock pGpu bootMode) isBackward .entry (startWorld s g) n .cmp50V274Commit w

/-- The call with the log `log` comes back to the commit block, and every step there up to the replay succeeds. -/
def ReplayUnhindered (stock : StockCode) (pGpu : ObjGpu) (bootMode : BootMode) (s : Slots) (g : KernelGsp)
    (log : List Event) : Prop :=
  ∃ w, AtCommitBlock stock pGpu bootMode s g 1 w ∧
    StepsSucceed pGpu (w.after (.getFlag .fwsecReady (cmp50StockflowGpuIndex pGpu)) true) log

end Cmp50Unlock.Stockflow
