import Cmp50Unlock.KernelOpen.Retrain

/-!
# The link

The state of a retrain: the registers of both ends and the log of the operations so far with their answers, the newest
first. Which accesses fail, and what the link status is, is open.
-/

namespace Cmp50Unlock.KernelOpen

open Lib

/-- An operation with its answer. -/
abbrev RetrainEvent := (o : RetrainOp) × o.Ans

structure LinkWorld where
  regs : Bank (LinkEnd × LinkReg) 16
  log : List RetrainEvent

/-- What a read of a register shows: the Retrain Link bit always reads as zero. -/
def shown (v : BitVec 16) : LinkReg → BitVec 16
  | .lnkctl => v &&& ~~~lnkctlRl
  | _ => v

/-- The register as it can be read. -/
def LinkWorld.reads (w : LinkWorld) (e : LinkEnd) (r : LinkReg) : BitVec 16 := shown (w.regs (e, r)) r

/-- A successful read of a control register returns what it holds; every other answer is possible. -/
def LinkWorld.Admits (w : LinkWorld) : (o : RetrainOp) → o.Ans → Prop
  | .capRead _ .lnksta, _ => True
  | .capRead e r, (ret, v) => ret = 0 → v = w.reads e r
  | _, _ => True

/-- The registers after an operation; a write that fails has no effect, another one changes the bits of `mask`. -/
def linkAfter (mask regs : Bank (LinkEnd × LinkReg) 16) : (o : RetrainOp) → o.Ans → Bank (LinkEnd × LinkReg) 16
  | .capWrite e r v, ret => if ret = 0 then regs.write mask (e, r) v else regs
  | _, _ => regs

def LinkWorld.after (mask : Bank (LinkEnd × LinkReg) 16) (w : LinkWorld) (o : RetrainOp) (a : o.Ans) : LinkWorld :=
  ⟨linkAfter mask w.regs o a, ⟨o, a⟩ :: w.log⟩

/-- One operation. -/
def LinkStep (mask : Bank (LinkEnd × LinkReg) 16) (o : RetrainOp) (w : LinkWorld) (a : o.Ans) (w' : LinkWorld) : Prop :=
  w.Admits o a ∧ w' = w.after mask o a

/-! ## Reading the log -/

/-- A request of the end `e` to retrain. -/
def asksRetrain (e : LinkEnd) : (o : RetrainOp) → o.Ans → Nat
  | .capWrite e' .lnkctl v, _ => if e' = e ∧ v &&& lnkctlRl ≠ 0 then 1 else 0
  | _, _ => 0

/-- A poll of the link status of the end `e`. -/
def pollsStatus (e : LinkEnd) : (o : RetrainOp) → o.Ans → Nat
  | .capRead e' .lnksta, _ => if e' = e then 1 else 0
  | _, _ => 0

/-- BAR0 is mapped. -/
def mapsBar : (o : RetrainOp) → o.Ans → Nat
  | .ioremap, mapped => if mapped then 1 else 0
  | _, _ => 0

/-- BAR0 is unmapped. -/
def unmapsBar : (o : RetrainOp) → o.Ans → Nat
  | .iounmap, _ => 1
  | _, _ => 0

/-- How often the operations of the log count. -/
def tally (c : (o : RetrainOp) → o.Ans → Nat) : List RetrainEvent → Nat
  | [] => 0
  | ⟨o, a⟩ :: log => tally c log + c o a

/-- The last value written to a register, and whether the write succeeded. -/
def lastWrite (e : LinkEnd) (r : LinkReg) : List RetrainEvent → Option (BitVec 16 × Bool)
  | [] => none
  | ⟨.capWrite e' r' v, ret⟩ :: log => if e' = e ∧ r' = r then some (v, ret == 0) else lastWrite e r log
  | _ :: log => lastWrite e r log

/-- The last value that was written successfully. -/
def lastWritten (e : LinkEnd) (r : LinkReg) : List RetrainEvent → Option (BitVec 16)
  | [] => none
  | ⟨.capWrite e' r' v, ret⟩ :: log => if (e' = e ∧ r' = r) ∧ ret = 0 then some v else lastWritten e r log
  | _ :: log => lastWritten e r log

/-- The last answer to a poll of the GPU. -/
def lastStatus : List RetrainEvent → Option (Int × BitVec 16)
  | [] => none
  | ⟨.capRead .gpu .lnksta, answer⟩ :: _ => some answer
  | _ :: log => lastStatus log

/-- `RETRAIN_PASS` was logged. -/
def HasPassed (log : List RetrainEvent) : Prop := ⟨.print .retrainPass, ()⟩ ∈ log

/-- The gate was read and accepted. -/
def GateRead (log : List RetrainEvent) : Prop :=
  ∃ cya0 config rate, gen2PolicyPresent cya0 config rate ∧ ⟨.readl cya0Offset, cya0⟩ ∈ log ∧
    ⟨.readl linkConfigOffset, config⟩ ∈ log ∧ ⟨.readl plLinkRateOffset, rate⟩ ∈ log

/-- No write of a capability is in the log. -/
def NoWrite (log : List RetrainEvent) : Prop := ∀ e r v ret, ⟨.capWrite e r v, ret⟩ ∉ log

/-- The gate was accepted and both control registers of both ends were read; before the first write, no read had
failed. -/
structure Entered (log : List RetrainEvent) : Prop where
  gate : GateRead log
  read : ∀ e, ∀ r ≠ .lnksta, ∃ v, ⟨.capRead e r, (0, v)⟩ ∈ log
  none_failed : NoWrite log → ∀ e r ret v, ⟨.capRead e r, (ret, v)⟩ ∈ log → ret = 0

/-- Config registers are written only after that, and a pass is logged only after a poll of the GPU that succeeded and
showed 5 GT/s at least. -/
def RetrainOp.Allowed (w : LinkWorld) : RetrainOp → Prop
  | .capWrite .. => Entered w.log
  | .print .retrainPass => ∃ status, lastStatus w.log = some (0, status) ∧ lnkstaCls50gb ≤ status &&& lnkstaCls
  | _ => True

/-- LNKCTL2 differs from that of `entry` at most in the target speed. -/
def OnlySpeedDiffers (entry w : LinkWorld) : Prop :=
  ∀ e, w.regs (e, .lnkctl2) &&& ~~~lnkctl2Tls = entry.regs (e, .lnkctl2) &&& ~~~lnkctl2Tls

/-- What a retrain from `entry` leaves. -/
structure LinkKept (entry w : LinkWorld) : Prop where
  requests : ∀ e, tally (asksRetrain e) w.log ≤ 2
  polls : ∀ e, tally (pollsStatus e) w.log ≤ 400
  mapped : tally mapsBar w.log ≤ 1
  unmapped : tally unmapsBar w.log = tally mapsBar w.log
  control : ∀ e, (∀ v ok, lastWrite e .lnkctl w.log = some (v, ok) → ok = true) →
    w.reads e .lnkctl = entry.reads e .lnkctl
  restores : ∀ e v ok, lastWrite e .lnkctl w.log = some (v, ok) → v = entry.reads e .lnkctl
  speed : OnlySpeedDiffers entry w

/-- A write of LNKCTL2 of the end succeeded. -/
def TargetWritten (e : LinkEnd) (log : List RetrainEvent) : Prop := ∃ v, ⟨.capWrite e .lnkctl2 v, (0 : Int)⟩ ∈ log

/-- The bits of the target speed that can be written are those of 5 GT/s. -/
def AtTarget (mask regs : Bank (LinkEnd × LinkReg) 16) (e : LinkEnd) : Prop :=
  regs (e, .lnkctl2) &&& lnkctl2Tls &&& mask (e, .lnkctl2) = lnkctl2Tls50gt &&& mask (e, .lnkctl2)

end Cmp50Unlock.KernelOpen
