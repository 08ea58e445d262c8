import Cmp50Unlock.Stockflow.History

/-!
# Boards that can be run

A deterministic board answers every operation, so that an attempt on it can be computed. It is used to show
that a history of some kind exists.
-/

namespace Cmp50Unlock.Stockflow

open Lib

/-- A board: WPR2 as an attempt finds it and as FWSEC sets it up, the status of each FWSEC run of the attempt,
the status with which the Falcon starts, and what the log lines read if it is not what the code read. -/
structure Board where
  wprStart : BitVec 32 × BitVec 32
  wprStock : BitVec 32 × BitVec 32
  fwsec : Nat → NvStatus
  falcon : NvStatus
  logged : Option (BitVec 32)

namespace Board

variable (b : Board)

/-- How often FWSEC was run. -/
def fwsecRuns : List Event → Nat
  | [] => 0
  | ⟨.hal .kgspExecuteFwsec, _⟩ :: log => fwsecRuns log + 1
  | _ :: log => fwsecRuns log

/-- How often a microcode was launched. -/
def launches : List Event → Nat
  | [] => 0
  | ⟨.launch .., _⟩ :: log => launches log + 1
  | _ :: log => launches log

/-- WPR2 as the last microcode run left it: the first launch takes it down. -/
def wpr2 : List Event → BitVec 32 × BitVec 32
  | [] => b.wprStart
  | ⟨.hal .kgspExecuteFwsec, _⟩ :: _ => b.wprStock
  | ⟨.launch .., _⟩ :: log => if launches log = 0 then (wpr2AddrLoDown, 0) else b.wprStock
  | _ :: log => wpr2 log

/-- A register after the operations of the log. -/
def reg (log : List Event) : Reg → BitVec 32
  | .wpr2AddrLo => (b.wpr2 log).1
  | .wpr2AddrHi => (b.wpr2 log).2
  | .fecsFeaturePlm => fecsFeaturePlmPostlock
  | .fecsSmSpeedOverride0 => fecsSmSpeedFull0
  | .fecsSmSpeedOverride1 => fecsSmSpeedFull1
  | .sec2ResetPlm => sec2ResetPlmOpen
  | _ => 0

/-- The answer of the board after the operations of the log. -/
def reply (log : List Event) : (o : Op) → o.Ans
  | .rd r => b.reg log r
  | .logRd _ => fun r => b.logged.getD (b.reg log r)
  | .hal .kgspExecuteFwsec => b.fwsec (fwsecRuns log)
  | .hal .hsFalconPrologue => b.falcon
  | .hal _ => .ok
  | .test _ => true
  | .act _ => ()
  | .getFlag _ _ => false
  | .getWpr _ _ => 0
  | .getGsp => ⟨none, none, 0, none, none, false, none⟩
  | .tagAlloc _ => (.ok, ⟨0x100000, fun _ => 0⟩)
  | .launch _ _ => ⟨0, 0, 0, 0⟩

/-- The answer in a world: memory returns what is there. -/
def answer (w : World) : (o : Op) → o.Ans
  | .getFlag f i => w.slots.flag f i
  | .getWpr x i => w.slots.wpr x i
  | .getGsp => w.gsp
  | o => b.reply w.log o

def run (o : Op) (w : World) : o.Ans × World := (b.answer w o, w.after o (b.answer w o))

theorem run_step (o : Op) (w : World) : Step o w (b.run o w).1 (b.run o w).2 := by
  cases o <;> exact ⟨by first | rfl | trivial, rfl⟩

/-- A call of the function on the board. -/
def boot (stock : StockCode) (pGpu : ObjGpu) (bootMode : BootMode) (s : Slots) (g : KernelGsp) :
    Option (NvStatus × World) :=
  Goto.interp b.run (kgspBootstrap stock pGpu bootMode) 4 .entry (startWorld s g)

theorem boot_call {stock : StockCode} {pGpu : ObjGpu} {bootMode : BootMode} {s : Slots} {g : KernelGsp}
    {r : NvStatus} {w : World} (h : b.boot stock pGpu bootMode s g = some (r, w)) :
    Returns stock pGpu bootMode s g r w :=
  Goto.call_interp id b.run_step h

/-- Where a call of the function is after `n` jumps on the board. -/
def bootJump (n : Nat) (stock : StockCode) (pGpu : ObjGpu) (bootMode : BootMode) (s : Slots) (g : KernelGsp) :
    Option (Label × World) :=
  Goto.jump b.run (kgspBootstrap stock pGpu bootMode) n .entry (startWorld s g)

theorem bootJump_comesTo {n : Nat} {stock : StockCode} {pGpu : ObjGpu} {bootMode : BootMode} {s : Slots}
    {g : KernelGsp} {l : Label} {w : World} (h : b.bootJump n stock pGpu bootMode s g = some (l, w)) :
    ComesTo stock pGpu bootMode s g l w :=
  Goto.reaches_jump id b.run_step h

end Board

end Cmp50Unlock.Stockflow
