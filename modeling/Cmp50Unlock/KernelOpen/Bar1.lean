import Cmp50Unlock.KernelOpen.Rebar

/-!
# The registers behind BAR1

The state of a resize: the XVE registers, the command register and the other words of the config space. A write changes
the bits of a register that the card accepts; which bits these are is open, as are the possible sizes, the place of
the capability and whether the mapping succeeds.
-/

namespace Cmp50Unlock.KernelOpen

open Lib

/-- The card and the kernel: the bits that each register accepts, and the answers to the other calls. The bits of CFG
may depend on what CYA holds. -/
structure RebarHost where
  cyaMask : BitVec 32
  cfgMask : BitVec 32 → BitVec 32
  commandMask : BitVec 16
  configMask : Bank Nat 32
  ioremapOk : Bool
  possibleSizes : BitVec 64
  rebarPos : Nat

structure RebarWorld where
  xve : Bank XveReg 32
  command : BitVec 16
  config : Bank Nat 32
  /-- `NVreg_EnableResizableBar` -/
  enable : BitVec 32
  log : List RebarOp

def RebarHost.xveMask (h : RebarHost) (xve : Bank XveReg 32) : Bank XveReg 32
  | .cya => h.cyaMask
  | .cfg => h.cfgMask (xve .cya)
  | .cap => 0

def RebarWorld.answer (h : RebarHost) (w : RebarWorld) : (o : RebarOp) → o.Ans
  | .ioremap => h.ioremapOk
  | .iounmap => ()
  | .readl r => w.xve r
  | .writel _ _ => ()
  | .getPossibleSizes => h.possibleSizes
  | .findExtCapability => h.rebarPos
  | .readConfigDword offset => w.config offset
  | .writeConfigDword _ _ => ()
  | .readCommand => w.command
  | .writeCommand _ => ()
  | .enableResizableBar => ()
  | .print _ => ()

/-- The state after an operation. -/
def RebarWorld.after (h : RebarHost) (w : RebarWorld) (o : RebarOp) : RebarWorld :=
  let w := { w with log := o :: w.log }
  match o with
  | .writel v r => { w with xve := w.xve.write (h.xveMask w.xve) r v }
  | .writeConfigDword offset v => { w with config := w.config.write h.configMask offset v }
  | .writeCommand v => { w with command := masked h.commandMask w.command v }
  | .enableResizableBar => { w with enable := 1 }
  | _ => w

/-- One operation. -/
def RebarStep (h : RebarHost) (o : RebarOp) (w : RebarWorld) (a : o.Ans) (w' : RebarWorld) : Prop :=
  a = w.answer h o ∧ w' = w.after h o

/-! ## The way to the control entry -/

/-- The XVE registers after CYA is opened and CFG is written. -/
def RebarHost.unlocked (h : RebarHost) (selector : BitVec 32) (xve : Bank XveReg 32) : Bank XveReg 32 :=
  let opened := xve.write (h.xveMask xve) .cya cyaUnlock
  opened.write (h.xveMask opened) .cfg (newCfg selector (xve .cfg))

/-- The number of control entries. -/
def barCount (rebarPos : Nat) (config : Bank Nat 32) : Nat :=
  ((config (rebarPos + pciRebarCtrl) &&& rebarCtrlNbarMask) >>> 5).toNat

/-- The first control entry for BAR1. -/
def bar1Entry (rebarPos : Nat) (config : Bank Nat 32) : Option Nat :=
  (List.range (barCount rebarPos config)).find? fun entry =>
    config (ctrlOffset rebarPos entry) &&& rebarCtrlBarIdx = nvGpuBar1

/-- A call from `w` comes to the control entry at `offset`. -/
structure ReachesEntry (h : RebarHost) (dev : RebarDev) (selector : BitVec 32) (w : RebarWorld) (offset : Nat) :
    Prop where
  supported : cmp50hxIsSupported dev.pci = true
  selected : selector ≠ 0 ∧ selector ≤ 8
  usable : dev.bar0Mem = true ∧ xveBaseOffset + 0x1000 ≤ dev.bar0Len
  mapped : h.ioremapOk = true
  accepted : h.unlocked selector w.xve .cfg &&& cfgField = newCfg selector (w.xve .cfg) &&& cfgField
  possible : h.possibleSizes &&& (1#64 <<< (selector + 6)) ≠ 0
  present : h.rebarPos ≠ 0
  found : ∃ entry, bar1Entry h.rebarPos w.config = some entry ∧ offset = ctrlOffset h.rebarPos entry

/-- Linux keeps BAR1 at the requested size, and the control entry has another one. -/
def NeedsRearm (dev : RebarDev) (selector rebarCtrl : BitVec 32) : Prop :=
  dev.bar1Len = 2 ^ (selector.toNat + 26) ∧ barSize dev.wide rebarCtrl ≠ selector + 6

/-- The control entry after the size is written to it. -/
def RebarHost.rearmed (h : RebarHost) (dev : RebarDev) (selector : BitVec 32) (config : Bank Nat 32) (offset : Nat) :
    BitVec 32 :=
  masked (h.configMask offset) (config offset) (withBarSize dev.wide (config offset) (selector + 6))

/-! ## What a call leaves -/

/-- The XVE and the command register are as they were, the option is not set, and the XVE is unmapped once if it was
mapped. -/
structure XveUndone (h : RebarHost) (w w' : RebarWorld) : Prop where
  xve : w'.xve = w.xve
  command : w'.command = w.command
  enable : w'.enable = w.enable
  mapped : w'.log.count .ioremap ≤ 1
  unmapped : w'.log.count .iounmap = if h.ioremapOk then w'.log.count .ioremap else 0

/-- All registers are as they were. -/
structure Undone (h : RebarHost) (w w' : RebarWorld) : Prop extends XveUndone h w w' where
  config : w'.config = w.config

/-- CFG is enabled with the size, and BAR1 has it where Linux keeps BAR1 at that size; nothing else has changed. -/
structure Resized (h : RebarHost) (dev : RebarDev) (selector : BitVec 32) (w w' : RebarWorld) : Prop where
  selected : selector ≠ 0 ∧ selector ≤ 8
  cfg : w'.xve .cfg &&& cfgField = cfgEnable ||| selector
  cfg_others : w'.xve .cfg &&& ~~~cfgField = w.xve .cfg &&& ~~~cfgField
  possible : h.possibleSizes.getLsbD (selector.toNat + 6) = true
  command : w'.command = w.command
  enable : w'.enable = 1
  entry : ∃ entry, bar1Entry h.rebarPos w.config = some entry ∧
    (dev.bar1Len = 2 ^ (selector.toNat + 26) →
      barSize dev.wide (w'.config (ctrlOffset h.rebarPos entry)) = selector + 6) ∧
    (dev.bar1Len ≠ 2 ^ (selector.toNat + 26) →
      w'.config (ctrlOffset h.rebarPos entry) = w.config (ctrlOffset h.rebarPos entry)) ∧
    w'.config (ctrlOffset h.rebarPos entry) &&& ~~~rebarCtrlBarSize dev.wide =
      w.config (ctrlOffset h.rebarPos entry) &&& ~~~rebarCtrlBarSize dev.wide ∧
    ∀ offset, offset ≠ ctrlOffset h.rebarPos entry → w'.config offset = w.config offset

end Cmp50Unlock.KernelOpen
