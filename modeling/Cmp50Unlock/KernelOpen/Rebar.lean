import Cmp50Unlock.KernelOpen.Basic
import Cmp50Unlock.Lib.Loop
import Cmp50Unlock.Lib.Masked
import Mathlib.Algebra.Group.Nat.Defs

/-!
# Unlocking the size of BAR1

`nv_cmp50_unlock_bar1_resize` enables the selected size in the XVE registers. Where Linux keeps BAR1 at that size but
the card has forgotten it, the size is also written to the ReBAR control entry. The values that a log line prints are
left out.
-/

namespace Cmp50Unlock.KernelOpen

open Lib

/-! ## Registers -/

/-- The registers at `NV_CMP50_REBAR_CYA_OFFSET`, `NV_CMP50_REBAR_CFG_OFFSET` and `NV_CMP50_REBAR_CAP_OFFSET`. -/
inductive XveReg where
  | cya
  | cfg
  | cap
  deriving DecidableEq

/-- `NV_CMP50_REBAR_XVE_BASE_OFFSET` -/
def xveBaseOffset : Nat := 0x88000

/-- `NV_CMP50_REBAR_CYA_UNLOCK` -/
def cyaUnlock : BitVec 32 := 0x00000030

/-- `NV_CMP50_REBAR_CFG_ENABLE` -/
def cfgEnable : BitVec 32 := 0x80000000

/-- `NV_CMP50_REBAR_CFG_SIZE_MASK` -/
def cfgSizeMask : BitVec 32 := 0x0000000F

/-- `PCI_COMMAND_MEMORY` -/
def pciCommandMemory : BitVec 16 := 0x0002

/-- `PCI_REBAR_CTRL` -/
def pciRebarCtrl : Nat := 8

/-- `PCI_REBAR_CTRL_BAR_IDX` -/
def rebarCtrlBarIdx : BitVec 32 := 0x00000007

/-- `PCI_REBAR_CTRL_NBAR_MASK` -/
def rebarCtrlNbarMask : BitVec 32 := 0x000000E0

/-- `PCI_REBAR_CTRL_BAR_SIZE`; newer kernel headers give it six bits, older ones five. -/
def rebarCtrlBarSize (wide : Bool) : BitVec 32 := if wide then 0x00003F00 else 0x00001F00

/-- `NV_GPU_BAR1` -/
def nvGpuBar1 : BitVec 32 := 1

/-- The size that a control entry encodes. -/
def barSize (wide : Bool) (rebarCtrl : BitVec 32) : BitVec 32 := (rebarCtrl &&& rebarCtrlBarSize wide) >>> 8

/-- A control entry with another size. -/
def withBarSize (wide : Bool) (rebarCtrl size : BitVec 32) : BitVec 32 :=
  (rebarCtrl &&& ~~~rebarCtrlBarSize wide) ||| (size <<< 8)

/-- The offset of a control entry. -/
def ctrlOffset (rebarPos entry : Nat) : Nat := rebarPos + pciRebarCtrl + entry * 8

/-- The new configuration of the XVE. -/
def newCfg (selector cfg : BitVec 32) : BitVec 32 := (cfg &&& ~~~cfgSizeMask) ||| cfgEnable ||| selector

/-- The bits of the configuration that are read back. -/
def cfgField : BitVec 32 := cfgEnable ||| cfgSizeMask

def einval : Int := 22

def enodev : Int := 19

def enomem : Int := 12

def eio : Int := 5

/-! ## Operations -/

/-- The log lines. -/
inductive RebarMsg where
  | badSelector
  | bar0NotUsable
  | xveMapFailed
  | xveReadbackFailed
  | sizeMaskHasNoSelector
  | capabilityDisappeared
  | entryNotFound
  | rearmFailed
  | rearmed
  | selected
  deriving DecidableEq

inductive RebarOp where
  | ioremap
  | iounmap
  | readl (r : XveReg)
  | writel (v : BitVec 32) (r : XveReg)
  | getPossibleSizes
  | findExtCapability
  | readConfigDword (offset : Nat)
  | writeConfigDword (offset : Nat) (v : BitVec 32)
  | readCommand
  | writeCommand (v : BitVec 16)
  | enableResizableBar
  | print (m : RebarMsg)
  deriving DecidableEq

@[reducible] def RebarOp.Ans : RebarOp → Type
  | .ioremap => Bool
  | .readl _ | .readConfigDword _ => BitVec 32
  | .getPossibleSizes => BitVec 64
  | .findExtCapability => Nat
  | .readCommand => BitVec 16
  | _ => Unit

abbrev Rebar := Prog RebarOp RebarOp.Ans

namespace Rebar

def ioremap : Rebar Bool := Prog.lift RebarOp.ioremap

def iounmap : Rebar Unit := Prog.lift RebarOp.iounmap

def readl (r : XveReg) : Rebar (BitVec 32) := Prog.lift (RebarOp.readl r)

def writel (v : BitVec 32) (r : XveReg) : Rebar Unit := Prog.lift (RebarOp.writel v r)

/-- `pci_rebar_get_possible_sizes` -/
def getPossibleSizes : Rebar (BitVec 64) := Prog.lift RebarOp.getPossibleSizes

/-- `pci_find_ext_capability`; 0 if there is none. -/
def findExtCapability : Rebar Nat := Prog.lift RebarOp.findExtCapability

/-- `pci_read_config_dword` -/
def readConfigDword (offset : Nat) : Rebar (BitVec 32) := Prog.lift (RebarOp.readConfigDword offset)

/-- `pci_write_config_dword` -/
def writeConfigDword (offset : Nat) (v : BitVec 32) : Rebar Unit := Prog.lift (RebarOp.writeConfigDword offset v)

/-- `pci_read_config_word` of `PCI_COMMAND` -/
def readCommand : Rebar (BitVec 16) := Prog.lift RebarOp.readCommand

/-- `pci_write_config_word` of `PCI_COMMAND` -/
def writeCommand (v : BitVec 16) : Rebar Unit := Prog.lift (RebarOp.writeCommand v)

/-- `NVreg_EnableResizableBar = 1` -/
def enableResizableBar : Rebar Unit := Prog.lift RebarOp.enableResizableBar

def printMsg (m : RebarMsg) : Rebar Unit := Prog.lift (RebarOp.print m)

end Rebar

/-! ## The function -/

/-- What Linux knows of the card, and the header the module is built with. -/
structure RebarDev where
  pci : PciDev
  /-- `IORESOURCE_MEM` in the flags of BAR0 -/
  bar0Mem : Bool
  bar0Len : Nat
  bar1Len : Nat
  wide : Bool

open Rebar

/-- The undo sequence, written out at each of the five exits after the XVE is programmed. -/
def undoXve (cfg cya : BitVec 32) : Rebar Unit := do
  writel cfg .cfg
  writel cya .cya
  let _ ← readl .cya
  iounmap

/-- The first entry for BAR1, with its number. -/
def findBar1 (rebarPos nbar : Nat) : Rebar (Option (Nat × BitVec 32)) :=
  Prog.each (fun entry => do
    let rebarCtrl ← readConfigDword (ctrlOffset rebarPos entry)
    return if rebarCtrl &&& rebarCtrlBarIdx = nvGpuBar1 then some (entry, rebarCtrl) else none) (List.range nbar)

/-- The size is written to the control entry while memory decoding is off; `false` if it does not read back. -/
def rearm (wide : Bool) (offset : Nat) (rebarCtrl requestedSize : BitVec 32) : Rebar Bool := do
  let command ← readCommand
  writeCommand (command &&& ~~~pciCommandMemory)
  let rebarCtrl := withBarSize wide rebarCtrl requestedSize
  writeConfigDword offset rebarCtrl
  let rebarCtrlAfter ← readConfigDword offset
  writeCommand command
  return rebarCtrlAfter &&& rebarCtrlBarSize wide == rebarCtrl &&& rebarCtrlBarSize wide

/-- The end of a call that succeeds. -/
def finishResize : Rebar Int := do
  enableResizableBar
  printMsg .selected
  iounmap
  return 0

/-- What follows once the entry for BAR1 is found. -/
def resizeEntry (dev : RebarDev) (offset : Nat) (rebarCtrl requestedSize cfg cya : BitVec 32) : Rebar Int := do
  if dev.bar1Len = 2 ^ (requestedSize + 20).toNat ∧ barSize dev.wide rebarCtrl ≠ requestedSize then
    if !(← rearm dev.wide offset rebarCtrl requestedSize) then
      printMsg .rearmFailed
      undoXve cfg cya
      return -eio
    else
      printMsg .rearmed
      finishResize
  else
    finishResize

/-- What follows once the XVE has taken the configuration. -/
def resizeBar1 (dev : RebarDev) (selector cfg cya : BitVec 32) : Rebar Int := do
  let sizes ← getPossibleSizes
  if sizes &&& (1#64 <<< (selector + 6)) = 0 then
    printMsg .sizeMaskHasNoSelector
    undoXve cfg cya
    return -eio
  else
    let rebarPos ← findExtCapability
    if rebarPos = 0 then
      printMsg .capabilityDisappeared
      undoXve cfg cya
      return -eio
    else
      let rebarCtrl ← readConfigDword (rebarPos + pciRebarCtrl)
      let nbar := (rebarCtrl &&& rebarCtrlNbarMask) >>> 5
      match ← findBar1 rebarPos nbar.toNat with
      | none =>
        printMsg .entryNotFound
        undoXve cfg cya
        return -eio
      | some (entry, rebarCtrl) =>
        resizeEntry dev (ctrlOffset rebarPos entry) rebarCtrl (selector + 6) cfg cya

/-- What follows once the XVE is mapped. -/
def programXve (dev : RebarDev) (selector : BitVec 32) : Rebar Int := do
  let cya ← readl .cya
  let cfg ← readl .cfg
  let _ ← readl .cap
  writel cyaUnlock .cya
  let _ ← readl .cya
  writel (newCfg selector cfg) .cfg
  let readCfg ← readl .cfg
  let _ ← readl .cap
  if readCfg &&& cfgField ≠ newCfg selector cfg &&& cfgField then
    printMsg .xveReadbackFailed
    undoXve cfg cya
    return -eio
  else
    resizeBar1 dev selector cfg cya

/-- `nv_cmp50_unlock_bar1_resize`, built with `NV_PCI_REBAR_GET_POSSIBLE_SIZES_PRESENT`; `selector` is the module
parameter `cmp50_rebar_size`. -/
def unlockBar1Resize (dev : RebarDev) (selector : BitVec 32) : Rebar Int := do
  if !cmp50hxIsSupported dev.pci || selector == 0 then
    return 0
  else if selector > 8 then
    printMsg .badSelector
    return -einval
  else if !dev.bar0Mem || dev.bar0Len < xveBaseOffset + 0x1000 then
    printMsg .bar0NotUsable
    return -enodev
  else if !(← ioremap) then
    printMsg .xveMapFailed
    return -enomem
  else
    programXve dev selector

end Cmp50Unlock.KernelOpen
