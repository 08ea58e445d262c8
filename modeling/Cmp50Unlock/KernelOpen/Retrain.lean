import Cmp50Unlock.KernelOpen.Basic
import Cmp50Unlock.Lib.Loop
import Cmp50Unlock.Lib.Masked

/-!
# Retraining the link

`nv_cmp50hx_retrain_gen2` sets the target speed of both ends of the link and asks both for a retrain. Any access to
a PCI capability may fail. The values that a log line prints are left out.
-/

namespace Cmp50Unlock.KernelOpen

open Lib

/-! ## Registers -/

/-- The ends of the link: the GPU and the bridge above it. -/
inductive LinkEnd where
  | gpu
  | upstream
  deriving DecidableEq

/-- `PCI_EXP_LNKCTL`, `PCI_EXP_LNKCTL2` and `PCI_EXP_LNKSTA` -/
inductive LinkReg where
  | lnkctl
  | lnkctl2
  | lnksta
  deriving DecidableEq

/-- `PCI_EXP_LNKCTL_RL` -/
def lnkctlRl : BitVec 16 := 0x0020

/-- `PCI_EXP_LNKCTL2_TLS` -/
def lnkctl2Tls : BitVec 16 := 0x000F

/-- `PCI_EXP_LNKCTL2_TLS_5_0GT` -/
def lnkctl2Tls50gt : BitVec 16 := 0x0002

/-- `PCI_EXP_LNKSTA_CLS` -/
def lnkstaCls : BitVec 16 := 0x000F

/-- `PCI_EXP_LNKSTA_CLS_5_0GB` -/
def lnkstaCls50gb : BitVec 16 := 0x0002

/-- The policy gate: what the function finds in CYA0, the link configuration and the link rate. -/
def gen2PolicyPresent (cya0 linkConfig plLinkRate : BitVec 32) : Prop :=
  cya0 &&& (1 <<< 2) = 0 ∧ (linkConfig >>> 18) &&& 3 = 2 ∧ plLinkRate &&& 0x00060000 = 0x00040000

instance (cya0 linkConfig plLinkRate : BitVec 32) : Decidable (gen2PolicyPresent cya0 linkConfig plLinkRate) :=
  inferInstanceAs (Decidable (_ ∧ _))

/-- The offsets in BAR0 that the function reads for the gate. -/
def cya0Offset : BitVec 32 := 0x8C2C0

def linkConfigOffset : BitVec 32 := 0x8C040

def plLinkRateOffset : BitVec 32 := 0x8C1C0

def ltssmOffset : BitVec 32 := 0x8872C

/-! ## Operations -/

/-- The log lines. -/
inductive RetrainMsg where
  | noUpstreamBridge
  | bar0MapFailed
  | gspPolicyMissing
  | targetReadbackFailed
  | retrainPass
  | retrainRetry
  | retrainFail
  | pciCapabilityError
  deriving DecidableEq

inductive RetrainOp where
  | pciUpstreamBridge
  | ioremap
  | iounmap
  | readl (offset : BitVec 32)
  | writel (v offset : BitVec 32)
  | capRead (e : LinkEnd) (r : LinkReg)
  | capWrite (e : LinkEnd) (r : LinkReg) (v : BitVec 16)
  | msleep (ms : Nat)
  | print (m : RetrainMsg)
  deriving DecidableEq

/-- A capability read answers with its return code and the value it stored. -/
@[reducible] def RetrainOp.Ans : RetrainOp → Type
  | .pciUpstreamBridge | .ioremap => Bool
  | .readl _ => BitVec 32
  | .capRead _ _ => Int × BitVec 16
  | .capWrite _ _ _ => Int
  | _ => Unit

abbrev Retrain := Prog RetrainOp RetrainOp.Ans

def pciUpstreamBridge : Retrain Bool := Prog.lift RetrainOp.pciUpstreamBridge

def ioremap : Retrain Bool := Prog.lift RetrainOp.ioremap

def iounmap : Retrain Unit := Prog.lift RetrainOp.iounmap

def readl (offset : BitVec 32) : Retrain (BitVec 32) := Prog.lift (RetrainOp.readl offset)

def writel (v offset : BitVec 32) : Retrain Unit := Prog.lift (RetrainOp.writel v offset)

/-- `pcie_capability_read_word` -/
def capRead (e : LinkEnd) (r : LinkReg) : Retrain (Int × BitVec 16) := Prog.lift (RetrainOp.capRead e r)

/-- `pcie_capability_write_word` -/
def capWrite (e : LinkEnd) (r : LinkReg) (v : BitVec 16) : Retrain Int := Prog.lift (RetrainOp.capWrite e r v)

def msleep (ms : Nat) : Retrain Unit := Prog.lift (RetrainOp.msleep ms)

def printMsg (m : RetrainMsg) : Retrain Unit := Prog.lift (RetrainOp.print m)

/-! ## The function -/

/-- The label `capability_error_unmap`. -/
def capabilityErrorUnmap : Retrain Unit := do
  iounmap
  printMsg .pciCapabilityError

/-- The label `restore_ctl_unmap`; it falls through. -/
def restoreCtlUnmap (gpuCtl upstreamCtl : BitVec 16) : Retrain Unit := do
  let _ ← capWrite .upstream .lnkctl upstreamCtl
  let _ ← capWrite .gpu .lnkctl gpuCtl
  capabilityErrorUnmap

/-- The label `restore_ctl`. -/
def restoreCtl (gpuCtl upstreamCtl : BitVec 16) : Retrain Unit := do
  let _ ← capWrite .gpu .lnkctl gpuCtl
  let _ ← capWrite .upstream .lnkctl upstreamCtl

/-- The target speed set to 5 GT/s. -/
def targetSpeed (ctl2 : BitVec 16) : BitVec 16 := (ctl2 &&& ~~~lnkctl2Tls) ||| lnkctl2Tls50gt

/-- A request of both ends; `false` if one of the writes fails. -/
def requestRetrain (gpuCtl upstreamCtl : BitVec 16) : Retrain Bool := do
  let ret ← capWrite .gpu .lnkctl (gpuCtl ||| lnkctlRl)
  if ret ≠ 0 then
    return false
  msleep 50
  let ret ← capWrite .upstream .lnkctl (upstreamCtl ||| lnkctlRl)
  return ret == 0

/-- One turn of the polling loops; a value ends the function. -/
def pollStatus (gpuCtl upstreamCtl : BitVec 16) (_attempt : Nat) : Retrain (Option Unit) := do
  msleep 10
  let (ret, linkStatus) ← capRead .gpu .lnksta
  let _ ← capRead .upstream .lnksta
  if ret = 0 ∧ linkStatus &&& lnkstaCls ≥ lnkstaCls50gb then
    printMsg .retrainPass
    let _ ← capWrite .gpu .lnkctl gpuCtl
    let _ ← capWrite .upstream .lnkctl upstreamCtl
    return some ()
  else
    return none

/-- The two windows of requests and polls, after the BAR is unmapped. -/
def retrainTwice (gpuCtl upstreamCtl : BitVec 16) : Retrain Unit := do
  if !(← requestRetrain gpuCtl upstreamCtl) then
    restoreCtl gpuCtl upstreamCtl
  else
    match ← Prog.each (pollStatus gpuCtl upstreamCtl) (List.range 200) with
    | some () => return
    | none =>
      printMsg .retrainRetry
      msleep 500
      if !(← requestRetrain gpuCtl upstreamCtl) then
        restoreCtl gpuCtl upstreamCtl
      else
        match ← Prog.each (pollStatus gpuCtl upstreamCtl) (List.range 200) with
        | some () => return
        | none =>
          printMsg .retrainFail
          restoreCtl gpuCtl upstreamCtl

/-- The target speeds of both ends are written and read back; `false` leads to `restore_ctl_unmap`. -/
def programTargets (gpuCtl2 upstreamCtl2 : BitVec 16) : Retrain Bool := do
  if (← capWrite .gpu .lnkctl2 (targetSpeed gpuCtl2)) ≠ 0 then
    return false
  if (← capWrite .upstream .lnkctl2 (targetSpeed upstreamCtl2)) ≠ 0 then
    return false
  let (ret, gpuCtl2Readback) ← capRead .gpu .lnkctl2
  if ret ≠ 0 then
    return false
  let (ret, upstreamCtl2Readback) ← capRead .upstream .lnkctl2
  if ret ≠ 0 then
    return false
  if gpuCtl2Readback &&& lnkctl2Tls ≠ lnkctl2Tls50gt ∨ upstreamCtl2Readback &&& lnkctl2Tls ≠ lnkctl2Tls50gt then
    printMsg .targetReadbackFailed
    return false
  return true

/-- What follows once the four registers are read. -/
def retrainWith (gpuCtl gpuCtl2 upstreamCtl upstreamCtl2 : BitVec 16) : Retrain Unit := do
  if !(← programTargets gpuCtl2 upstreamCtl2) then
    restoreCtlUnmap gpuCtl upstreamCtl
  else
    writel 6 ltssmOffset
    let _ ← readl ltssmOffset
    iounmap
    msleep 20
    retrainTwice gpuCtl upstreamCtl

/-- What follows once the gate is passed. -/
def readLink : Retrain Unit := do
  let (ret, gpuCtl) ← capRead .gpu .lnkctl
  if ret ≠ 0 then
    capabilityErrorUnmap
  else
    let (ret, gpuCtl2) ← capRead .gpu .lnkctl2
    if ret ≠ 0 then
      capabilityErrorUnmap
    else
      let (ret, upstreamCtl) ← capRead .upstream .lnkctl
      if ret ≠ 0 then
        capabilityErrorUnmap
      else
        let (ret, upstreamCtl2) ← capRead .upstream .lnkctl2
        if ret ≠ 0 then
          capabilityErrorUnmap
        else
          retrainWith gpuCtl gpuCtl2 upstreamCtl upstreamCtl2

/-- `nv_cmp50hx_retrain_gen2` -/
def retrainGen2 (gpu : PciDev) : Retrain Unit := do
  if !cmp50hxIsSupported gpu then
    return
  if !(← pciUpstreamBridge) then
    printMsg .noUpstreamBridge
    return
  if !(← ioremap) then
    printMsg .bar0MapFailed
    return
  let cya0 ← readl cya0Offset
  let linkConfig ← readl linkConfigOffset
  let plLinkRate ← readl plLinkRateOffset
  if ¬ gen2PolicyPresent cya0 linkConfig plLinkRate then
    printMsg .gspPolicyMissing
    iounmap
  else
    readLink

end Cmp50Unlock.KernelOpen
