import Cmp50Unlock.KernelOpen.Lemmas.Kept
import Cmp50Unlock.KernelOpen.Lemmas.Rebar
import Cmp50Unlock.Stockflow.Board
import Cmp50Unlock.Stockflow.Lemmas.Gen2

/-!
# Theorems about the PCIe side

The Gen2 policy of the driver, and what the kernel module does with the link and with BAR1. The lemmas behind them are
in `Lemmas/`.
-/

namespace Cmp50Unlock.KernelOpen

open Lib

/-! ## The Gen2 policy -/

section
open Stockflow

/-- Whatever the registers hold and whichever of their bits can be written, the policy writes none behind a closed PLM,
and otherwise ends with all conditions met and all other bits as they were, or with all registers as they were. Once
it has passed, the gate of the retrain accepts the registers, and the policy changes nothing any more. -/
theorem gen2_policy_all_or_nothing (mask regs : Bank Reg 32) :
    (∀ o c, cmp50ApplyGen2Policy.Issued (ChipStep mask) ⟨regs, []⟩ o c → o.WritesReg →
      regs .pcieXp3gPlm0 = 0xFFFFFFFF) ∧
    ∀ c, cmp50ApplyGen2Policy.Exec (ChipStep mask) ⟨regs, []⟩ () c → PolicyOutcome regs c ∧
      (c.Passed → GateAccepts c.regs ∧
        (∀ o c', cmp50ApplyGen2Policy.Issued (ChipStep mask) ⟨c.regs, []⟩ o c' → c'.regs = c.regs) ∧
        ∀ c', cmp50ApplyGen2Policy.Exec (ChipStep mask) ⟨c.regs, []⟩ () c' → c'.regs = c.regs) := by
  have hstart : ∀ regs, ¬ (⟨regs, []⟩ : Chip).Passed := fun _ => List.not_mem_nil
  have hfirst := @applyGen2Policy_wp mask _ (hstart regs)
  refine ⟨fun o c hi => (hfirst.issued hi).1, fun c he => ?_⟩
  have houtcome := (hfirst.exec he).1
  refine ⟨houtcome, fun hp => ?_⟩
  have hholds := houtcome.holds hp
  have hagain := @applyGen2Policy_wp mask _ (hstart c.regs)
  exact ⟨hholds.gateAccepts, fun o c' hi => (hagain.issued hi).2 hholds, fun c' he' => (hagain.exec he').2 hholds⟩

/-- The answers of a chip; a policy makes no other calls than reads and writes. -/
def chipAnswer (c : Chip) : (o : Op) → o.Ans
  | .rd r => c.regs r
  | o => Board.reply ⟨(0, 0), (0, 0), fun _ => .ok, .ok, none⟩ [] o

def chipRun (mask : Bank Reg 32) (o : Op) (c : Chip) : o.Ans × Chip := (chipAnswer c o, c.after mask o)

theorem chipRun_step (mask : Bank Reg 32) (o : Op) (c : Chip) :
    ChipStep mask o c (chipRun mask o c).1 (chipRun mask o c).2 := by
  cases o <;> exact ⟨by first | rfl | trivial, rfl⟩

/-- On registers that can be written and hold all ones, the policy passes. -/
theorem gen2_policy_sample : ∃ c, cmp50ApplyGen2Policy.Exec (ChipStep fun _ => BitVec.allOnes 32)
    ⟨fun _ => BitVec.allOnes 32, []⟩ () c ∧ c.Passed ∧ GateAccepts c.regs := by
  have he := Prog.exec_interp id (chipRun_step fun _ => BitVec.allOnes 32) cmp50ApplyGen2Policy
    ⟨fun _ => BitVec.allOnes 32, []⟩
  have hlast : (cmp50ApplyGen2Policy.interp (chipRun fun _ => BitVec.allOnes 32)
      ⟨fun _ => BitVec.allOnes 32, []⟩).2.log.head? = some (.act (.print .policyPass)) := by rfl
  have hpassed := List.mem_of_mem_head? (Option.mem_def.2 hlast)
  exact ⟨_, he, hpassed, (((gen2_policy_all_or_nothing _ _).2 _ he).2 hpassed).1⟩

end

/-! ## The retrain -/

/-- Whatever fails and whatever the link reports, the retrain writes config registers only after the gate was accepted
and all reads of the way there have succeeded, and reports a pass only after a poll that showed the speed. It asks each
end at most twice, polls at most 400 times, unmaps BAR0 once if it was mapped, and leaves LNKCTL as it was read if
the restoring writes succeed. LNKCTL2 differs in the target speed at most, at every moment. -/
theorem retrain_preserves_control (mask regs : Bank (LinkEnd × LinkReg) 16) (gpu : PciDev) :
    (∀ o w, (retrainGen2 gpu).Issued (LinkStep mask) ⟨regs, []⟩ o w → o.Allowed w ∧ OnlySpeedDiffers ⟨regs, []⟩ w) ∧
    ∀ w, (retrainGen2 gpu).Exec (LinkStep mask) ⟨regs, []⟩ () w → LinkKept ⟨regs, []⟩ w := by
  have hwp := @retrainGen2_tracked mask ⟨regs, []⟩ gpu rfl
  exact ⟨fun o w hi => hwp.issued hi, fun w he => (hwp.exec he).toLinkKept⟩

/-- The answers of a link whose gate is open; the writes that `fails` picks fail. -/
def linkAnswer (fails : LinkEnd → LinkReg → Bool) (w : LinkWorld) : (o : RetrainOp) → o.Ans
  | .pciUpstreamBridge => true
  | .ioremap => true
  | .readl offset => if offset = linkConfigOffset then 0x00080000
      else if offset = plLinkRateOffset then 0x00040000 else 0
  | .capRead e r => (0, w.reads e r)
  | .capWrite e r _ => if fails e r then -5 else 0
  | .iounmap => ()
  | .writel _ _ => ()
  | .msleep _ => ()
  | .print _ => ()

def linkRun (fails : LinkEnd → LinkReg → Bool) (o : RetrainOp) (w : LinkWorld) : o.Ans × LinkWorld :=
  (linkAnswer fails w o, w.after (fun _ => BitVec.allOnes 16) o (linkAnswer fails w o))

theorem linkRun_step (fails : LinkEnd → LinkReg → Bool) (o : RetrainOp) (w : LinkWorld) :
    LinkStep (fun _ => BitVec.allOnes 16) o w (linkRun fails o w).1 (linkRun fails o w).2 := by
  refine ⟨?_, rfl⟩
  cases o with
  | capRead e r =>
      cases r with
      | lnksta => trivial
      | _ => exact fun _ => rfl
  | _ => trivial

/-- A supported card. -/
def cmp50hx : PciDev := ⟨pciVendorIdNvidia, 0x1E09, pciVendorIdNvidia, 0x1554⟩

/-- Both ends with ASPM on and the target speed `target`, on a link that reports `speed`. -/
def linkAt (target speed : BitVec 16) : LinkWorld := ⟨fun r => match r.2 with
  | .lnkctl => 0x0042
  | .lnkctl2 => target
  | .lnksta => speed, []⟩

/-- On a link that comes up with 5 GT/s, the retrain passes, and ASPM stays on. -/
theorem retrain_passes : ∃ w, (retrainGen2 cmp50hx).Exec (LinkStep fun _ => BitVec.allOnes 16) (linkAt 1 2) () w ∧
    HasPassed w.log ∧ LinkKept (linkAt 1 2) w ∧ ∀ e, w.reads e .lnkctl = 0x0042 := by
  have he := Prog.exec_interp id (linkRun_step fun _ _ => false) (retrainGen2 cmp50hx) (linkAt 1 2)
  have hkept := (retrain_preserves_control _ _ _).2 _ he
  refine ⟨_, he, ?_, hkept, fun e => ?_⟩
  · have hlast : ((retrainGen2 cmp50hx).interp (linkRun fun _ _ => false) (linkAt 1 2)).2.log[2]? =
        some ⟨.print .retrainPass, ()⟩ := by rfl
    exact List.mem_of_getElem? hlast
  · cases e <;> rfl

/-- A retrain that fails keeps the target speeds if and only if each end whose LNKCTL2 it has written had the target
speed of 5 GT/s before. -/
theorem retrain_target_kept_iff {mask regs : Bank (LinkEnd × LinkReg) 16} {gpu : PciDev} {w : LinkWorld}
    (he : (retrainGen2 gpu).Exec (LinkStep mask) ⟨regs, []⟩ () w) :
    (¬ HasPassed w.log → ∀ e, w.reads e .lnkctl2 = regs (e, .lnkctl2)) ↔
      (¬ HasPassed w.log → ∀ e, TargetWritten e w.log → AtTarget mask regs e) := by
  have htracked := (@retrainGen2_tracked mask ⟨regs, []⟩ gpu rfl).exec he
  exact imp_congr_right fun _ => forall_congr' fun e => htracked.coherent.target_iff htracked.targets

/-- The write of LNKCTL2 of the bridge fails. -/
def bridgeFails (e : LinkEnd) (r : LinkReg) : Bool := e == .upstream && r == .lnkctl2

/-- Where the bridge does not take the new speed, the retrain fails. -/
theorem bridgeFails_not_passed {target : BitVec 16} (h : target = 1 ∨ target = 2) :
    ¬ HasPassed ((retrainGen2 cmp50hx).interp (linkRun bridgeFails) (linkAt target 2)).2.log := by
  have hquiet : ((retrainGen2 cmp50hx).interp (linkRun bridgeFails) (linkAt target 2)).2.log.all
      (fun event => event.1 != .print .retrainPass) = true := by
    rcases h with rfl | rfl <;> rfl
  intro hpassed
  simpa using List.all_eq_true.1 hquiet _ hpassed

/-- With the target speed of 5 GT/s on entry, the failure leaves it as it was. -/
theorem retrain_target_kept : ∃ w, (retrainGen2 cmp50hx).Exec (LinkStep fun _ => BitVec.allOnes 16) (linkAt 2 2) () w ∧
    ¬ HasPassed w.log ∧ ∀ e, w.reads e .lnkctl2 = 2 := by
  have he := Prog.exec_interp id (linkRun_step bridgeFails) (retrainGen2 cmp50hx) (linkAt 2 2)
  have hkept := (retrain_target_kept_iff he).2 fun _ e _ => by
    cases e <;> rfl
  have hfailed := bridgeFails_not_passed (.inr rfl)
  exact ⟨_, he, hfailed, hkept hfailed⟩

/-- A bridge that does not take the new speed leaves the GPU with it. -/
theorem retrain_leaves_target : ¬ ∀ (mask regs : Bank (LinkEnd × LinkReg) 16) (gpu : PciDev) (w : LinkWorld),
    (retrainGen2 gpu).Exec (LinkStep mask) ⟨regs, []⟩ () w → ¬ HasPassed w.log →
    (∀ e v ok, lastWrite e .lnkctl w.log = some (v, ok) → ok = true) →
    ∀ e, w.reads e .lnkctl2 = regs (e, .lnkctl2) := by
  intro h
  have he := Prog.exec_interp id (linkRun_step bridgeFails) (retrainGen2 cmp50hx) (linkAt 1 2)
  have hrestored : ∀ e, lastWrite e .lnkctl
      ((retrainGen2 cmp50hx).interp (linkRun bridgeFails) (linkAt 1 2)).2.log = some (0x0042, true) := by
    intro e
    cases e <;> rfl
  have hkept := h _ _ _ _ he (bridgeFails_not_passed (.inl rfl)) (fun e v ok hlast => ?_) .gpu
  · exact absurd hkept (by decide)
  · have heq := (hrestored e).symm.trans hlast
    cases heq
    rfl

/-! ## The size of BAR1 -/

/-- A call that fails leaves no trace if and only if the control entry, where the size is written to it, takes all or
none of the bits that change. -/
theorem bar1_resize_atomic_iff {h : RebarHost} {dev : RebarDev} {selector : BitVec 32} {w w' : RebarWorld} {ret : Int}
    (hlog : w.log = []) (he : (unlockBar1Resize dev selector).Exec (RebarStep h) w ret w') :
    (ret ≠ 0 → Undone h w w') ↔
      ∀ offset, ReachesEntry h dev selector w offset → NeedsRearm dev selector (w.config offset) →
        h.rearmed dev selector w.config offset = w.config offset ∨
        h.rearmed dev selector w.config offset = withBarSize dev.wide (w.config offset) (selector + 6) := by
  cases (unlockBar1Resize_wp hlog).exec he with
  | idle hidle => exact iff_of_true (absurd rfl) fun offset hr => (hr.not_idle hidle).elim
  | refused hret hunreached hundone =>
      exact iff_of_true (fun _ => hundone) fun offset hr => absurd hr (hunreached offset)
  | kept hreached hneeds hset hconfig =>
      refine iff_of_true (absurd rfl) fun offset hr hneeds' => ?_
      rw [hreached.unique hr] at hneeds'
      exact absurd hneeds' hneeds
  | rearmed hreached hneeds htaken hset hconfig =>
      refine iff_of_true (absurd rfl) fun offset hr _ => .inr ?_
      rw [hreached.unique hr]
      exact (sizeTaken_iff hreached.selected.2).1 htaken
  | @failed offset _ hreached hneeds hnot hundone hconfig =>
      constructor
      · intro hatomic offset' hr _
        have hsame := congrFun (hatomic (by decide)).config offset
        rw [hconfig, Bank.write_same] at hsame
        rw [hreached.unique hr]
        exact .inl hsame
      · intro hparts _
        rcases hparts offset hreached hneeds with hnone | htaken
        · exact ⟨hundone, hconfig.trans (Function.update_eq_self_iff.2 hnone)⟩
        · exact absurd ((sizeTaken_iff hreached.selected.2).2 htaken) hnot

/-- A card whose control entry accepts the bits of `sizeMask`; all other registers accept every bit. -/
def cardWith (sizeMask : BitVec 32) : RebarHost :=
  ⟨BitVec.allOnes 32, fun _ => BitVec.allOnes 32, BitVec.allOnes 16, fun _ => sizeMask, true, 0x7FC0, 0x148⟩

/-- Linux keeps BAR1 at 16 GiB. -/
def rebarHost : RebarDev := ⟨cmp50hx, true, 0x1000000, 2 ^ 34, true⟩

/-- The control entry for BAR1, the only one, is back at 256 MiB. -/
def afterReset : RebarWorld := ⟨fun _ => 0, 0x0006, fun offset => if offset = 0x150 then 0x821 else 0, 0, []⟩

def rebarRun (h : RebarHost) (o : RebarOp) (w : RebarWorld) : o.Ans × RebarWorld := (w.answer h o, w.after h o)

/-- The call for 16 GiB. -/
theorem resize_exec (sizeMask : BitVec 32) :
    (unlockBar1Resize rebarHost 8).Exec (RebarStep (cardWith sizeMask)) afterReset
    ((unlockBar1Resize rebarHost 8).interp (rebarRun (cardWith sizeMask)) afterReset).1
    ((unlockBar1Resize rebarHost 8).interp (rebarRun (cardWith sizeMask)) afterReset).2 :=
  Prog.exec_interp id (fun _ _ => ⟨rfl, rfl⟩) _ _

/-- A control entry that takes no bit of the size is as it was. -/
theorem bar1_resize_refused : ∃ ret w', (unlockBar1Resize rebarHost 8).Exec (RebarStep (cardWith 0)) afterReset ret w' ∧
    ret = -5 ∧ Undone (cardWith 0) afterReset w' := by
  have he := resize_exec 0
  have hatomic := (bar1_resize_atomic_iff rfl he).2 fun offset _ _ => .inl masked_zero
  exact ⟨_, _, he, by rfl, hatomic (by decide)⟩

/-- A control entry that takes one of the two bits that change stays between the two sizes. -/
theorem bar1_resize_leaves_entry : ¬ ∀ (h : RebarHost) (dev : RebarDev) (selector : BitVec 32) (w w' : RebarWorld)
    (ret : Int), w.log = [] → (unlockBar1Resize dev selector).Exec (RebarStep h) w ret w' →
    ret ≠ 0 → Undone h w w' := by
  intro hatomic
  have hundone := hatomic _ _ _ _ _ _ rfl (resize_exec 0x200) (by decide)
  exact absurd (congrFun hundone.config 0x150) (by decide)

/-- A call that succeeds had nothing to do and did nothing, or has set the size in CFG and, where Linux keeps BAR1 at
that size, in the control entry for BAR1, and nothing else. -/
theorem bar1_resize_success {h : RebarHost} {dev : RebarDev} {selector : BitVec 32} {w w' : RebarWorld}
    (hlog : w.log = []) (he : (unlockBar1Resize dev selector).Exec (RebarStep h) w 0 w') :
    (cmp50hxIsSupported dev.pci = false ∨ selector = 0) ∧ w' = w ∨ Resized h dev selector w w' := by
  generalize hret : (0 : Int) = ret at he
  cases (unlockBar1Resize_wp hlog).exec he with
  | idle hidle => exact .inl ⟨hidle, rfl⟩
  | refused hnonzero _ _ => exact absurd hret.symm hnonzero
  | kept hreached hneeds hset hconfig =>
      have hsame : ∀ offset, w'.config offset = w.config offset := fun offset => congrFun hconfig offset
      refine .inr (hset.resized hreached (fun hlen => ?_) (fun _ => hsame _) (by rw [hsame])
        fun offset _ => hsame offset)
      rw [hsame]
      exact Decidable.not_not.1 fun hsize => hneeds ⟨hlen, hsize⟩
  | @rearmed offset _ hreached hneeds htaken hset hconfig =>
      have hle := hreached.selected.2
      have hentry : w'.config offset = withBarSize dev.wide (w.config offset) (selector + 6) := by
        rw [hconfig, Bank.write_same]
        exact (sizeTaken_iff hle).1 htaken
      refine .inr (hset.resized hreached (fun _ => ?_) (absurd hneeds.1) ?_ fun offset' hne => ?_)
      · rw [hentry, barSize_withBarSize hle]
      · rw [hentry, withBarSize_others hle]
      · rw [hconfig, Bank.write_ne hne]
  | failed hreached hneeds hnot hundone hconfig => exact absurd hret (by decide)

/-- After a reset of the card, the call sets 16 GiB. -/
theorem bar1_resize_sample : ∃ w', (unlockBar1Resize rebarHost 8).Exec (RebarStep (cardWith (BitVec.allOnes 32)))
    afterReset 0 w' ∧ Resized (cardWith (BitVec.allOnes 32)) rebarHost 8 afterReset w' := by
  have he := resize_exec (BitVec.allOnes 32)
  have hret : ((unlockBar1Resize rebarHost 8).interp (rebarRun (cardWith (BitVec.allOnes 32))) afterReset).1 = 0 := by
    rfl
  rw [hret] at he
  refine ⟨_, he, (bar1_resize_success rfl he).resolve_left ?_⟩
  rintro ⟨hidle, -⟩
  rcases hidle with hidle | hidle <;> exact absurd hidle (by decide)

end Cmp50Unlock.KernelOpen
