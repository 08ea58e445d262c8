import Cmp50Unlock.KernelOpen.Bar1
import Cmp50Unlock.Lib.Wp

/-!
# A resize, step by step

Every exit of the function, with the registers it leaves. Writing back what was read undoes the two XVE writes: the
bits that CFG accepts are the same for both of its writes, since CYA stays open between them.
-/

namespace Cmp50Unlock.KernelOpen

open Lib Rebar

/-! ## Operations -/

section
variable {h : RebarHost} {w : RebarWorld}

@[simp] theorem rebar_after_log {o : RebarOp} : (w.after h o).log = o :: w.log := by
  cases o <;> rfl

@[simp] theorem rebar_after_writel {v r} :
    (w.after h (.writel v r)).xve = w.xve.write (h.xveMask w.xve) r v := rfl

@[simp] theorem rebar_after_xve {o : RebarOp} (ho : ∀ v r, o ≠ .writel v r) : (w.after h o).xve = w.xve := by
  cases o with
  | writel v r => exact absurd rfl (ho v r)
  | _ => rfl

@[simp] theorem rebar_after_writeCommand {v} :
    (w.after h (.writeCommand v)).command = masked h.commandMask w.command v := rfl

@[simp] theorem rebar_after_command {o : RebarOp} (ho : ∀ v, o ≠ .writeCommand v) :
    (w.after h o).command = w.command := by
  cases o with
  | writeCommand v => exact absurd rfl (ho v)
  | _ => rfl

@[simp] theorem rebar_after_writeConfigDword {offset v} :
    (w.after h (.writeConfigDword offset v)).config = w.config.write h.configMask offset v := rfl

@[simp] theorem rebar_after_config {o : RebarOp} (ho : ∀ offset v, o ≠ .writeConfigDword offset v) :
    (w.after h o).config = w.config := by
  cases o with
  | writeConfigDword offset v => exact absurd rfl (ho offset v)
  | _ => rfl

@[simp] theorem rebar_after_enableResizableBar : (w.after h .enableResizableBar).enable = 1 := rfl

@[simp] theorem rebar_after_enable {o : RebarOp} (ho : o ≠ .enableResizableBar) :
    (w.after h o).enable = w.enable := by
  cases o with
  | enableResizableBar => exact absurd rfl ho
  | _ => rfl

/-- The operations need no guard. -/
abbrev AnyOp (_ : RebarWorld) (_ : RebarOp) : Prop := True

theorem wp_rebar {o : RebarOp} {Q : o.Ans → RebarWorld → Prop} :
    (Prog.lift o : Rebar o.Ans).wp (RebarStep h) AnyOp w Q ↔ Q (w.answer h o) (w.after h o) :=
  ⟨fun hq => hq.2 _ _ ⟨rfl, rfl⟩, fun hq => ⟨trivial, fun _ _ hs => hs.1 ▸ hs.2 ▸ hq⟩⟩

@[simp] theorem wp_rebar_ioremap {Q : Bool → RebarWorld → Prop} :
    Rebar.ioremap.wp (RebarStep h) AnyOp w Q ↔ Q h.ioremapOk (w.after h .ioremap) := wp_rebar

@[simp] theorem wp_rebar_iounmap {Q : Unit → RebarWorld → Prop} :
    Rebar.iounmap.wp (RebarStep h) AnyOp w Q ↔ Q () (w.after h .iounmap) := wp_rebar

@[simp] theorem wp_rebar_readl {r} {Q : BitVec 32 → RebarWorld → Prop} :
    (Rebar.readl r).wp (RebarStep h) AnyOp w Q ↔ Q (w.xve r) (w.after h (.readl r)) := wp_rebar

@[simp] theorem wp_rebar_writel {v r} {Q : Unit → RebarWorld → Prop} :
    (Rebar.writel v r).wp (RebarStep h) AnyOp w Q ↔ Q () (w.after h (.writel v r)) := wp_rebar

@[simp] theorem wp_getPossibleSizes {Q : BitVec 64 → RebarWorld → Prop} :
    getPossibleSizes.wp (RebarStep h) AnyOp w Q ↔ Q h.possibleSizes (w.after h .getPossibleSizes) := wp_rebar

@[simp] theorem wp_findExtCapability {Q : Nat → RebarWorld → Prop} :
    findExtCapability.wp (RebarStep h) AnyOp w Q ↔ Q h.rebarPos (w.after h .findExtCapability) := wp_rebar

@[simp] theorem wp_readConfigDword {offset} {Q : BitVec 32 → RebarWorld → Prop} :
    (readConfigDword offset).wp (RebarStep h) AnyOp w Q ↔
      Q (w.config offset) (w.after h (.readConfigDword offset)) := wp_rebar

@[simp] theorem wp_writeConfigDword {offset v} {Q : Unit → RebarWorld → Prop} :
    (writeConfigDword offset v).wp (RebarStep h) AnyOp w Q ↔ Q () (w.after h (.writeConfigDword offset v)) := wp_rebar

@[simp] theorem wp_readCommand {Q : BitVec 16 → RebarWorld → Prop} :
    readCommand.wp (RebarStep h) AnyOp w Q ↔ Q w.command (w.after h .readCommand) := wp_rebar

@[simp] theorem wp_writeCommand {v} {Q : Unit → RebarWorld → Prop} :
    (writeCommand v).wp (RebarStep h) AnyOp w Q ↔ Q () (w.after h (.writeCommand v)) := wp_rebar

@[simp] theorem wp_enableResizableBar {Q : Unit → RebarWorld → Prop} :
    enableResizableBar.wp (RebarStep h) AnyOp w Q ↔ Q () (w.after h .enableResizableBar) := wp_rebar

@[simp] theorem wp_rebar_printMsg {m} {Q : Unit → RebarWorld → Prop} :
    (Rebar.printMsg m).wp (RebarStep h) AnyOp w Q ↔ Q () (w.after h (.print m)) := wp_rebar

end

/-! ## The XVE -/

section
variable {h : RebarHost} {dev : RebarDev} {selector : BitVec 32} {w₀ w : RebarWorld}

/-- The XVE has taken the writes, whatever it accepts of them; the rest is as on entry but for the config space. -/
structure Programmed (h : RebarHost) (selector : BitVec 32) (w₀ w : RebarWorld) : Prop where
  xve : w.xve = h.unlocked selector w₀.xve
  command : w.command = w₀.command
  enable : w.enable = w₀.enable
  mapped : w.log.count .ioremap = 1
  unmapped : w.log.count .iounmap = 0

/-- The operation changes nothing and is no mapping. -/
def RebarOp.Looks : RebarOp → Prop
  | .readl _ | .getPossibleSizes | .findExtCapability | .readConfigDword _ | .readCommand | .print _ => True
  | _ => False

theorem Programmed.look (hp : Programmed h selector w₀ w) (o : RebarOp) (ho : o.Looks) :
    Programmed h selector w₀ (w.after h o) := by
  have hmapped : o ≠ .ioremap ∧ o ≠ .iounmap := by
    constructor <;> rintro rfl <;> exact ho
  refine ⟨?_, ?_, ?_, ?_, ?_⟩
  · rw [rebar_after_xve (by rintro v r rfl; exact ho), hp.xve]
  · rw [rebar_after_command (by rintro v rfl; exact ho), hp.command]
  · rw [rebar_after_enable (by rintro rfl; exact ho), hp.enable]
  · rw [rebar_after_log, List.count_cons_of_ne hmapped.1, hp.mapped]
  · rw [rebar_after_log, List.count_cons_of_ne hmapped.2, hp.unmapped]

/-- Both writes are undone by writing back CFG and then CYA. -/
theorem unlocked_undone (xve : Bank XveReg 32) :
    let cfgBack := (h.unlocked selector xve).write (h.xveMask (h.unlocked selector xve)) .cfg (xve .cfg)
    cfgBack.write (h.xveMask cfgBack) .cya (xve .cya) = xve := by
  funext r
  cases r <;> simp [RebarHost.unlocked, Bank.write, RebarHost.xveMask, Function.update]

theorem undoXve_wp (hp : Programmed h selector w₀ w) (hok : h.ioremapOk = true) :
    (undoXve (w₀.xve .cfg) (w₀.xve .cya)).wp (RebarStep h) AnyOp w fun _ w' =>
      XveUndone h w₀ w' ∧ w'.config = w.config := by
  have hundone := @unlocked_undone h selector w₀.xve
  simp only [undoXve, Prog.wp_bind, wp_rebar_writel, wp_rebar_readl, wp_rebar_iounmap]
  refine ⟨⟨?_, ?_, ?_, ?_, ?_⟩, ?_⟩
  · simpa [hp.xve] using hundone
  · simp [hp.command]
  · simp [hp.enable]
  · simp [hp.mapped]
  · simp [hp.mapped, hp.unmapped, hok]
  · simp

/-- An exit after the XVE is programmed. -/
theorem fail_wp (hp : Programmed h selector w₀ w) (hok : h.ioremapOk = true) (m : RebarMsg) :
    (do printMsg m; undoXve (w₀.xve .cfg) (w₀.xve .cya); return -eio : Rebar Int).wp (RebarStep h) AnyOp w
      fun ret w' => ret = -eio ∧ XveUndone h w₀ w' ∧ w'.config = w.config := by
  simp only [Prog.wp_bind, wp_rebar_printMsg, Prog.wp_pure]
  refine (undoXve_wp (hp.look (.print m) trivial) hok).mono fun _ w' h' => ?_
  exact ⟨trivial, h'.1, h'.2.trans (by simp)⟩

/-- The XVE keeps the new configuration, and the option is set. -/
structure XveSet (h : RebarHost) (selector : BitVec 32) (w w' : RebarWorld) : Prop where
  xve : w'.xve = h.unlocked selector w.xve
  command : w'.command = w.command
  enable : w'.enable = 1

theorem finishResize_wp (hp : Programmed h selector w₀ w) :
    finishResize.wp (RebarStep h) AnyOp w fun ret w' => ret = 0 ∧ XveSet h selector w₀ w' ∧ w'.config = w.config := by
  simp only [finishResize, Prog.wp_bind, wp_enableResizableBar, wp_rebar_printMsg, wp_rebar_iounmap, Prog.wp_pure]
  refine ⟨trivial, ⟨?_, ?_, ?_⟩, ?_⟩
  · simp [hp.xve]
  · simp [hp.command]
  · simp
  · simp

/-! ## The control entry -/

/-- The control entry takes all bits of the size. -/
def SizeTaken (h : RebarHost) (dev : RebarDev) (selector : BitVec 32) (config : Bank Nat 32) (offset : Nat) : Prop :=
  h.rearmed dev selector config offset &&& rebarCtrlBarSize dev.wide =
    withBarSize dev.wide (config offset) (selector + 6) &&& rebarCtrlBarSize dev.wide

theorem rearm_wp {offset : Nat} (hp : Programmed h selector w₀ w) (hconfig : w.config = w₀.config) :
    (rearm dev.wide offset (w₀.config offset) (selector + 6)).wp (RebarStep h) AnyOp w fun ok w' =>
      Programmed h selector w₀ w' ∧ (ok = true ↔ SizeTaken h dev selector w₀.config offset) ∧
      w'.config = w₀.config.write h.configMask offset (withBarSize dev.wide (w₀.config offset) (selector + 6)) := by
  simp only [rearm, Prog.wp_bind, wp_readCommand, wp_writeCommand, wp_writeConfigDword, wp_readConfigDword,
    Prog.wp_pure]
  refine ⟨⟨?_, ?_, ?_, ?_, ?_⟩, ?_, ?_⟩
  · simp [hp.xve]
  · simp [hp.command]
  · simp [hp.enable]
  · simp [hp.mapped]
  · simp [hp.unmapped]
  · simp [hconfig, SizeTaken, RebarHost.rearmed]
  · simp [hconfig]

end

/-! ## The exits -/

/-- How a call ends. -/
inductive ResizeOutcome (h : RebarHost) (dev : RebarDev) (selector : BitVec 32) (w : RebarWorld) :
    Int → RebarWorld → Prop
  | idle (hidle : cmp50hxIsSupported dev.pci = false ∨ selector = 0) : ResizeOutcome h dev selector w 0 w
  | refused {ret : Int} {w' : RebarWorld} (hret : ret ≠ 0) (hunreached : ∀ offset,
      ¬ ReachesEntry h dev selector w offset)
      (hundone : Undone h w w') : ResizeOutcome h dev selector w ret w'
  | kept {offset : Nat} {w' : RebarWorld} (hreached : ReachesEntry h dev selector w offset)
      (hneeds : ¬ NeedsRearm dev selector (w.config offset)) (hset : XveSet h selector w w')
      (hconfig : w'.config = w.config) : ResizeOutcome h dev selector w 0 w'
  | rearmed {offset : Nat} {w' : RebarWorld} (hreached : ReachesEntry h dev selector w offset)
      (hneeds : NeedsRearm dev selector (w.config offset)) (htaken : SizeTaken h dev selector w.config offset)
      (hset : XveSet h selector w w') (hconfig : w'.config =
        w.config.write h.configMask offset (withBarSize dev.wide (w.config offset) (selector + 6))) :
      ResizeOutcome h dev selector w 0 w'
  | failed {offset : Nat} {w' : RebarWorld} (hreached : ReachesEntry h dev selector w offset)
      (hneeds : NeedsRearm dev selector (w.config offset)) (hnot : ¬ SizeTaken h dev selector w.config offset)
      (hundone : XveUndone h w w') (hconfig : w'.config =
        w.config.write h.configMask offset (withBarSize dev.wide (w.config offset) (selector + 6))) :
      ResizeOutcome h dev selector w (-eio) w'

section
variable {h : RebarHost} {dev : RebarDev} {selector : BitVec 32} {w₀ w : RebarWorld}

theorem needsRearm_iff {rebarCtrl : BitVec 32} (hle : selector ≤ 8) :
    dev.bar1Len = 2 ^ (selector + 6 + 20).toNat ∧ barSize dev.wide rebarCtrl ≠ selector + 6 ↔
      NeedsRearm dev selector rebarCtrl := by
  have hlen : (selector + 6 + 20).toNat = selector.toNat + 26 := by bv_omega
  rw [hlen, NeedsRearm]

theorem resizeEntry_wp {offset : Nat} (hp : Programmed h selector w₀ w) (hconfig : w.config = w₀.config)
    (hreached : ReachesEntry h dev selector w₀ offset) :
    (resizeEntry dev offset (w₀.config offset) (selector + 6) (w₀.xve .cfg) (w₀.xve .cya)).wp (RebarStep h) AnyOp w
      (ResizeOutcome h dev selector w₀) := by
  rw [resizeEntry, Prog.wp_ite, needsRearm_iff hreached.selected.2]
  refine ⟨fun hneeds => ?_, fun hneeds => ?_⟩
  · rw [Prog.wp_bind]
    refine (rearm_wp hp hconfig).mono fun ok w₁ h₁ => ?_
    obtain ⟨hp₁, hok, hconfig₁⟩ := h₁
    cases ok with
    | false =>
        refine (fail_wp hp₁ hreached.mapped .rearmFailed).mono fun ret w' h' => ?_
        obtain ⟨rfl, hundone, hsame⟩ := h'
        exact .failed hreached hneeds (fun htaken => by simpa using hok.2 htaken) hundone (hsame.trans hconfig₁)
    | true =>
        rw [if_neg (by simp), Prog.wp_bind, wp_rebar_printMsg]
        refine (finishResize_wp (hp₁.look (.print .rearmed) trivial)).mono fun ret w' h' => ?_
        obtain ⟨rfl, hset, hsame⟩ := h'
        refine .rearmed hreached hneeds (hok.1 rfl) hset ((hsame.trans ?_).trans hconfig₁)
        simp
  · refine (finishResize_wp hp).mono fun ret w' h' => ?_
    obtain ⟨rfl, hset, hsame⟩ := h'
    exact .kept hreached hneeds hset (hsame.trans hconfig)

theorem findBar1_wp (hp : Programmed h selector w₀ w) (hconfig : w.config = w₀.config) :
    (findBar1 h.rebarPos (barCount h.rebarPos w₀.config)).wp (RebarStep h) AnyOp w fun r w' =>
      r = (bar1Entry h.rebarPos w₀.config).map (fun entry => (entry, w₀.config (ctrlOffset h.rebarPos entry))) ∧
      Programmed h selector w₀ w' ∧ w'.config = w₀.config := by
  refine Prog.wp_each_find (I := fun w => Programmed h selector w₀ w ∧ w.config = w₀.config) ?_ ⟨hp, hconfig⟩
  intro entry _ w hw
  simp only [Prog.wp_bind, wp_readConfigDword, Prog.wp_pure, hw.2, decide_eq_true_eq]
  refine ⟨trivial, hw.1.look (.readConfigDword _) trivial, ?_⟩
  simp [hw.2]

/-- The exits before the control entry is found. -/
theorem ResizeOutcome.of_unreached {ret : Int} {w' : RebarWorld} (hret : ret = -eio)
    (hunreached : ∀ offset, ¬ ReachesEntry h dev selector w₀ offset) (hundone : XveUndone h w₀ w')
    (hconfig : w'.config = w₀.config) : ResizeOutcome h dev selector w₀ ret w' :=
  .refused (by rw [hret]; decide) hunreached ⟨hundone, hconfig⟩

theorem resizeBar1_wp (hp : Programmed h selector w₀ w) (hconfig : w.config = w₀.config)
    (hok : h.ioremapOk = true) (hreached : ∀ entry, h.possibleSizes &&& (1#64 <<< (selector + 6)) ≠ 0 →
      h.rebarPos ≠ 0 → bar1Entry h.rebarPos w₀.config = some entry →
      ReachesEntry h dev selector w₀ (ctrlOffset h.rebarPos entry)) :
    (resizeBar1 dev selector (w₀.xve .cfg) (w₀.xve .cya)).wp (RebarStep h) AnyOp w
      (ResizeOutcome h dev selector w₀) := by
  have hp₁ := hp.look .getPossibleSizes trivial
  have hp₂ := hp₁.look .findExtCapability trivial
  have hp₃ := hp₂.look (.readConfigDword (h.rebarPos + pciRebarCtrl)) trivial
  rw [resizeBar1, Prog.wp_bind, wp_getPossibleSizes, Prog.wp_ite]
  refine ⟨fun hsize => ?_, fun hsize => ?_⟩
  · refine (fail_wp hp₁ hok .sizeMaskHasNoSelector).mono fun ret w' h' => ?_
    exact .of_unreached h'.1 (fun _ hr => hr.possible hsize) h'.2.1 (h'.2.2.trans (by simp [hconfig]))
  rw [Prog.wp_bind, wp_findExtCapability, Prog.wp_ite]
  refine ⟨fun hpos => ?_, fun hpos => ?_⟩
  · refine (fail_wp hp₂ hok .capabilityDisappeared).mono fun ret w' h' => ?_
    exact .of_unreached h'.1 (fun _ hr => hr.present hpos) h'.2.1 (h'.2.2.trans (by simp [hconfig]))
  have hconfig₃ : (((w.after h .getPossibleSizes).after h .findExtCapability).after h
      (.readConfigDword (h.rebarPos + pciRebarCtrl))).config = w₀.config := by simp [hconfig]
  have hcount : ((((w.after h .getPossibleSizes).after h .findExtCapability).config (h.rebarPos + pciRebarCtrl) &&&
      rebarCtrlNbarMask) >>> 5).toNat = barCount h.rebarPos w₀.config := by simp [hconfig, barCount]
  rw [Prog.wp_bind, wp_readConfigDword, Prog.wp_bind, hcount]
  refine (findBar1_wp hp₃ hconfig₃).mono fun r w₄ h₄ => ?_
  obtain ⟨rfl, hp₄, hconfig₄⟩ := h₄
  cases hentry : bar1Entry h.rebarPos w₀.config with
  | none =>
      refine (fail_wp hp₄ hok .entryNotFound).mono fun ret w' h' => ?_
      refine .of_unreached h'.1 (fun _ hr => ?_) h'.2.1 (h'.2.2.trans hconfig₄)
      obtain ⟨entry, hfound, -⟩ := hr.found
      rw [hentry] at hfound
      cases hfound
  | some entry => exact resizeEntry_wp hp₄ hconfig₄ (hreached entry hsize hpos hentry)

theorem programXve_wp (hlog : w.log = []) (hok : h.ioremapOk = true)
    (hreached : ∀ entry, h.unlocked selector w.xve .cfg &&& cfgField = newCfg selector (w.xve .cfg) &&& cfgField →
      h.possibleSizes &&& (1#64 <<< (selector + 6)) ≠ 0 → h.rebarPos ≠ 0 → bar1Entry h.rebarPos w.config = some entry →
      ReachesEntry h dev selector w (ctrlOffset h.rebarPos entry)) :
    (programXve dev selector).wp (RebarStep h) AnyOp (w.after h .ioremap) (ResizeOutcome h dev selector w) := by
  -- after the write of CFG, only reads follow before the check
  have hcheck : ∀ w₁, Programmed h selector w w₁ → w₁.config = w.config →
      (if ¬ w₁.xve .cfg &&& cfgField = newCfg selector (w.xve .cfg) &&& cfgField then do
        printMsg .xveReadbackFailed
        undoXve (w.xve .cfg) (w.xve .cya)
        return -eio
      else resizeBar1 dev selector (w.xve .cfg) (w.xve .cya)).wp (RebarStep h) AnyOp
        ((w₁.after h (.readl .cfg)).after h (.readl .cap)) (ResizeOutcome h dev selector w) := by
    intro w₁ hp hconfig
    have hp₁ := (hp.look (.readl .cfg) trivial).look (.readl .cap) trivial
    rw [Prog.wp_ite, hp.xve]
    refine ⟨fun hread => ?_, fun hread => ?_⟩
    · refine (fail_wp hp₁ hok .xveReadbackFailed).mono fun ret w' h' => ?_
      exact .of_unreached h'.1 (fun _ hr => hread hr.accepted) h'.2.1 (h'.2.2.trans (by simp [hconfig]))
    · exact resizeBar1_wp hp₁ (by simp [hconfig]) hok fun entry => hreached entry (Decidable.not_not.1 hread)
  simp only [programXve, Prog.wp_bind, wp_rebar_readl, wp_rebar_writel, rebar_after_xve, ne_eq, reduceCtorEq,
    not_false_eq_true, implies_true]
  apply hcheck
  · constructor <;> simp [RebarHost.unlocked, hlog]
  · simp

/-- An exit before the XVE is mapped. -/
theorem early_wp (hlog : w.log = []) {err : Int} (herr : err ≠ 0) (m : RebarMsg)
    (hunreached : ∀ offset, ¬ ReachesEntry h dev selector w offset) :
    (do printMsg m; return err : Rebar Int).wp (RebarStep h) AnyOp w (ResizeOutcome h dev selector w) := by
  simp only [Prog.wp_bind, wp_rebar_printMsg, Prog.wp_pure]
  refine .refused herr hunreached ⟨?_, ?_⟩
  · constructor <;> simp [hlog]
  · simp

theorem unlockBar1Resize_wp (hlog : w.log = []) :
    (unlockBar1Resize dev selector).wp (RebarStep h) AnyOp w (ResizeOutcome h dev selector w) := by
  rw [unlockBar1Resize, Prog.wp_ite]
  refine ⟨fun hidle => ?_, fun hidle => ?_⟩
  · exact .idle (by simpa using hidle)
  rw [Prog.wp_ite]
  simp only [Bool.or_eq_true, Bool.not_eq_true', beq_iff_eq, not_or, Bool.not_eq_false] at hidle
  refine ⟨fun hlarge => ?_, fun hlarge => ?_⟩
  · exact early_wp hlog (by decide) _ fun _ hr => absurd hr.selected.2 (BitVec.not_le.2 hlarge)
  rw [Prog.wp_ite]
  refine ⟨fun husable => ?_, fun husable => ?_⟩
  · refine early_wp hlog (by decide) _ fun _ hr => ?_
    simp only [hr.usable.1, Bool.not_true, Bool.false_or, decide_eq_true_eq] at husable
    exact absurd hr.usable.2 (Nat.not_le.2 husable)
  simp only [Bool.or_eq_true, Bool.not_eq_true', decide_eq_true_eq, not_or, Bool.not_eq_false, Nat.not_lt] at husable
  rw [Prog.wp_bind, wp_rebar_ioremap]
  cases hok : h.ioremapOk with
  | false =>
      have hunmapped : ∀ offset, ¬ ReachesEntry h dev selector w offset := fun _ hr => by
        simpa [hok] using hr.mapped
      rw [if_pos (by rfl)]
      simp only [Prog.wp_bind, wp_rebar_printMsg, Prog.wp_pure]
      refine .refused (by decide) hunmapped ⟨?_, ?_⟩
      · constructor <;> simp [hlog, hok]
      · simp
  | true =>
      refine programXve_wp hlog hok fun entry haccepted hpossible hpresent hfound => ?_
      exact ⟨hidle.1, ⟨hidle.2, BitVec.not_lt.1 hlarge⟩, husable, hok, haccepted, hpossible,
        hpresent, entry, hfound, rfl⟩

end

/-! ## Sizes -/

section
variable {h : RebarHost} {dev : RebarDev} {selector : BitVec 32} {w w' : RebarWorld} {offset : Nat}

theorem selector_cases {P : BitVec 32 → Prop} (hle : selector ≤ 8) (h : ∀ k ∈ List.range 9, P (BitVec.ofNat 32 k)) :
    P selector := by
  have hlt : selector.toNat < 9 := Nat.lt_succ_of_le (BitVec.le_def.1 hle)
  have hselector := h selector.toNat (List.mem_range.2 hlt)
  rwa [BitVec.ofNat_toNat, BitVec.setWidth_eq] at hselector

/-- The size fits into its field. -/
theorem size_in_field (wide : Bool) (hle : selector ≤ 8) :
    ((selector + 6) <<< 8) &&& ~~~rebarCtrlBarSize wide = 0 ∧ ((selector + 6) <<< 8) >>> 8 = selector + 6 := by
  apply selector_cases (P := fun s => ((s + 6) <<< 8) &&& ~~~rebarCtrlBarSize wide = 0 ∧
    ((s + 6) <<< 8) >>> 8 = s + 6) hle
  cases wide <;> decide

theorem barSize_withBarSize {wide : Bool} {v : BitVec 32} (hle : selector ≤ 8) :
    barSize wide (withBarSize wide v (selector + 6)) = selector + 6 := by
  rw [barSize, withBarSize, field_of_and_not_or (size_in_field wide hle).1, (size_in_field wide hle).2]

theorem withBarSize_others {wide : Bool} {v : BitVec 32} (hle : selector ≤ 8) :
    withBarSize wide v (selector + 6) &&& ~~~rebarCtrlBarSize wide = v &&& ~~~rebarCtrlBarSize wide :=
  and_not_or_outside (by rw [BitVec.and_not_self]) (size_in_field wide hle).1

/-- CFG is written with its field set, and nothing else changed. -/
theorem newCfg_eq (selector cfg : BitVec 32) :
    newCfg selector cfg = (cfg &&& ~~~cfgField) ||| (cfgEnable ||| selector) := by
  apply BitVec.eq_of_getLsbD_eq
  intro i hi
  simp only [newCfg, cfgField, BitVec.getLsbD_and, BitVec.getLsbD_or, BitVec.getLsbD_not, hi,
    decide_true, Bool.true_and]
  cases cfgEnable.getLsbD i <;> simp

theorem selector_in_field (hle : selector ≤ 8) : (cfgEnable ||| selector) &&& ~~~cfgField = 0 := by
  apply selector_cases (P := fun s => (cfgEnable ||| s) &&& ~~~cfgField = 0) hle
  decide

theorem newCfg_field {cfg : BitVec 32} (hle : selector ≤ 8) :
    newCfg selector cfg &&& cfgField = cfgEnable ||| selector := by
  rw [newCfg_eq, field_of_and_not_or (selector_in_field hle)]

theorem newCfg_others {cfg : BitVec 32} (hle : selector ≤ 8) :
    newCfg selector cfg &&& ~~~cfgField = cfg &&& ~~~cfgField := by
  rw [newCfg_eq]
  exact and_not_or_outside (by rw [BitVec.and_not_self]) (selector_in_field hle)

theorem possible_iff (hle : selector ≤ 8) (sizes : BitVec 64) :
    sizes &&& (1#64 <<< (selector + 6)) ≠ 0 ↔ sizes.getLsbD (selector.toNat + 6) = true := by
  have hplace : (selector + 6).toNat = selector.toNat + 6 := by bv_omega
  have hpower : 1#64 <<< (selector + 6) = BitVec.twoPow 64 (selector.toNat + 6) := by
    rw [BitVec.shiftLeft_eq', hplace, BitVec.twoPow]
  have hpower_ne : BitVec.twoPow 64 (selector.toNat + 6) ≠ 0 := fun hzero => by
    have hbit := congrArg (fun x => x.getLsbD (selector.toNat + 6)) hzero
    have hlt : selector.toNat + 6 < 64 := by bv_omega
    simp [hlt] at hbit
  rw [hpower, BitVec.and_twoPow]
  cases sizes.getLsbD (selector.toNat + 6) with
  | false => simp
  | true => simpa using hpower_ne

/-! ## The way to the entry -/

theorem ReachesEntry.unique {offset' : Nat} (hr : ReachesEntry h dev selector w offset)
    (hr' : ReachesEntry h dev selector w offset') : offset' = offset := by
  obtain ⟨entry, hfound, rfl⟩ := hr.found
  obtain ⟨entry', hfound', rfl⟩ := hr'.found
  rw [hfound] at hfound'
  cases hfound'
  rfl

/-- The entry takes all bits of the size if and only if it becomes what was written. -/
theorem sizeTaken_iff (hle : selector ≤ 8) : SizeTaken h dev selector w.config offset ↔
    h.rearmed dev selector w.config offset = withBarSize dev.wide (w.config offset) (selector + 6) := by
  have hothers := @withBarSize_others selector dev.wide (w.config offset) hle
  refine ⟨fun htaken => eq_of_field htaken ?_, fun heq => by rw [SizeTaken, heq]⟩
  rw [hothers]
  exact masked_and hothers

theorem ReachesEntry.not_idle (hr : ReachesEntry h dev selector w offset)
    (hidle : cmp50hxIsSupported dev.pci = false ∨ selector = 0) : False := by
  rcases hidle with hidle | hidle
  · rw [hr.supported] at hidle
    cases hidle
  · exact hr.selected.1 hidle

/-- A call that comes to its end has done what it should if the control entry is right. -/
theorem XveSet.resized (hset : XveSet h selector w w') (hr : ReachesEntry h dev selector w offset)
    (hsize : dev.bar1Len = 2 ^ (selector.toNat + 26) → barSize dev.wide (w'.config offset) = selector + 6)
    (hsame : dev.bar1Len ≠ 2 ^ (selector.toNat + 26) → w'.config offset = w.config offset)
    (hbits : w'.config offset &&& ~~~rebarCtrlBarSize dev.wide = w.config offset &&& ~~~rebarCtrlBarSize dev.wide)
    (hothers : ∀ offset', offset' ≠ offset → w'.config offset' = w.config offset') : Resized h dev selector w w' := by
  have hle := hr.selected.2
  have hcfg : w'.xve .cfg = h.unlocked selector w.xve .cfg := by rw [hset.xve]
  obtain ⟨entry, hfound, rfl⟩ := hr.found
  refine ⟨hr.selected, ?_, ?_, (possible_iff hle _).1 hr.possible, hset.command, hset.enable,
    entry, hfound, hsize, hsame, hbits, hothers⟩
  · rw [hcfg, hr.accepted, newCfg_field hle]
  · rw [hcfg, RebarHost.unlocked, Bank.write_same, Bank.write_ne (by decide)]
    exact masked_and (newCfg_others hle)

end

end Cmp50Unlock.KernelOpen
