import Cmp50Unlock.KernelOpen.Link
import Cmp50Unlock.Lib.Cost

/-!
# The retrain, step by step

The way to the first write reads the gate and the four control registers. What comes after it is looked at under one
aspect at a time: what it writes to LNKCTL2, what it writes to LNKCTL last, how often it asks, polls and unmaps.
-/

namespace Cmp50Unlock.KernelOpen

open Lib

section
variable {mask : Bank (LinkEnd × LinkReg) 16} {w : LinkWorld} {G : LinkWorld → RetrainOp → Prop}

theorem wp_link {o : RetrainOp} {Q : o.Ans → LinkWorld → Prop} :
    (Prog.lift o : Retrain o.Ans).wp (LinkStep mask) G w Q ↔
    G w o ∧ ∀ a, w.Admits o a → Q a (w.after mask o a) :=
  ⟨fun h => ⟨h.1, fun a ha => h.2 a _ ⟨ha, rfl⟩⟩, fun h => ⟨h.1, fun a _ hs => hs.2 ▸ h.2 a hs.1⟩⟩

/-- An operation that may be answered with anything. -/
theorem wp_link_any {o : RetrainOp} {Q : o.Ans → LinkWorld → Prop} (ho : ∀ a, w.Admits o a) :
    (Prog.lift o : Retrain o.Ans).wp (LinkStep mask) G w Q ↔ G w o ∧ ∀ a, Q a (w.after mask o a) :=
  wp_link.trans ⟨fun h => ⟨h.1, fun a => h.2 a (ho a)⟩, fun h => ⟨h.1, fun a _ => h.2 a⟩⟩

@[simp] theorem wp_pciUpstreamBridge {Q : Bool → LinkWorld → Prop} : pciUpstreamBridge.wp (LinkStep mask) G w Q ↔
    G w .pciUpstreamBridge ∧ ∀ a, Q a (w.after mask .pciUpstreamBridge a) :=
  wp_link_any fun _ => trivial

@[simp] theorem wp_ioremap {Q : Bool → LinkWorld → Prop} : ioremap.wp (LinkStep mask) G w Q ↔
    G w .ioremap ∧ ∀ a, Q a (w.after mask .ioremap a) :=
  wp_link_any fun _ => trivial

@[simp] theorem wp_iounmap {Q : Unit → LinkWorld → Prop} : iounmap.wp (LinkStep mask) G w Q ↔
    G w .iounmap ∧ Q () (w.after mask .iounmap ()) :=
  wp_link.trans ⟨fun h => ⟨h.1, h.2 () trivial⟩, fun h => ⟨h.1, fun _ _ => h.2⟩⟩

@[simp] theorem wp_readl {offset} {Q : BitVec 32 → LinkWorld → Prop} : (readl offset).wp (LinkStep mask) G w Q ↔
    G w (.readl offset) ∧ ∀ a, Q a (w.after mask (.readl offset) a) :=
  wp_link_any fun _ => trivial

@[simp] theorem wp_writel {v offset} {Q : Unit → LinkWorld → Prop} : (writel v offset).wp (LinkStep mask) G w Q ↔
    G w (.writel v offset) ∧ Q () (w.after mask (.writel v offset) ()) :=
  wp_link.trans ⟨fun h => ⟨h.1, h.2 () trivial⟩, fun h => ⟨h.1, fun _ _ => h.2⟩⟩

@[simp] theorem wp_capRead {e r} {Q : Int × BitVec 16 → LinkWorld → Prop} : (capRead e r).wp (LinkStep mask) G w Q ↔
    G w (.capRead e r) ∧ ∀ a, w.Admits (.capRead e r) a → Q a (w.after mask (.capRead e r) a) := wp_link

@[simp] theorem wp_capWrite {e r v} {Q : Int → LinkWorld → Prop} : (capWrite e r v).wp (LinkStep mask) G w Q ↔
    G w (.capWrite e r v) ∧ ∀ a, Q a (w.after mask (.capWrite e r v) a) :=
  wp_link_any fun _ => trivial

@[simp] theorem wp_msleep {ms} {Q : Unit → LinkWorld → Prop} : (msleep ms).wp (LinkStep mask) G w Q ↔
    G w (.msleep ms) ∧ Q () (w.after mask (.msleep ms) ()) :=
  wp_link.trans ⟨fun h => ⟨h.1, h.2 () trivial⟩, fun h => ⟨h.1, fun _ _ => h.2⟩⟩

@[simp] theorem wp_printMsg {m} {Q : Unit → LinkWorld → Prop} : (printMsg m).wp (LinkStep mask) G w Q ↔
    G w (.print m) ∧ Q () (w.after mask (.print m) ()) :=
  wp_link.trans ⟨fun h => ⟨h.1, h.2 () trivial⟩, fun h => ⟨h.1, fun _ _ => h.2⟩⟩

@[simp] theorem log_after {o : RetrainOp} {a : o.Ans} : (w.after mask o a).log = ⟨o, a⟩ :: w.log := rfl

end

/-! ## Counts -/

/-- The operation is no poll, has no part in LNKCTL and does not map or unmap the BAR. -/
def RetrainOp.IsQuiet : RetrainOp → Prop
  | .ioremap | .iounmap | .capRead _ .lnksta | .capWrite _ .lnkctl _ => False
  | _ => True

/-- A request of both ends counts at most `a`, a poll of both at most `b`, unmapping the BAR `k`; the other operations,
and the writes of `g` and `u`, do not count. -/
structure Weights (c : (o : RetrainOp) → o.Ans → Nat) (g u : BitVec 16) (a b k : Nat) : Prop where
  quiet : ∀ o x, o.IsQuiet → c o x = 0
  restoreGpu : ∀ x, c (.capWrite .gpu .lnkctl g) x = 0
  restoreUpstream : ∀ x, c (.capWrite .upstream .lnkctl u) x = 0
  request : ∀ v v' x x', c (.capWrite .gpu .lnkctl v) x + c (.capWrite .upstream .lnkctl v') x' ≤ a
  poll : ∀ x x', c (.capRead .gpu .lnksta) x + c (.capRead .upstream .lnksta) x' ≤ b
  unmap : ∀ x, c .iounmap x = k

section
variable {c : (o : RetrainOp) → o.Ans → Nat} {g u g2 u2 : BitVec 16} {a b k : Nat} (h : Weights c g u a b k)

include h

theorem Weights.print {m : RetrainMsg} {Q : Unit → Nat → Prop} : (printMsg m).Counts c Q ↔ Q () 0 := by
  rw [printMsg, Prog.counts_lift]
  exact ⟨fun hq => h.quiet (.print m) () trivial ▸ hq (), fun hq _ => (h.quiet (.print m) () trivial).symm ▸ hq⟩

theorem Weights.sleep {ms : Nat} {Q : Unit → Nat → Prop} : (msleep ms).Counts c Q ↔ Q () 0 := by
  rw [msleep, Prog.counts_lift]
  exact ⟨fun hq => h.quiet (.msleep ms) () trivial ▸ hq (), fun hq _ => (h.quiet (.msleep ms) () trivial).symm ▸ hq⟩

theorem Weights.restoreCtl : (restoreCtl g u).Counts c fun _ n => n = 0 := by
  simp [KernelOpen.restoreCtl, capWrite, Prog.counts_lift, h.restoreGpu, h.restoreUpstream]

theorem Weights.requestRetrain : (requestRetrain g u).Counts c fun _ n => n ≤ a := by
  simp only [KernelOpen.requestRetrain, capWrite, Prog.counts_bind, Prog.counts_lift, Prog.counts_ite, Prog.counts_pure,
    h.sleep]
  intro x
  have hrequest := h.request (g ||| lnkctlRl) (u ||| lnkctlRl) x
  refine ⟨fun _ => ?_, fun _ x' => ?_⟩
  · have := hrequest 0
    omega
  · have := hrequest x'
    omega

theorem Weights.pollStatus (i : Nat) : (pollStatus g u i).Counts c fun _ n => n ≤ b := by
  simp only [KernelOpen.pollStatus, capRead, capWrite, Prog.counts_bind, Prog.counts_lift, Prog.counts_ite,
    Prog.counts_pure, h.sleep, h.print, h.restoreGpu, h.restoreUpstream]
  intro x x'
  have hpoll := h.poll x x'
  exact ⟨fun _ _ _ => by omega, fun _ => by omega⟩

theorem Weights.polls : (Prog.each (KernelOpen.pollStatus g u) (List.range 200)).Counts c fun _ n => n ≤ b * 200 := by
  have hpolls := Prog.counts_each h.pollStatus (List.range 200)
  rwa [List.length_range] at hpolls

theorem Weights.retrainTwice : (retrainTwice g u).Counts c fun _ n => n ≤ 2 * a + 400 * b := by
  rw [KernelOpen.retrainTwice, Prog.counts_bind]
  refine h.requestRetrain.mono fun ok n₁ hn₁ => ?_
  rw [Prog.counts_ite]
  refine ⟨fun _ => h.restoreCtl.mono fun _ n hn => by omega, fun _ => ?_⟩
  rw [Prog.counts_bind]
  refine h.polls.mono fun r n₂ hn₂ => ?_
  cases r with
  | some r =>
      rw [Prog.counts_pure]
      omega
  | none =>
      simp only [Prog.counts_bind, h.print, h.sleep]
      refine h.requestRetrain.mono fun ok n₃ hn₃ => ?_
      rw [Prog.counts_ite]
      refine ⟨fun _ => h.restoreCtl.mono fun _ n hn => by omega, fun _ => ?_⟩
      rw [Prog.counts_bind]
      refine h.polls.mono fun r n₄ hn₄ => ?_
      cases r with
      | some r =>
          rw [Prog.counts_pure]
          omega
      | none =>
          simp only [Prog.counts_bind, h.print]
          exact h.restoreCtl.mono fun _ n hn => by omega

theorem Weights.programTargets : (programTargets g2 u2).Counts c fun _ n => n = 0 := by
  have hwrite : ∀ e v x, c (.capWrite e .lnkctl2 v) x = 0 := fun e v x => h.quiet _ x trivial
  have hread : ∀ e x, c (.capRead e .lnkctl2) x = 0 := fun e x => h.quiet _ x trivial
  simp [KernelOpen.programTargets, capWrite, capRead, Prog.counts_lift, h.print, hwrite, hread]

theorem Weights.retrainWith : (retrainWith g g2 u u2).Counts c fun _ n => k ≤ n ∧ n ≤ k + (2 * a + 400 * b) := by
  have hwritel : ∀ v offset x, c (.writel v offset) x = 0 := fun v offset x => h.quiet _ x trivial
  have hreadl : ∀ offset x, c (.readl offset) x = 0 := fun offset x => h.quiet _ x trivial
  rw [KernelOpen.retrainWith, Prog.counts_bind]
  refine h.programTargets.mono fun ok n hn => ?_
  subst hn
  rw [Prog.counts_ite]
  refine ⟨fun _ => ?_, fun _ => ?_⟩
  · simp [restoreCtlUnmap, capabilityErrorUnmap, capWrite, iounmap, Prog.counts_lift, h.print, h.restoreGpu,
      h.restoreUpstream, h.unmap]
  · simp only [writel, readl, iounmap, Prog.counts_bind, Prog.counts_lift, h.sleep, hwritel, hreadl, h.unmap]
    intro _ _ _
    exact h.retrainTwice.mono fun _ n hn => ⟨by omega, by omega⟩

end

section
variable {g u : BitVec 16} (hg : g &&& lnkctlRl = 0) (hu : u &&& lnkctlRl = 0)

include hg hu in
theorem weights_asksRetrain (e : LinkEnd) : Weights (asksRetrain e) g u 1 0 0 where
  quiet o x ho := by
    unfold asksRetrain
    split
    · exact ho.elim
    · rfl
  restoreGpu _ := by simp [asksRetrain, hg]
  restoreUpstream _ := by simp [asksRetrain, hu]
  request _ _ _ _ := by
    simp only [asksRetrain]
    cases e <;> simp <;> split <;> omega
  poll _ _ := Nat.zero_le _
  unmap _ := rfl

theorem weights_pollsStatus (e : LinkEnd) : Weights (pollsStatus e) g u 0 1 0 where
  quiet o x ho := by
    unfold pollsStatus
    split
    · exact ho.elim
    · rfl
  restoreGpu _ := rfl
  restoreUpstream _ := rfl
  request _ _ _ _ := Nat.zero_le _
  poll _ _ := by cases e <;> simp [pollsStatus]
  unmap _ := rfl

theorem weights_unmapsBar : Weights unmapsBar g u 0 0 1 where
  quiet o x ho := by
    unfold unmapsBar
    split
    · exact ho.elim
    · rfl
  restoreGpu _ := rfl
  restoreUpstream _ := rfl
  request _ _ _ _ := Nat.zero_le _
  poll _ _ := Nat.zero_le _
  unmap _ := rfl

theorem weights_mapsBar : Weights mapsBar g u 0 0 0 where
  quiet o x ho := by
    unfold mapsBar
    split
    · exact ho.elim
    · rfl
  restoreGpu _ := rfl
  restoreUpstream _ := rfl
  request _ _ _ _ := Nat.zero_le _
  poll _ _ := Nat.zero_le _
  unmap _ := rfl

end

/-- What an execution adds to the tally of its log. -/
theorem Weights.exec {c : (o : RetrainOp) → o.Ans → Nat} {g u g2 u2 : BitVec 16} {a b k : Nat} (h : Weights c g u a b k)
    {mask : Bank (LinkEnd × LinkReg) 16} {w w' : LinkWorld}
    (he : (KernelOpen.retrainWith g g2 u u2).Exec (LinkStep mask) w () w') :
    tally c w.log + k ≤ tally c w'.log ∧ tally c w'.log ≤ tally c w.log + (k + (2 * a + 400 * b)) := by
  have hstep : ∀ o w x w', LinkStep mask o w x w' → tally c w'.log = tally c w.log + c o x := by
    rintro o w x w' ⟨-, rfl⟩
    rfl
  obtain ⟨n, hn, hlow, hhigh⟩ := h.retrainWith.exec (m := fun w : LinkWorld => tally c w.log) hstep he
  constructor <;> omega

/-! ## The last writes -/

/-- A pass is logged only after a poll that showed the speed. -/
def PassGuard (w : LinkWorld) : RetrainOp → Prop
  | .print .retrainPass => ∃ status, lastStatus w.log = some (0, status) ∧ lnkstaCls50gb ≤ status &&& lnkstaCls
  | _ => True

/-- The last writes of LNKCTL were those of `g` and `u`. -/
def Restored (g u : BitVec 16) (w : LinkWorld) : Prop :=
  (∃ ok, lastWrite .gpu .lnkctl w.log = some (g, ok)) ∧ ∃ ok, lastWrite .upstream .lnkctl w.log = some (u, ok)

section
variable {mask : Bank (LinkEnd × LinkReg) 16} {g u g2 u2 : BitVec 16} {w : LinkWorld}

theorem restoreCtl_restores : (restoreCtl g u).wp (LinkStep mask) PassGuard w fun _ => Restored g u := by
  simp only [restoreCtl, Prog.wp_bind, wp_capWrite]
  exact ⟨trivial, fun _ => ⟨trivial, fun _ => ⟨⟨_, rfl⟩, ⟨_, rfl⟩⟩⟩⟩

theorem restoreCtlUnmap_restores : (restoreCtlUnmap g u).wp (LinkStep mask) PassGuard w fun _ => Restored g u := by
  simp only [restoreCtlUnmap, capabilityErrorUnmap, Prog.wp_bind, wp_capWrite, wp_iounmap, wp_printMsg]
  exact ⟨trivial, fun _ => ⟨trivial, fun _ => ⟨trivial, trivial, ⟨_, rfl⟩, ⟨_, rfl⟩⟩⟩⟩

theorem requestRetrain_passGuard : (requestRetrain g u).wp (LinkStep mask) PassGuard w fun _ _ => True := by
  simp [requestRetrain, PassGuard]

theorem programTargets_passGuard : (programTargets g2 u2).wp (LinkStep mask) PassGuard w fun _ _ => True := by
  simp [programTargets, PassGuard]

theorem pollStatus_restores (i : Nat) : (pollStatus g u i).wp (LinkStep mask) PassGuard w fun r w' =>
    r.elim True fun _ => Restored g u w' := by
  simp only [pollStatus, Prog.wp_bind, wp_msleep, wp_capRead, Prog.wp_ite, wp_printMsg, wp_capWrite, Prog.wp_pure]
  refine ⟨trivial, trivial, fun status _ => ⟨trivial, fun status' _ => ⟨fun hpass => ?_, fun _ => trivial⟩⟩⟩
  obtain ⟨hret, hspeed⟩ := hpass
  refine ⟨⟨status.2, ?_, hspeed⟩, trivial, fun _ => ⟨trivial, fun _ => ?_⟩⟩
  · simp [lastStatus, ← hret]
  · simp [Restored, lastWrite]

theorem polls_restore : (Prog.each (pollStatus g u) (List.range 200)).wp (LinkStep mask) PassGuard w fun r w' =>
    r.elim True fun _ => Restored g u w' :=
  Prog.wp_each (I := fun _ => True) (fun i _ _ _ => pollStatus_restores i) trivial

theorem retrainTwice_restores : (retrainTwice g u).wp (LinkStep mask) PassGuard w fun _ => Restored g u := by
  rw [retrainTwice, Prog.wp_bind]
  refine requestRetrain_passGuard.mono fun ok w₁ _ => ?_
  rw [Prog.wp_ite]
  refine ⟨fun _ => restoreCtl_restores, fun _ => ?_⟩
  rw [Prog.wp_bind]
  refine polls_restore.mono fun r w₂ h₂ => ?_
  cases r with
  | some r => exact h₂
  | none =>
      simp only [Prog.wp_bind, wp_printMsg, wp_msleep]
      refine ⟨trivial, trivial, requestRetrain_passGuard.mono fun ok w₃ _ => ?_⟩
      rw [Prog.wp_ite]
      refine ⟨fun _ => restoreCtl_restores, fun _ => ?_⟩
      rw [Prog.wp_bind]
      refine polls_restore.mono fun r w₄ h₄ => ?_
      cases r with
      | some r => exact h₄
      | none =>
          simp only [Prog.wp_bind, wp_printMsg]
          exact ⟨trivial, restoreCtl_restores⟩

theorem retrainWith_restores : (retrainWith g g2 u u2).wp (LinkStep mask) PassGuard w fun _ => Restored g u := by
  rw [retrainWith, Prog.wp_bind]
  refine programTargets_passGuard.mono fun ok w₁ _ => ?_
  rw [Prog.wp_ite]
  refine ⟨fun _ => restoreCtlUnmap_restores, fun _ => ?_⟩
  simp only [Prog.wp_bind, wp_writel, wp_readl, wp_iounmap, wp_msleep]
  exact ⟨trivial, trivial, fun _ => ⟨trivial, trivial, retrainTwice_restores⟩⟩

end

/-! ## The target speed -/

/-- LNKCTL2 is written with the target speed set and nothing else changed. -/
def RetrainOp.SetsTarget (ctl2 : LinkEnd → BitVec 16) : RetrainOp → Prop
  | .capWrite e .lnkctl2 v => v = targetSpeed (ctl2 e)
  | _ => True

section
variable {S : RetrainOp → Prop}

@[simp] theorem within_iounmap {Q : Unit → Prop} : iounmap.Within S Q ↔ S .iounmap ∧ Q () :=
  ⟨fun h => ⟨h.1, h.2 ()⟩, fun h => ⟨h.1, fun _ => h.2⟩⟩

@[simp] theorem within_readl {offset} {Q : BitVec 32 → Prop} :
    (readl offset).Within S Q ↔ S (.readl offset) ∧ ∀ a, Q a := Prog.within_lift

@[simp] theorem within_writel {v offset} {Q : Unit → Prop} :
    (writel v offset).Within S Q ↔ S (.writel v offset) ∧ Q () :=
  ⟨fun h => ⟨h.1, h.2 ()⟩, fun h => ⟨h.1, fun _ => h.2⟩⟩

@[simp] theorem within_capRead {e r} {Q : Int × BitVec 16 → Prop} :
    (capRead e r).Within S Q ↔ S (.capRead e r) ∧ ∀ a, Q a := Prog.within_lift

@[simp] theorem within_capWrite {e r v} {Q : Int → Prop} :
    (capWrite e r v).Within S Q ↔ S (.capWrite e r v) ∧ ∀ a, Q a := Prog.within_lift

@[simp] theorem within_msleep {ms} {Q : Unit → Prop} : (msleep ms).Within S Q ↔ S (.msleep ms) ∧ Q () :=
  ⟨fun h => ⟨h.1, h.2 ()⟩, fun h => ⟨h.1, fun _ => h.2⟩⟩

@[simp] theorem within_printMsg {m} {Q : Unit → Prop} : (printMsg m).Within S Q ↔ S (.print m) ∧ Q () :=
  ⟨fun h => ⟨h.1, h.2 ()⟩, fun h => ⟨h.1, fun _ => h.2⟩⟩

end

section
variable {ctl2 : LinkEnd → BitVec 16} {g u : BitVec 16}

theorem restoreCtl_setsTarget : (restoreCtl g u).Uses (RetrainOp.SetsTarget ctl2) := by
  simp [restoreCtl, Prog.Uses, RetrainOp.SetsTarget]

theorem restoreCtlUnmap_setsTarget : (restoreCtlUnmap g u).Uses (RetrainOp.SetsTarget ctl2) := by
  simp [restoreCtlUnmap, capabilityErrorUnmap, Prog.Uses, RetrainOp.SetsTarget]

theorem programTargets_setsTarget :
    (programTargets (ctl2 .gpu) (ctl2 .upstream)).Uses (RetrainOp.SetsTarget ctl2) := by
  simp [programTargets, Prog.Uses, RetrainOp.SetsTarget]

theorem requestRetrain_setsTarget : (requestRetrain g u).Uses (RetrainOp.SetsTarget ctl2) := by
  simp [requestRetrain, Prog.Uses, RetrainOp.SetsTarget]

theorem polls_setsTarget : (Prog.each (pollStatus g u) (List.range 200)).Uses (RetrainOp.SetsTarget ctl2) := by
  refine Prog.uses_each fun i _ => ?_
  simp [pollStatus, Prog.Uses, RetrainOp.SetsTarget]

theorem retrainTwice_setsTarget : (retrainTwice g u).Uses (RetrainOp.SetsTarget ctl2) := by
  rw [retrainTwice, Prog.Uses, Prog.within_bind]
  refine requestRetrain_setsTarget.within fun ok => ?_
  rw [Prog.within_ite]
  refine ⟨fun _ => restoreCtl_setsTarget, fun _ => ?_⟩
  rw [Prog.within_bind]
  refine polls_setsTarget.within fun r => ?_
  cases r with
  | some r => trivial
  | none =>
      simp only [Prog.within_bind, within_printMsg, within_msleep]
      refine ⟨trivial, trivial, requestRetrain_setsTarget.within fun ok => ?_⟩
      rw [Prog.within_ite]
      refine ⟨fun _ => restoreCtl_setsTarget, fun _ => ?_⟩
      rw [Prog.within_bind]
      refine polls_setsTarget.within fun r => ?_
      cases r with
      | some r => trivial
      | none =>
          simp only [Prog.within_bind, within_printMsg]
          exact ⟨trivial, restoreCtl_setsTarget⟩

theorem retrainWith_setsTarget :
    (retrainWith g (ctl2 .gpu) u (ctl2 .upstream)).Uses (RetrainOp.SetsTarget ctl2) := by
  rw [retrainWith, Prog.Uses, Prog.within_bind]
  refine programTargets_setsTarget.within fun ok => ?_
  rw [Prog.within_ite]
  refine ⟨fun _ => restoreCtlUnmap_setsTarget, fun _ => ?_⟩
  simp only [Prog.within_bind, within_writel, within_readl, within_iounmap, within_msleep]
  exact ⟨trivial, trivial, fun _ => ⟨trivial, trivial, retrainTwice_setsTarget⟩⟩

end

/-! ## The first write -/

/-- A capability is written only after the way to the first write. -/
def EnterGuard (w : LinkWorld) : RetrainOp → Prop
  | .capWrite .. => Entered w.log
  | _ => True

section
variable {mask : Bank (LinkEnd × LinkReg) 16} {g u g2 u2 : BitVec 16} {w : LinkWorld}

theorem Entered.cons {log : List RetrainEvent} (h : Entered log) {e : RetrainEvent} (hw : ¬ NoWrite (e :: log)) :
    Entered (e :: log) := by
  obtain ⟨cya0, config, rate, hgate, h₁, h₂, h₃⟩ := h.gate
  refine ⟨⟨cya0, config, rate, hgate, .tail _ h₁, .tail _ h₂, .tail _ h₃⟩, fun e' r hr => ?_, fun hn => absurd hn hw⟩
  obtain ⟨v, hv⟩ := h.read e' r hr
  exact ⟨v, .tail _ hv⟩

theorem NoWrite.of_cons {log : List RetrainEvent} {e : RetrainEvent} (h : NoWrite (e :: log)) : NoWrite log :=
  fun e' r v ret hmem => h e' r v ret (.tail _ hmem)

/-- After the first write, everything is allowed. -/
theorem entered_frame {α : Type} (p : Retrain α) (h : Entered w.log ∧ ¬ NoWrite w.log) :
    p.wp (LinkStep mask) EnterGuard w fun _ w' => Entered w'.log ∧ ¬ NoWrite w'.log := by
  refine ((Prog.uses_true p).wp (I := fun w => Entered w.log ∧ ¬ NoWrite w.log) ?_ ?_ h).mono fun _ _ h => h.2
  · rintro o w a w' - ⟨-, rfl⟩ ⟨he, hw⟩
    have hwrote : ¬ NoWrite (w.after mask o a).log := fun hn => hw hn.of_cons
    exact ⟨he.cons hwrote, hwrote⟩
  · intro o w _ h
    unfold EnterGuard
    split
    · exact h.1
    · trivial

theorem retrainWith_entered (h : Entered w.log) :
    (retrainWith g g2 u u2).wp (LinkStep mask) EnterGuard w fun _ _ => True := by
  have hfirst : ∀ v ret, Entered (w.after mask (.capWrite .gpu .lnkctl2 v) ret).log ∧
      ¬ NoWrite (w.after mask (.capWrite .gpu .lnkctl2 v) ret).log := by
    intro v ret
    have hwrote : ¬ NoWrite (w.after mask (.capWrite .gpu .lnkctl2 v) ret).log :=
      fun hn => hn .gpu .lnkctl2 v ret (.head _)
    exact ⟨h.cons hwrote, hwrote⟩
  rw [retrainWith, Prog.wp_bind, programTargets, Prog.wp_bind, wp_capWrite]
  refine ⟨h, fun ret => ?_⟩
  refine (entered_frame _ (hfirst _ ret)).mono fun ok w₁ h₁ => ?_
  exact (entered_frame _ h₁).mono fun _ _ _ => trivial

end

end Cmp50Unlock.KernelOpen
