import Cmp50Unlock.KernelOpen.Lemmas.Retrain

/-!
# What a retrain leaves

The log determines the registers: each holds what it held on entry, or what the last successful write left there.
-/

namespace Cmp50Unlock.KernelOpen

open Lib

/-! ## Registers and log -/

/-- Each register holds what it held on entry, or what the last successful write left there. -/
def Coherent (mask : Bank (LinkEnd × LinkReg) 16) (entry w : LinkWorld) : Prop :=
  ∀ e r, w.regs (e, r) = (lastWritten e r w.log).elim (entry.regs (e, r)) (masked (mask (e, r)) (entry.regs (e, r)))

section
variable {mask : Bank (LinkEnd × LinkReg) 16} {entry w w' : LinkWorld} {e : LinkEnd} {r : LinkReg}
  {log : List RetrainEvent}

theorem Coherent.step {o : RetrainOp} {a : o.Ans} (h : Coherent mask entry w) (hs : LinkStep mask o w a w') :
    Coherent mask entry w' := by
  obtain ⟨-, rfl⟩ := hs
  intro e r
  cases o with
  | capWrite e' r' v =>
      simp only [LinkWorld.after, linkAfter, lastWritten]
      by_cases hret : a = 0
      · by_cases hreg : e' = e ∧ r' = r
        · obtain ⟨rfl, rfl⟩ := hreg
          rw [if_pos hret, if_pos ⟨⟨rfl, rfl⟩, hret⟩, Bank.write_same, h e' r']
          cases lastWritten e' r' w.log with
          | none => rfl
          | some v' => exact masked_masked
        · have hne : (e, r) ≠ (e', r') := fun heq => hreg (by simpa [eq_comm] using heq)
          rw [if_pos hret, if_neg (fun h => hreg h.1), Bank.write_ne hne]
          exact h e r
      · rw [if_neg hret, if_neg (fun h => hret h.2)]
        exact h e r
  | _ => exact h e r

theorem lastWritten_of_lastWrite {v : BitVec 16} (h : lastWrite e r log = some (v, true)) :
    lastWritten e r log = some v := by
  induction log with
  | nil => cases h
  | cons event log ih =>
      obtain ⟨o, a⟩ := event
      cases o with
      | capWrite e' r' v' =>
          simp only [lastWrite] at h
          simp only [lastWritten]
          by_cases hreg : e' = e ∧ r' = r
          · rw [if_pos hreg] at h
            simp only [Option.some.injEq, Prod.mk.injEq, beq_iff_eq] at h
            rw [if_pos ⟨hreg, h.2⟩, h.1]
          · rw [if_neg hreg] at h
            rw [if_neg (fun h => hreg h.1)]
            exact ih h
      | _ => exact ih h

theorem NoWrite.lastWrite (h : NoWrite log) : KernelOpen.lastWrite e r log = none := by
  induction log with
  | nil => rfl
  | cons event log ih =>
      obtain ⟨o, a⟩ := event
      cases o with
      | capWrite e' r' v => exact absurd (.head _) (h e' r' v a)
      | _ => exact ih h.of_cons

theorem NoWrite.lastWritten (h : NoWrite log) : KernelOpen.lastWritten e r log = none := by
  induction log with
  | nil => rfl
  | cons event log ih =>
      obtain ⟨o, a⟩ := event
      cases o with
      | capWrite e' r' v => exact absurd (.head _) (h e' r' v a)
      | _ => exact ih h.of_cons

theorem lastWritten_eq_none_iff : lastWritten e r log = none ↔ ∀ v, ⟨.capWrite e r v, (0 : Int)⟩ ∉ log := by
  induction log with
  | nil => simp [lastWritten]
  | cons event log ih =>
      obtain ⟨o, a⟩ := event
      cases o with
      | capWrite e' r' v =>
          simp only [lastWritten]
          by_cases hwrite : (e' = e ∧ r' = r) ∧ a = 0
          · rw [if_pos hwrite]
            obtain ⟨⟨rfl, rfl⟩, rfl⟩ := hwrite
            exact iff_of_false (Option.some_ne_none v) fun h => h v (.head _)
          · rw [if_neg hwrite, ih]
            refine forall_congr' fun v' => not_congr ?_
            simp only [List.mem_cons, Sigma.mk.injEq, RetrainOp.capWrite.injEq]
            refine (or_iff_right ?_).symm
            rintro ⟨⟨he, hr, -⟩, ha⟩
            exact hwrite ⟨⟨he.symm, hr.symm⟩, (eq_of_heq ha).symm⟩
      | _ => simpa [lastWritten] using ih

/-- Writing back what was read shows it again. -/
theorem shown_masked (m v : BitVec 16) (r : LinkReg) : shown (masked m v (shown v r)) r = shown v r := by
  cases r with
  | lnkctl =>
      have hread : (v &&& ~~~lnkctlRl) &&& ~~~lnkctlRl = v &&& ~~~lnkctlRl := by
        rw [BitVec.and_assoc, BitVec.and_self]
      exact masked_and hread
  | _ => exact masked_self

theorem shown_rl (v : BitVec 16) : shown v .lnkctl &&& lnkctlRl = 0 := by
  rw [shown, BitVec.and_assoc, show ~~~lnkctlRl &&& lnkctlRl = 0#16 by decide]
  exact BitVec.and_zero

/-! ## LNKCTL2 -/

/-- LNKCTL2 was written with the target speed only. -/
def TargetsOnly (entry w : LinkWorld) : Prop :=
  ∀ e v, lastWritten e .lnkctl2 w.log = some v → v = targetSpeed (entry.reads e .lnkctl2)

theorem TargetsOnly.step {o : RetrainOp} {a : o.Ans} (h : TargetsOnly entry w)
    (ho : o.SetsTarget fun e => entry.reads e .lnkctl2) (hs : LinkStep mask o w a w') : TargetsOnly entry w' := by
  obtain ⟨-, rfl⟩ := hs
  intro e v hv
  cases o with
  | capWrite e' r' v' =>
      simp only [log_after, lastWritten] at hv
      split at hv
      · next hreg =>
        obtain ⟨⟨rfl, rfl⟩, -⟩ := hreg
        cases hv
        exact ho
      · exact h e v hv
  | _ => exact h e v hv

/-- LNKCTL2 is as on entry if it was not written, or had the target speed already. -/
theorem Coherent.target_iff (h : Coherent mask entry w) (ht : TargetsOnly entry w) :
    w.regs (e, .lnkctl2) = entry.regs (e, .lnkctl2) ↔ (TargetWritten e w.log → AtTarget mask entry.regs e) := by
  have hnone := @lastWritten_eq_none_iff e .lnkctl2 w.log
  rw [h e .lnkctl2]
  cases hv : lastWritten e .lnkctl2 w.log with
  | none =>
      have hunwritten : ¬ TargetWritten e w.log := fun ⟨v, hmem⟩ => hnone.1 hv v hmem
      exact iff_of_true rfl fun hwritten => absurd hwritten hunwritten
  | some v =>
      have hwritten : TargetWritten e w.log := by
        by_contra hunwritten
        rw [hnone.2 fun v hmem => hunwritten ⟨v, hmem⟩] at hv
        cases hv
      rw [ht e v hv]
      exact (masked_field_eq_self_iff (by decide)).trans ⟨fun hat _ => hat, fun hat => hat hwritten⟩

theorem Coherent.speed (h : Coherent mask entry w) (ht : TargetsOnly entry w) : OnlySpeedDiffers entry w := by
  intro e
  rw [h e .lnkctl2]
  cases hv : lastWritten e .lnkctl2 w.log with
  | none => rfl
  | some v =>
      rw [ht e v hv]
      exact masked_and (and_not_or_outside (by decide) (by decide))

end

/-! ## The way to the first write -/

/-- Nothing was written and nothing polled so far; the BAR was mapped `m` times and unmapped `u` times. -/
structure Untouched (entry w : LinkWorld) (m u : Nat) : Prop where
  regs : w.regs = entry.regs
  writes : NoWrite w.log
  requests : ∀ e, tally (asksRetrain e) w.log = 0
  polls : ∀ e, tally (pollsStatus e) w.log = 0
  mapped : tally mapsBar w.log = m
  unmapped : tally unmapsBar w.log = u

/-- The operation writes no capability, does not poll and reports no pass. -/
def RetrainOp.Looks : RetrainOp → Prop
  | .capWrite .. | .capRead _ .lnksta | .print .retrainPass => False
  | _ => True

section
variable {mask : Bank (LinkEnd × LinkReg) 16} {entry w : LinkWorld} {m u : Nat}

theorem Untouched.look (h : Untouched entry w m u) (mask : Bank (LinkEnd × LinkReg) 16) (o : RetrainOp) (a : o.Ans)
    (ho : o.Looks) : Untouched entry (w.after mask o a) (m + mapsBar o a) (u + unmapsBar o a) where
  regs := by
    cases o with
    | capWrite e r v => exact ho.elim
    | _ => exact h.regs
  writes e r v ret hmem := by
    rcases List.mem_cons.1 hmem with heq | hmem
    · obtain ⟨rfl, -⟩ := Sigma.mk.inj heq
      exact ho
    · exact h.writes e r v ret hmem
  requests e := by
    cases o with
    | capWrite e r v => exact ho.elim
    | _ => exact h.requests e
  polls e := by
    cases o with
    | capRead e' r =>
        cases r with
        | lnksta => exact ho.elim
        | _ => exact h.polls e
    | _ => exact h.polls e
  mapped := congrArg (· + mapsBar o a) h.mapped
  unmapped := congrArg (· + unmapsBar o a) h.unmapped

theorem Untouched.speed (h : Untouched entry w m u) : OnlySpeedDiffers entry w := fun e => by rw [h.regs]

theorem Untouched.coherent (h : Untouched entry w m u) : Coherent mask entry w := fun e r => by
  rw [h.regs, h.writes.lastWritten]
  rfl

theorem Untouched.targets (h : Untouched entry w m u) : TargetsOnly entry w := fun e v hv => by
  simp [h.writes.lastWritten] at hv

/-- What a retrain leaves, and how the log determines it. -/
structure Tracked (mask : Bank (LinkEnd × LinkReg) 16) (entry w : LinkWorld) : Prop extends LinkKept entry w where
  coherent : Coherent mask entry w
  targets : TargetsOnly entry w

theorem Untouched.tracked (h : Untouched entry w m m) (hm : m ≤ 1) : Tracked mask entry w where
  requests e := by simp [h.requests e]
  polls e := by simp [h.polls e]
  mapped := h.mapped ▸ hm
  unmapped := h.unmapped.trans h.mapped.symm
  control e _ := by rw [LinkWorld.reads, LinkWorld.reads, h.regs]
  restores e v ok hv := by simp [h.writes.lastWrite] at hv
  speed := h.speed
  coherent := h.coherent
  targets := h.targets

/-- What holds at every operation. -/
def Guarded (entry w : LinkWorld) (o : RetrainOp) : Prop := o.Allowed w ∧ OnlySpeedDiffers entry w

theorem Untouched.guarded {o : RetrainOp} (h : Untouched entry w m u) (ho : o.Looks) : Guarded entry w o := by
  refine ⟨?_, h.speed⟩
  cases o with
  | capWrite e r v => exact ho.elim
  | print m =>
      cases m with
      | retrainPass => exact ho.elim
      | _ => trivial
  | _ => trivial

theorem capabilityErrorUnmap_tracked (h : Untouched entry w 1 0) :
    capabilityErrorUnmap.wp (LinkStep mask) (Guarded entry) w fun _ => Tracked mask entry := by
  simp only [capabilityErrorUnmap, Prog.wp_bind, wp_iounmap, wp_printMsg]
  have h₁ := h.look mask .iounmap () trivial
  have h₂ := h₁.look mask (.print .pciCapabilityError) () trivial
  exact ⟨h.guarded trivial, h₁.guarded trivial, h₂.tracked (Nat.le_refl 1)⟩

/-- The gate was accepted, and no capability was read so far. -/
structure Gated (entry w : LinkWorld) : Prop extends Untouched entry w 1 0 where
  gate : GateRead w.log
  unread : ∀ e r a, ⟨.capRead e r, a⟩ ∉ w.log

theorem readLink_tracked (h : Gated entry w)
    (hwith : ∀ w', Untouched entry w' 1 0 → Entered w'.log →
      (retrainWith (entry.reads .gpu .lnkctl) (entry.reads .gpu .lnkctl2) (entry.reads .upstream .lnkctl)
        (entry.reads .upstream .lnkctl2)).wp (LinkStep mask) (Guarded entry) w' fun _ => Tracked mask entry) :
    readLink.wp (LinkStep mask) (Guarded entry) w fun _ => Tracked mask entry := by
  simp only [readLink, Prog.wp_bind, wp_capRead, Prog.wp_ite]
  refine ⟨h.guarded trivial, fun read₁ hv₁ => ?_⟩
  obtain ⟨ret₁, v₁⟩ := read₁
  have h₁ := h.look mask (.capRead .gpu .lnkctl) (ret₁, v₁) trivial
  refine ⟨fun _ => capabilityErrorUnmap_tracked h₁, fun hret₁ => ⟨h₁.guarded trivial, fun read₂ hv₂ => ?_⟩⟩
  obtain ⟨ret₂, v₂⟩ := read₂
  have h₂ := h₁.look mask (.capRead .gpu .lnkctl2) (ret₂, v₂) trivial
  refine ⟨fun _ => capabilityErrorUnmap_tracked h₂, fun hret₂ => ⟨h₂.guarded trivial, fun read₃ hv₃ => ?_⟩⟩
  obtain ⟨ret₃, v₃⟩ := read₃
  have h₃ := h₂.look mask (.capRead .upstream .lnkctl) (ret₃, v₃) trivial
  refine ⟨fun _ => capabilityErrorUnmap_tracked h₃, fun hret₃ => ⟨h₃.guarded trivial, fun read₄ hv₄ => ?_⟩⟩
  obtain ⟨ret₄, v₄⟩ := read₄
  have h₄ := h₃.look mask (.capRead .upstream .lnkctl2) (ret₄, v₄) trivial
  refine ⟨fun _ => capabilityErrorUnmap_tracked h₄, fun hret₄ => ?_⟩
  rw [Decidable.not_not] at hret₁ hret₂ hret₃ hret₄
  subst hret₁ hret₂ hret₃ hret₄
  have hread : ∀ {w'} e r, Untouched entry w' 1 0 → w'.reads e r = entry.reads e r := fun e r h' => by
    rw [LinkWorld.reads, LinkWorld.reads, h'.regs]
  obtain rfl : v₁ = entry.reads .gpu .lnkctl := (hv₁ rfl).trans (hread _ _ h.toUntouched)
  obtain rfl : v₂ = entry.reads .gpu .lnkctl2 := (hv₂ rfl).trans (hread _ _ h₁)
  obtain rfl : v₃ = entry.reads .upstream .lnkctl := (hv₃ rfl).trans (hread _ _ h₂)
  obtain rfl : v₄ = entry.reads .upstream .lnkctl2 := (hv₄ rfl).trans (hread _ _ h₃)
  refine hwith _ h₄ ⟨?_, fun e r hr => ?_, fun _ e r ret v hmem => ?_⟩
  · obtain ⟨cya0, config, rate, hgate, hmem₁, hmem₂, hmem₃⟩ := h.gate
    refine ⟨cya0, config, rate, hgate, ?_, ?_, ?_⟩ <;> simp only [log_after]
    · exact .tail _ (.tail _ (.tail _ (.tail _ hmem₁)))
    · exact .tail _ (.tail _ (.tail _ (.tail _ hmem₂)))
    · exact .tail _ (.tail _ (.tail _ (.tail _ hmem₃)))
  · cases e <;> cases r <;> simp_all
  · simp only [log_after, List.mem_cons, h.unread, or_false] at hmem
    rcases hmem with heq | heq | heq | heq <;> cases heq <;> rfl

/-! ## The whole function -/

/-- What follows once the registers are read. -/
abbrev retrainFrom (entry : LinkWorld) : Retrain Unit :=
  retrainWith (entry.reads .gpu .lnkctl) (entry.reads .gpu .lnkctl2) (entry.reads .upstream .lnkctl)
    (entry.reads .upstream .lnkctl2)

theorem retrainFrom_coherent (h : Untouched entry w m u) :
    (retrainFrom entry).wp (LinkStep mask) (fun w _ => OnlySpeedDiffers entry w) w
      fun _ w' => Coherent mask entry w' ∧ TargetsOnly entry w' := by
  have huses := @retrainWith_setsTarget (fun e => entry.reads e .lnkctl2) (entry.reads .gpu .lnkctl)
    (entry.reads .upstream .lnkctl)
  refine (huses.wp (I := fun w => Coherent mask entry w ∧ TargetsOnly entry w) ?_ ?_ ⟨h.coherent, h.targets⟩).mono
    fun _ _ h => h.2
  · exact fun o w a w' ho hs hi => ⟨hi.1.step hs, hi.2.step ho hs⟩
  · exact fun o w ho hi => hi.1.speed hi.2

theorem allowed_of_guards {o : RetrainOp} (h : EnterGuard w o) (hp : PassGuard w o) : o.Allowed w := by
  cases o with
  | capWrite e r v => exact h
  | print m =>
      cases m with
      | retrainPass => exact hp
      | _ => trivial
  | _ => trivial

/-- Once the restoring writes succeed, the register is read as on entry. -/
theorem Coherent.control {w' : LinkWorld} (h : Coherent mask entry w') {e : LinkEnd}
    (hlast : lastWrite e .lnkctl w'.log = some (entry.reads e .lnkctl, true)) :
    w'.reads e .lnkctl = entry.reads e .lnkctl := by
  rw [LinkWorld.reads, h e .lnkctl, lastWritten_of_lastWrite hlast]
  exact shown_masked ..

theorem retrainFrom_tracked (h : Untouched entry w 1 0) (hentered : Entered w.log) :
    (retrainFrom entry).wp (LinkStep mask) (Guarded entry) w fun _ => Tracked mask entry := by
  have hall := ((retrainWith_entered hentered).and retrainWith_restores).and (@retrainFrom_coherent mask _ _ _ _ h)
  refine hall.with_exec.imp (fun w o hg => ⟨allowed_of_guards hg.1.1 hg.1.2, hg.2⟩) ?_
  rintro ⟨⟩ w' ⟨⟨⟨-, hrestored⟩, hcoherent, htargets⟩, he⟩
  have hlast : ∀ e, ∃ ok, lastWrite e .lnkctl w'.log = some (entry.reads e .lnkctl, ok) := by
    intro e
    cases e with
    | gpu => exact hrestored.1
    | upstream => exact hrestored.2
  refine ⟨⟨fun e => ?_, fun e => ?_, ?_, ?_, fun e hok => ?_, fun e v ok hv => ?_, hcoherent.speed htargets⟩,
    hcoherent, htargets⟩
  · have hcount := (weights_asksRetrain (shown_rl _) (shown_rl _) e).exec he
    have hstart := h.requests e
    omega
  · have hcount := (weights_pollsStatus e).exec he
    have hstart := h.polls e
    omega
  · have hcount := weights_mapsBar.exec he
    have hstart := h.mapped
    omega
  · have hcount := weights_unmapsBar.exec he
    have hcount' := weights_mapsBar.exec he
    have hstart := h.mapped
    have hstart' := h.unmapped
    omega
  · obtain ⟨ok, hok'⟩ := hlast e
    rw [hok _ ok hok'] at hok'
    exact hcoherent.control hok'
  · obtain ⟨ok', hok'⟩ := hlast e
    rw [hok'] at hv
    cases hv
    rfl

theorem retrainGen2_tracked (gpu : PciDev) (h : entry.log = []) :
    (retrainGen2 gpu).wp (LinkStep mask) (Guarded entry) entry fun _ => Tracked mask entry := by
  have h₀ : Untouched entry entry 0 0 := by constructor <;> simp [h, NoWrite, tally]
  simp only [retrainGen2, Prog.wp_bind, Prog.wp_ite, wp_pciUpstreamBridge, wp_ioremap, wp_printMsg, wp_readl,
    wp_iounmap, Prog.wp_pure]
  refine ⟨fun _ => h₀.tracked (Nat.zero_le 1), fun _ => ⟨h₀.guarded trivial, fun bridge => ?_⟩⟩
  have h₁ := h₀.look mask .pciUpstreamBridge bridge trivial
  refine ⟨fun _ => ⟨h₁.guarded trivial, ?_⟩, fun _ => ⟨h₁.guarded trivial, fun mapped => ?_⟩⟩
  · exact (h₁.look mask (.print .noUpstreamBridge) () trivial).tracked (Nat.zero_le 1)
  have h₂ := h₁.look mask .ioremap mapped trivial
  refine ⟨fun hmapped => ?_, fun hmapped => ?_⟩
  · obtain rfl : mapped = false := by simpa using hmapped
    exact ⟨h₂.guarded trivial, (h₂.look mask (.print .bar0MapFailed) () trivial).tracked (Nat.zero_le 1)⟩
  · obtain rfl : mapped = true := by simpa using hmapped
    refine ⟨h₂.guarded trivial, fun cya0 => ?_⟩
    have h₃ := h₂.look mask (.readl cya0Offset) cya0 trivial
    refine ⟨h₃.guarded trivial, fun config => ?_⟩
    have h₄ := h₃.look mask (.readl linkConfigOffset) config trivial
    refine ⟨h₄.guarded trivial, fun rate => ?_⟩
    have h₅ := h₄.look mask (.readl plLinkRateOffset) rate trivial
    refine ⟨fun _ => ⟨h₅.guarded trivial, ?_⟩, fun hgate => ?_⟩
    · have h₆ := h₅.look mask (.print .gspPolicyMissing) () trivial
      exact ⟨h₆.guarded trivial, (h₆.look mask .iounmap () trivial).tracked (Nat.le_refl 1)⟩
    · refine readLink_tracked ⟨h₅, ⟨cya0, config, rate, Decidable.not_not.1 hgate, ?_, ?_, ?_⟩, fun e r a => ?_⟩
        fun w' hw hentered => retrainFrom_tracked hw hentered
      all_goals simp [h]

end

end Cmp50Unlock.KernelOpen
