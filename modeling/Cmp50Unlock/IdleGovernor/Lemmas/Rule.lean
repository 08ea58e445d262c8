import Cmp50Unlock.IdleGovernor.Lemmas.Ticks

/-!
# Invariants of the cards

A property of a card that releases and polls of that card keep, and that `Cleanup` establishes, holds of every
supported card whenever `Run` waits.
-/

namespace Cmp50Unlock.IdleGovernor

open Lib

/-- What is asked of a property `K` of a card under a request, in runs with answers of `A`. -/
structure CardRule (c : Config) (A : Answers) (K : Control → View → Prop) : Prop where
  /-- The request is irrelevant to a card that is not held. -/
  free : ∀ control control' v, (∀ h : Hold, h.flag v.get = false) → K control v → K control' v
  released : ∀ control v i calls, K control v → Attempts A (releaseCalls c i v.get.manualFan) calls →
    K control ((v.issues calls).update fun _ => .zero)
  cleaned : ∀ control (v : View) i calls, Attempts A (releaseCalls c i true) calls →
    K control ((v.issues calls).update fun _ => .zero)
  polled : ∀ control v i u s cmds, v.state.isSome → K control v → Polled c control i v.get u s cmds →
    K control (v.becomes cmds s)

/-- `K` holds of every supported card. -/
def Follows (c : Config) (K : Control → View → Prop) (control : Control) (w : World) : Prop :=
  ∀ i, SupportedIndex c i → K control (w.view i)

namespace CardRule

variable {c : Config} {A : Answers} {K : Control → View → Prop} {w : World} {control : Control}

theorem releaseHeld (hK : CardRule c A K) {i j : Int} (h : K control (w.view i)) :
    (IdleGovernor.releaseHeld c j).wp (Step A) always w fun _ w' => K control (w'.view i) := by
  by_cases hij : j = i
  · subst hij
    simp only [IdleGovernor.releaseHeld, Prog.wp_bind, wp_getGov, Prog.wp_ite, Prog.wp_pure, true_and]
    refine fun _ => ⟨fun _ => release_spec.mono fun r w' hpost => ?_, fun _ => h⟩
    obtain ⟨calls, hcalls, _, hview⟩ := hpost
    rw [hview]
    exact hK.released control _ j calls h hcalls
  · refine Prog.wp_exec.mono fun _ w' he => ?_
    have hview : w'.view i = w.view i :=
      within_keeps (fun w => w.view i) (releaseHeld_uses j) (fun _ _ _ _ ho => ho.1.view hij) he
    rwa [hview]

theorem releaseAll (hK : CardRule c A K) (h : Follows c K control w) :
    (releaseAll c).wp (Step A) always w fun _ w' => ∀ control', Follows c K control' w' := by
  have hrelease : (IdleGovernor.releaseAll c).wp (Step A) always w fun _ w' => Follows c K control w' := by
    simp only [IdleGovernor.releaseAll, Prog.wp_bind, wp_rangeStates, true_and]
    intro keys _ _ _
    refine Prog.wp_forM (I := Follows c K control) (fun j _ w₁ hw₁ => ?_) h
    refine Prog.wp_exec.mono fun _ w₂ he i hi => ?_
    exact (hK.releaseHeld (hw₁ i hi)).exec he
  refine (hrelease.and releaseAll_free).imp (fun _ _ _ => trivial) fun _ w' hpost control' i hi => ?_
  obtain ⟨hw', hfree⟩ := hpost
  exact hK.free control control' _ (hfree i) (hw' i hi)

theorem cleanup (hK : CardRule c A K) :
    (cleanup c).wp (Step A) always w fun _ w' => ∀ control', Follows c K control' w' := by
  refine Prog.wp.mono (cleanup_establishes (D := fun i w => ∀ control', K control' (w.view i))
    (fun gpu result w₁ hs => ?_) fun _ _ _ hview h control' => hview ▸ h control') fun _ w' h control' i hi =>
      h i (.inl hi) control'
  refine (cleanupGPU_spec hs).mono fun _ w₂ ⟨calls, hcalls, hview⟩ control' => ?_
  rw [hview]
  exact hK.cleaned control' _ gpu.index calls hcalls

theorem disable (hK : CardRule c A K) (h : Follows c K control w) :
    (disable c).wp (Step A) always w fun _ w' => Follows c K w'.gov.control w' := by
  simp only [IdleGovernor.disable, Prog.wp_bind, wp_assign, wp_publishInactive, Prog.wp_pure, true_and]
  exact (hK.releaseAll h).mono fun _ w₁ hw₁ _ _ _ _ _ => hw₁ _

theorem fail (hK : CardRule c A K) (err : GoError) :
    (fail c err).wp (Step A) always w fun _ w' => Follows c K w'.gov.control w' := by
  simp only [IdleGovernor.fail, Prog.wp_bind, wp_assign, wp_publishError, true_and]
  exact hK.cleanup.mono fun _ w₁ hw₁ _ _ _ _ => hw₁ _

theorem syncControl (hK : CardRule c A K) (h : Follows c K w.gov.control w) :
    (syncControl c).wp (Step A) always w fun _ w' => Follows c K w'.gov.control w' := by
  rw [IdleGovernor.syncControl, Prog.wp_bind, wp_load]
  refine ⟨trivial, ?_⟩
  rintro (err | control) d _ _
  · exact h
  · refine Prog.wp_ite.mpr ⟨fun _ => ?_, fun _ => ?_⟩
    · rw [Prog.wp_bind]
      exact @disable c A K (w.after .loadControl (.ok control) d) w.gov.control hK h
    simp only [changeControl, Prog.wp_bind, wp_getGov, Prog.wp_ite, Prog.wp_pure, true_and]
    refine fun _ => ⟨fun _ => h, fun _ => ?_⟩
    cases validate c control with
    | some err => exact h
    | none =>
        simp only [applyControl, Prog.wp_bind, wp_assign, wp_publishActive, true_and]
        refine Prog.wp.mono (@releaseAll c A K _ w.gov.control hK h) fun _ w₁ hw₁ _ err d _ _ => ?_
        cases err with
        | none => exact hw₁ _
        | some err =>
            simp only [Prog.wp_bind, wp_assign, Prog.wp_pure, true_and]
            exact fun _ => hw₁ _

/-- One card of a poll, with what the loop keeps besides. -/
theorem pollCard (hK : CardRule c A K) {j : Int} (hj : (w.view j).state.isSome) (h : Follows c K w.gov.control w) :
    (pollCard c j).wp (Step A) always w fun r w' => r = none → Follows c K w.gov.control w' := by
  refine (pollCard_spec hj).with_exec.mono fun r w' ⟨hpoll, he⟩ hr i hi => ?_
  obtain ⟨ρ, hview, -⟩ := hpoll hr
  by_cases hij : j = i
  · subst hij
    rw [hview]
    exact hK.polled w.gov.control _ j ρ.utilization _ _ hj (h j hi) (pollStep_polled _ ρ)
  · have hsame : w'.view i = w.view i :=
      within_keeps (fun w => w.view i) (pollCard_uses j) (fun _ _ _ _ ho => ho.view hij) he
    rw [hsame]
    exact h i hi

theorem poll (hK : CardRule c A K) (hinv : Inv c w.gov) (hactive : w.gov.active) (h : Follows c K w.gov.control w) :
    (poll c).wp (Step A) always w fun r w' => r = none → Follows c K w'.gov.control w' := by
  have hstate : ∀ i ∈ w.gov.control.indices, (w.view i).state.isSome := fun i hi =>
    (hinv.domain i).mpr (validate_supported (hinv.governs hactive).validated hi).mem
  simp only [IdleGovernor.poll, Prog.wp_bind, wp_getGov, true_and]
  intro _
  refine Prog.wp.mono (Prog.wp_each (I := fun w₁ => Follows c K w.gov.control w₁ ∧ w₁.gov.control = w.gov.control ∧
    ∀ i ∈ w.gov.control.indices, (w₁.view i).state.isSome) (Q := fun _ _ => True)
    (fun j hj w₁ hinv₁ => ?_) ⟨h, rfl, hstate⟩) fun r w' hw' hr => ?_
  · obtain ⟨hw₁, hcontrol, hsome⟩ := hinv₁
    rw [← hcontrol] at hw₁
    refine (hK.pollCard (hsome j hj) hw₁).with_exec.mono fun r w₂ hpost => ?_
    obtain ⟨hw₂, he⟩ := hpost
    cases r with
    | some err => trivial
    | none =>
        refine ⟨hcontrol ▸ hw₂ rfl, ?_, fun i hi => (exec_isSome he).trans (hsome i hi)⟩
        exact (within_keepsControl (pollCard_uses j) (fun _ h => h.keepsControl) he).1.trans hcontrol
  · subst hr
    rw [hw'.2.1]
    exact hw'.1

/-! ## Runs -/

theorem startup (hK : CardRule c A K) (h : Follows c K w.gov.control w) :
    (startup c).wp (Step A) always w fun _ w' => Follows c K w'.gov.control w' := by
  rw [IdleGovernor.startup, Prog.wp_bind]
  refine (hK.syncControl h).mono fun r w₁ hw₁ => ?_
  cases r with
  | none => exact hw₁
  | some err => exact Prog.wp_ite.mpr ⟨fun _ => hK.fail err, fun _ => hw₁⟩

theorem controlTick (hK : CardRule c A K) (h : Follows c K w.gov.control w) :
    (controlTick c).wp (Step A) always w fun _ w' => Follows c K w'.gov.control w' := by
  rw [IdleGovernor.controlTick, Prog.wp_bind]
  refine (hK.syncControl h).mono fun r w₁ hw₁ => ?_
  cases r with
  | none => exact hw₁
  | some err => exact Prog.wp_ite.mpr ⟨fun _ => hK.disable hw₁, fun _ => hK.fail err⟩

theorem gpuTick (hK : CardRule c A K) (hinv : Inv c w.gov) (h : Follows c K w.gov.control w) :
    (gpuTick c).wp (Step A) always w fun _ w' => Follows c K w'.gov.control w' := by
  simp only [IdleGovernor.gpuTick, Prog.wp_bind, wp_getGov, Prog.wp_ite, Prog.wp_pure, true_and]
  refine fun _ => ⟨fun hactive => ?_, fun _ => h⟩
  refine (hK.poll (w := w.next .getGov w.gov) hinv hactive h).mono fun r w₁ hw₁ => ?_
  cases r with
  | none => exact hw₁ rfl
  | some err => exact hK.fail err

theorem run (hK : CardRule c A K) {l : Label} (hinv : Inv c w.gov) (h : l ≠ .entry → Follows c K w.gov.control w) :
    (run c l).wp (Step A) always w (Goto.Post (fun _ w' => Follows c K w'.gov.control w') fun _ w' =>
      ∀ control, Follows c K control w') := by
  cases l with
  | entry =>
      simp only [IdleGovernor.run, Prog.wp_bind, Prog.wp_pure]
      exact hK.cleanup.mono fun _ w' hw' => hw' _
  | startup =>
      simp only [IdleGovernor.run, Prog.wp_bind, Prog.wp_pure]
      exact (hK.startup (h (by decide))).mono fun _ w' hw' => hw'
  | wait =>
      have hw : Follows c K w.gov.control w := h (by decide)
      rw [IdleGovernor.run, Prog.wp_bind, wp_select]
      refine ⟨trivial, ?_⟩
      rintro (_ | _ | _) _
      · simp only [Prog.wp_bind, Prog.wp_pure]
        exact hK.cleanup
      · simp only [Prog.wp_bind, Prog.wp_pure]
        exact hK.controlTick (w := w.next .select .controlTicker) hw
      · simp only [Prog.wp_bind, Prog.wp_pure]
        exact hK.gpuTick (w := w.next .select .gpuTicker) hinv hw

variable {cards : Int → Card} {dir : Dir} {l : Label}

/-- The rule for runs: `K` holds wherever `Run` comes to, once it has cleaned up. -/
theorem comesTo (hK : CardRule c A K) (h : ComesTo c A cards dir l w) (hl : l ≠ .entry) :
    Follows c K w.gov.control w := by
  have hall : RunInv c l w ∧ (l ≠ .entry → Follows c K w.gov.control w) := Goto.Reaches.inv
    (I := fun l w => RunInv c l w ∧ (l ≠ .entry → Follows c K w.gov.control w)) h
    ⟨runInv_start cards dir, fun h => absurd rfl h⟩
    fun l₁ w₁ l₂ w₂ hw₁ he => ⟨(run_sound hw₁.1).exec he, fun _ => (hK.run hw₁.1.inv hw₁.2).exec he⟩
  exact hall.2 hl

theorem ends (hK : CardRule c A K) (h : Ends c A cards dir w) (control : Control) : Follows c K control w := by
  obtain ⟨l, w₁, hreach, he⟩ := h
  have hinv : Inv c w₁.gov := (ComesTo.runInv hreach).inv
  exact (hK.run hinv fun hl => hK.comesTo hreach hl).exec he control

end CardRule

end Cmp50Unlock.IdleGovernor
