import Cmp50Unlock.IdleGovernor.Lemmas.Busy
import Cmp50Unlock.IdleGovernor.Lemmas.Describe

/-!
# Manual fans

A fan is only manual under a request that asks for it. So a card whose fan is manual is looked after at each poll, and
stays manual only if the poll read it idle and cool.
-/

namespace Cmp50Unlock.IdleGovernor

open Lib

/-! ## Who has a manual fan -/

/-- A manual fan is one that the request asks for. -/
def Fanned (control : Control) (v : View) : Prop := v.get.manualFan = true → 0 < control.idleFanPercent

section
variable {c : Config} {control : Control} {i : Int} {s s' : CardState} {cmds : List Call} {A : Answers}

theorem LowPower.manualFan (h : LowPower c i s s' cmds) : s'.manualFan = s.manualFan := by
  cases h <;> rfl

theorem FanStep.wanted (h : FanStep c control i s s' cmds) (hmanual : s'.manualFan = true)
    (hs : s.manualFan = true → 0 < control.idleFanPercent) : 0 < control.idleFanPercent := by
  cases h with
  | skipped => exact hs hmanual
  | hot => cases hmanual
  | cool hwant => exact hwant.2
  | kept hwant => exact hwant.2

theorem fannedRule : CardRule c A Fanned where
  free control control' v hfree _ hmanual := by
    have hauto : v.get.manualFan = false := hfree .manualFan
    rw [hauto] at hmanual
    cases hmanual
  released control v i calls _ _ hmanual := by
    rw [cleared_get] at hmanual
    cases hmanual
  cleaned control v i calls _ hmanual := by
    rw [cleared_get] at hmanual
    cases hmanual
  polled control v i u s cmds hstate h hpolled hmanual := by
    rw [View.becomes_get v hstate] at hmanual
    cases hpolled with
    | busy => exact h hmanual
    | released => cases hmanual
    | idle _ hlow hfan => exact hfan.wanted hmanual fun hs => h (hlow.manualFan ▸ hs)

/-! ## A poll that leaves a manual fan -/

theorem countedStep_manualFan (s : CardState) : (countedStep c i s).1.manualFan = s.manualFan :=
  (lowPowerStep_lowPower _).manualFan

theorem LowPower.keeps (h : LowPower c i s s' cmds) (hlow : s.lowPower = true) : s'.lowPower = true := by
  cases h with
  | stays => exact hlow
  | forced => rfl

theorem countedStep_keeps (hlow : s.lowPower = true) : (countedStep c i s).1.lowPower = true :=
  (lowPowerStep_lowPower _).keeps hlow

/-- A card whose fan is manual after a poll was read idle and cool. -/
theorem pollStep_manual {ρ : Readings} (hfan : s.manualFan = true → s.lowPower = true)
    (hwanted : s.manualFan = true → 0 < control.idleFanPercent)
    (hmanual : (pollStep c control i s ρ).1.manualFan = true) :
    ¬ ρ.utilization > c.options.utilThreshold ∧ FanWanted control (countedStep c i s).1 ∧
      ¬ ρ.temperature ≥ c.options.fanAutoTemp := by
  unfold pollStep busyStep at hmanual
  split at hmanual
  next hu =>
    split at hmanual
    next h => cases hmanual
    next h =>
      rw [Bool.or_eq_true, not_or] at h
      exact absurd hmanual h.2
  next hu =>
    simp only [idleStep, fanStep] at hmanual
    split at hmanual
    next hwant =>
      split at hmanual
      next ht => split at hmanual <;> simp_all
      next ht => exact ⟨hu, hwant, ht⟩
    next hwant =>
      rw [countedStep_manualFan] at hmanual
      exact absurd ⟨countedStep_keeps (hfan hmanual), hwanted hmanual⟩ hwant

end

/-! ## Ticks -/

section
variable {c : Config} {A : Answers} {cards : Int → Card} {dir : Dir} {w w' : World} {i : Int}

theorem ComesTo.gpuTick (h : ComesTo c A cards dir .wait w) (hA : A .select Wake.gpuTicker)
    (he : (gpuTick c).Exec (Step A) (w.next .select .gpuTicker) () w') : ComesTo c A cards dir .wait w' :=
  .tail h (Prog.exec_bind.mpr ⟨.gpuTicker, _, Prog.exec_lift.mpr ⟨hA, w.dir, rfl, rfl⟩,
    Prog.exec_bind.mpr ⟨(), w', he, rfl, rfl⟩⟩)

/-- A GPU tick after which the governor is active was a poll without an error. -/
theorem gpuTick_active (hinv : Inv c w.gov) (he : (gpuTick c).Exec (Step A) w () w') (hactive : w'.gov.active = true) :
    w.gov.active = true ∧ (poll c).Exec (Step A) (w.next .getGov w.gov) none w' := by
  have hw : w.gov.active = true := (gpuTick_spec hinv).exec he hactive
  obtain ⟨g, w₀, hget, he⟩ := Prog.exec_bind.mp he
  obtain ⟨-, d, ⟨rfl, rfl⟩, rfl⟩ := Prog.exec_lift.mp hget
  rw [if_pos hw] at he
  obtain ⟨r, w₁, hpoll, he⟩ := Prog.exec_bind.mp he
  cases r with
  | none =>
      obtain ⟨-, rfl⟩ := he
      exact ⟨hw, hpoll⟩
  | some err =>
      have hinv₁ := ((inv_of_sound (poll_sound (w := w.next .getGov w.gov) hw) hinv).exec hpoll).2
      have hinactive : w'.gov.active = false := (fail_sound hinv₁).exec he
      rw [hinactive] at hactive
      cases hactive

/-- A supported card whose fan is manual after a GPU tick. -/
theorem gpuTick_manual {cards : Int → Card} {percent : BitVec 32} (h : ComesTo c settersSucceed cards dir .wait w)
    (he : (gpuTick c).Exec (Step settersSucceed) (w.next .select .gpuTicker) () w') (hi : SupportedIndex c i)
    (hmanual : (w'.cards i).fan = .manual percent) :
    w'.gov.active = true ∧ i ∈ w'.gov.control.indices ∧ (w'.cards i).pstate = 8 ∧
      (percent.toNat : Int) = w'.gov.control.idleFanPercent ∧ w'.gov.control.idleFanPercent ≠ 0 ∧
      ∃ u t, ¬ u > c.options.utilThreshold ∧ ¬ t ≥ c.options.fanAutoTemp ∧
        readingsOf i (w'.since (w.next .select .gpuTicker)) = [.temperature (.ok t), .utilization (.ok u)] := by
  have h' := h.gpuTick (A := settersSucceed) trivial he
  have hinv := (ComesTo.runInv h).inv
  have hinv' := (ComesTo.runInv h').inv
  have hfits := fitsRule.comesTo h' (by decide) i hi
  have hflag : (w'.gov.state i).manualFan = true := by
    cases hauto : (w'.gov.state i).manualFan
    · have hfan := hfits.fan
      rw [← gov_state, hauto, show (w'.view i).card = w'.cards i from rfl, hmanual] at hfan
      cases hfan
    · rfl
  have hlow := hinv'.fan i hflag
  obtain ⟨hactive, hindex⟩ := hinv'.held i hlow
  have hpos : 0 < w'.gov.control.idleFanPercent := fannedRule.comesTo h' (by decide) i hi hflag
  have hpercent : percent = BitVec.ofInt 32 w'.gov.control.idleFanPercent := by
    have hfan := hfits.fan
    rw [← gov_state, hflag, show (w'.view i).card = w'.cards i from rfl, hmanual] at hfan
    exact Fan.manual.inj hfan
  have hrange := (hinv'.governs hactive).loadable.fan
  refine ⟨hactive, hindex, ?_, ?_, Int.ne_of_gt hpos, ?_⟩
  · have hpstate := hfits.pstate
    rwa [← gov_state, if_pos hlow] at hpstate
  · rw [hpercent, BitVec.toNat_ofInt]
    omega
  obtain ⟨hactive₀, hpoll⟩ := gpuTick_active (w := w.next .select .gpuTicker) hinv he hactive
  have hcontrol : w'.gov.control = w.gov.control := (within_keepsControl poll_uses (fun o ho => by
    rcases ho with rfl | ⟨j, ho⟩
    · trivial
    · exact ho.keepsControl) hpoll).1
  have hmem : i ∈ w.gov.control.indices := hcontrol ▸ hindex
  have hstate : (w.polling.view i).state.isSome :=
    (hinv.domain i).mpr (validate_supported (hinv.governs hactive₀).validated hmem).mem
  obtain ⟨ρ, hview, hreadings⟩ := poll_card (w := w.polling) hstate hmem hpoll
  have hstep : (pollStep c w.gov.control i (w.polling.view i).get ρ).1.manualFan = true := by
    rwa [gov_state, hview, View.moves_get hstate] at hflag
  obtain ⟨hu, hwant, ht⟩ := pollStep_manual (hinv.fan i) (fannedRule.comesTo h (by decide) i hi) hstep
  refine ⟨ρ.utilization, ρ.temperature, hu, ht, ?_⟩
  obtain ⟨new, hlog, -⟩ := within_log poll_uses hpoll
  rw [pollReadings, if_pos ⟨hu, hwant⟩] at hreadings
  exact readings_since ⟨new ++ [⟨.getGov, w.gov⟩], by rw [hlog, List.append_assoc]; rfl⟩ hreadings

end

end Cmp50Unlock.IdleGovernor
