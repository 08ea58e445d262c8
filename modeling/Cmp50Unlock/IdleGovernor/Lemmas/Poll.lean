import Cmp50Unlock.IdleGovernor.Lemmas.Card

/-!
# What a poll does to a card

A poll that returns no error had no failing command. What it did to a card is then a function of the readings and
of what was remembered of the card.
-/

namespace Cmp50Unlock.IdleGovernor

open Lib

/-! ## Polls of a card without an error -/

/-- Successful commands. -/
def succeeding (cmds : List Call) : Calls := cmds.map fun cmd => (cmd, none)

/-- The commands `cmds` have succeeded, and `s` is remembered. -/
def View.becomes (v : View) (cmds : List Call) (s : CardState) : View := (v.issues (succeeding cmds)).update fun _ => s

section
variable (c : Config) (control : Control) (index : Int)

/-- The commands that put a card into P8. -/
def lowPowerCalls : List Call :=
  (if c.hasCoreOffset then [.setCoreOffset index 0] else []) ++ [.resetLockedClocks index, .setPState index 8]

/-- The step of an idle card to P8: the state and the commands it leads to. -/
inductive LowPower (s : CardState) : CardState → List Call → Prop where
  | stays (h : s.lowPower ∨ s.idlePolls < c.options.idleAfter) : LowPower s s []
  | forced (hlow : s.lowPower = false) (hidle : s.idlePolls ≥ c.options.idleAfter) :
      LowPower s { s with lowPower := true } (lowPowerCalls c index)

/-- The fan of a card is looked after. -/
def FanWanted (control : Control) (s : CardState) : Prop := s.lowPower = true ∧ control.idleFanPercent > 0

/-- The step of the fan of an idle card. -/
inductive FanStep (s : CardState) : CardState → List Call → Prop where
  | skipped (h : ¬ FanWanted control s) : FanStep s s []
  | hot {t : BitVec 32} (h : FanWanted control s) (ht : t ≥ c.options.fanAutoTemp) (hfan : s.manualFan = true) :
      FanStep s { s with manualFan := false } [.setFanAuto index]
  | cool {t : BitVec 32} (h : FanWanted control s) (ht : ¬ t ≥ c.options.fanAutoTemp) (hfan : s.manualFan = false) :
      FanStep s { s with manualFan := true } [.setFan index (BitVec.ofInt 32 control.idleFanPercent)]
  | kept {t : BitVec 32} (h : FanWanted control s) (hfan : t ≥ c.options.fanAutoTemp ↔ s.manualFan = false) :
      FanStep s s []

/-- A poll of a card that reads the utilization `u` and returns no error. -/
inductive Polled (s : CardState) (u : BitVec 32) : CardState → List Call → Prop where
  | busy (hu : u > c.options.utilThreshold) (h : s.lowPower = false ∧ s.manualFan = false) :
      Polled s u { s with idlePolls := 0 } []
  | released (hu : u > c.options.utilThreshold) (h : s.lowPower ∨ s.manualFan) :
      Polled s u .zero (releaseCalls c index s.manualFan)
  | idle {s₁ s₂ cmds₁ cmds₂} (hu : ¬ u > c.options.utilThreshold)
      (hlow : LowPower c index { s with idlePolls := s.idlePolls + 1 } s₁ cmds₁)
      (hfan : FanStep c control index s₁ s₂ cmds₂) : Polled s u s₂ (cmds₁ ++ cmds₂)

end

/-! ## A poll as a function of the readings -/

instance (control : Control) (s : CardState) : Decidable (FanWanted control s) :=
  inferInstanceAs (Decidable (_ ∧ _))

section
variable (c : Config) (control : Control) (index : Int) (s : CardState)

/-- An idle card goes to P8. -/
def lowPowerStep : CardState × List Call :=
  if s.lowPower = false ∧ s.idlePolls ≥ c.options.idleAfter then ({ s with lowPower := true }, lowPowerCalls c index)
  else (s, [])

/-- The fan of an idle card. -/
def fanStep (t : BitVec 32) : CardState × List Call :=
  if FanWanted control s then
    if t ≥ c.options.fanAutoTemp then
      if s.manualFan then ({ s with manualFan := false }, [.setFanAuto index]) else (s, [])
    else if s.manualFan then (s, [])
    else ({ s with manualFan := true }, [.setFan index (BitVec.ofInt 32 control.idleFanPercent)])
  else (s, [])

/-- The state of an idle card before its fan is looked after. -/
def countedStep : CardState × List Call := lowPowerStep c index { s with idlePolls := s.idlePolls + 1 }

def idleStep (t : BitVec 32) : CardState × List Call :=
  let low := countedStep c index s
  let fan := fanStep c control index low.1 t
  (fan.1, low.2 ++ fan.2)

def busyStep : CardState × List Call :=
  if s.lowPower || s.manualFan then (.zero, releaseCalls c index s.manualFan) else ({ s with idlePolls := 0 }, [])

/-- A poll without an error: the state that is remembered, and the commands. -/
def pollStep (ρ : Readings) : CardState × List Call :=
  if ρ.utilization > c.options.utilThreshold then busyStep c index s else idleStep c control index s ρ.temperature

/-- What a poll without an error reads of a card, the newest first. -/
def pollReadings (ρ : Readings) : List Reading :=
  (if ¬ ρ.utilization > c.options.utilThreshold ∧ FanWanted control (countedStep c index s).1 then
    [.temperature (.ok ρ.temperature)] else []) ++ [.utilization (.ok ρ.utilization)]

end

section
variable {c : Config} {control : Control} {index : Int} {s : CardState}

theorem lowPowerStep_lowPower (s : CardState) :
    LowPower c index s (lowPowerStep c index s).1 (lowPowerStep c index s).2 := by
  unfold lowPowerStep
  split
  next h => exact .forced h.1 h.2
  next h =>
    refine .stays ?_
    cases hlow : s.lowPower
    · exact .inr (Int.not_le.mp fun hidle => h ⟨hlow, hidle⟩)
    · exact .inl rfl

theorem fanStep_fanStep (s : CardState) (t : BitVec 32) :
    FanStep c control index s (fanStep c control index s t).1 (fanStep c control index s t).2 := by
  unfold fanStep
  split
  next hwant =>
    split
    next ht =>
      split
      next hfan => exact .hot hwant ht hfan
      next hfan => exact .kept hwant ⟨fun _ => Bool.eq_false_iff.mpr hfan, fun _ => ht⟩
    next ht =>
      split
      next hfan => exact .kept hwant ⟨fun h => absurd h ht, fun h => absurd hfan (Bool.eq_false_iff.mp h)⟩
      next hfan => exact .cool hwant ht (Bool.eq_false_iff.mpr hfan)
  next hwant => exact .skipped hwant

theorem pollStep_polled (s : CardState) (ρ : Readings) :
    Polled c control index s ρ.utilization (pollStep c control index s ρ).1 (pollStep c control index s ρ).2 := by
  unfold pollStep busyStep
  split
  next hu =>
    split
    next h => exact .released hu (Bool.or_eq_true_iff.mp h)
    next h =>
      rw [Bool.or_eq_true, not_or, Bool.not_eq_true, Bool.not_eq_true] at h
      exact .busy hu h
  next hu => exact .idle hu (lowPowerStep_lowPower _) (fanStep_fanStep _ _)

end

/-! ## Specifications -/

namespace View

variable (v : View)

theorem update_const (f : CardState → CardState) : v.update f = v.update fun _ => f v.get := by
  obtain ⟨_ | s, card, calls⟩ := v <;> rfl

@[simp] theorem update_update (f g : CardState → CardState) : (v.update f).update g = v.update fun s => g (f s) := by
  simp [update, Function.comp_def]

theorem issues_update (f : CardState → CardState) (calls : Calls) :
    (v.update f).issues calls = (v.issues calls).update f := by
  induction calls generalizing v with
  | nil => rfl
  | cons x calls ih => exact ih (v.issue x.1 x.2)

theorem becomes_becomes (cmds cmds' : List Call) (s s' : CardState) :
    (v.becomes cmds s).becomes cmds' s' = v.becomes (cmds ++ cmds') s' := by
  simp only [becomes, issues_update, update_update, succeeding, List.map_append, issues_append]

@[simp] theorem becomes_isSome (cmds : List Call) (s : CardState) :
    (v.becomes cmds s).state.isSome = v.state.isSome := by
  simp [becomes]

theorem becomes_get {cmds : List Call} {s : CardState} (h : v.state.isSome) : (v.becomes cmds s).get = s :=
  update_get _ (by rwa [issues_state])

end View

section
variable {A : Answers} {c : Config} {w : World} {index : Int}

theorem forceP8_spec : (forceP8 c index).wp (Step A) always w fun r w' => r = none →
    w'.view index = (w.view index).becomes [.setPState index 8] { (w.view index).get with lowPower := true } := by
  rw [forceP8, Prog.wp_bind, wp_call]
  refine ⟨trivial, ?_⟩
  rintro (_ | err) _
  · simp only [Prog.wp_bind, wp_assign, Prog.wp_pure, true_and]
    intro _ _
    simp [View.becomes, succeeding, View.update_const _ fun s => { s with lowPower := true }]
  · simp only [Prog.wp_bind, Prog.wp_pure, wp_restoreClocks]
    exact ⟨trivial, fun _ _ => restoreCoreOffset_spec.mono fun _ _ _ h => by cases h⟩

theorem resetClocks_spec : (resetClocks c index).wp (Step A) always w fun r w' => r = none →
    w'.view index = (w.view index).becomes [.resetLockedClocks index, .setPState index 8]
      { (w.view index).get with lowPower := true } := by
  rw [resetClocks, Prog.wp_bind, wp_call]
  refine ⟨trivial, ?_⟩
  rintro (_ | err) _
  · refine forceP8_spec.mono fun r w' h hr => (h hr).trans ?_
    simp [View.becomes, succeeding]
  · simp only [Prog.wp_bind, Prog.wp_pure]
    exact restoreCoreOffset_spec.mono fun _ _ _ h => by cases h

theorem lowPower_spec : (lowPower c index).wp (Step A) always w fun r w' => r = none →
    w'.view index = (w.view index).becomes (lowPowerCalls c index) { (w.view index).get with lowPower := true } := by
  simp only [lowPower, Prog.wp_bind, Prog.wp_ite, wp_call, Prog.wp_pure, true_and]
  refine ⟨fun hoff => ?_, fun hoff => ?_⟩
  · rintro (_ | err) _
    · refine resetClocks_spec.mono fun r w' h hr => (h hr).trans ?_
      simp [View.becomes, succeeding, lowPowerCalls, hoff]
    · exact fun h => by cases h
  · refine resetClocks_spec.mono fun r w' h hr => (h hr).trans ?_
    simp [lowPowerCalls, hoff]

theorem View.becomes_nil (v : View) : v.becomes [] v.get = v := by
  obtain ⟨_ | s, card, calls⟩ := v <;> rfl

/-- The steps of a poll, on the view of a card. -/
def View.moves (v : View) (x : CardState × List Call) : View := v.becomes x.2 x.1

theorem View.moves_moves (v : View) (x y : CardState × List Call) : (v.moves x).moves y = v.moves (y.1, x.2 ++ y.2) :=
  v.becomes_becomes x.2 y.2 x.1 y.1

theorem View.moves_get {v : View} (h : v.state.isSome) (x : CardState × List Call) : (v.moves x).get = x.1 :=
  v.becomes_get h

theorem idleFan_spec {g : Governor} {t : BitVec 32} (hs : g.state index = (w.view index).get)
    (hwant : FanWanted g.control (w.view index).get) : (idleFan c index g t).wp (Step A) always w fun r w' => r = none →
      w'.view index = (w.view index).moves (fanStep c g.control index (w.view index).get t) ∧
      readingsOf index w'.log = readingsOf index w.log := by
  simp only [idleFan, hs, Prog.wp_bind, Prog.wp_ite, wp_call, Prog.wp_pure, true_and]
  refine ⟨fun ht => ⟨fun hfan => ?_, fun hfan _ => ?_⟩, fun ht => ⟨fun hfan => ?_, fun hfan _ => ?_⟩⟩
  · rintro (_ | err) _
    · simp only [Prog.wp_bind, wp_assign, Prog.wp_pure, true_and]
      refine fun _ _ => ⟨?_, rfl⟩
      rw [fanStep, if_pos hwant, if_pos ht, if_pos hfan]
      simp [View.moves, View.becomes, succeeding, View.update_const _ fun s => { s with manualFan := false }]
    · exact fun h => by cases h
  · rw [fanStep, if_pos hwant, if_pos ht, if_neg hfan]
    exact ⟨(View.becomes_nil _).symm, trivial⟩
  · rintro (_ | err) _
    · simp only [Prog.wp_bind, wp_assign, Prog.wp_pure, true_and]
      refine fun _ _ => ⟨?_, rfl⟩
      rw [fanStep, if_pos hwant, if_neg ht, if_neg hfan]
      simp [View.moves, View.becomes, succeeding, View.update_const _ fun s => { s with manualFan := true }]
    · exact fun h => by cases h
  · rw [fanStep, if_pos hwant, if_neg ht, if_pos (Decidable.not_not.mp hfan)]
    exact ⟨(View.becomes_nil _).symm, trivial⟩

/-- The temperature is read when the fan is looked after. -/
theorem pollFan_spec : (pollFan c index).wp (Step A) always w fun r w' => r = none → ∃ t : BitVec 32,
    w'.view index = (w.view index).moves (fanStep c w.gov.control index (w.view index).get t) ∧
    readingsOf index w'.log = (if FanWanted w.gov.control (w.view index).get then [.temperature (.ok t)] else []) ++
      readingsOf index w.log := by
  simp only [pollFan, Prog.wp_bind, wp_getGov, Prog.wp_ite, wp_temperature, Prog.wp_pure, true_and]
  change _ → (FanWanted w.gov.control (w.view index).get → _) ∧ (¬ FanWanted w.gov.control (w.view index).get → _)
  refine fun _ => ⟨fun hwant => ?_, fun hwant _ => ⟨0, ?_, ?_⟩⟩
  · rintro (err | t) _
    · exact fun h => by cases h
    · refine (idleFan_spec (w := (w.next .getGov w.gov).next (.temperature index) (.ok t)) rfl hwant).mono
        fun r w' h hr => ⟨t, (h hr).1, ?_⟩
      rw [(h hr).2, readings_temperature, if_pos hwant]
      rfl
  · rw [fanStep, if_neg hwant]
    exact (View.becomes_nil _).symm
  · rw [if_neg hwant]
    rfl

/-- Counting a poll. -/
theorem view_counted {n : Int} {d : Dir} : (w.after (.assign (.idlePolls index n)) () d).view index =
    (w.view index).becomes [] { (w.view index).get with idlePolls := n } :=
  (view_after_idlePolls.trans (if_pos rfl)).trans (View.update_const _ _)

/-- The step to P8, if it is time for it. -/
theorem lowPowerStep_spec :
    (if !(w.gov.state index).lowPower && (w.gov.state index).idlePolls ≥ c.options.idleAfter then
    lowPower c index else pure none).wp (Step A) always w fun r w' => r = none →
      w'.view index = (w.view index).moves (lowPowerStep c index (w.view index).get) ∧
      readingsOf index w'.log = readingsOf index w.log ∧ w'.gov.control = w.gov.control := by
  refine Prog.wp_ite.mpr ⟨fun h => ?_, fun h _ => ?_⟩
  · simp only [gov_state, Bool.and_eq_true, Bool.not_eq_true'] at h
    refine lowPower_spec.with_exec.mono fun r w' ⟨hlow, he⟩ hr => ⟨?_, ?_, ?_⟩
    · rw [lowPowerStep, if_pos ⟨h.1, of_decide_eq_true h.2⟩]
      exact hlow hr
    · exact within_readings (lowPower_lowers index) (fun _ h => h.unread) he
    · exact (within_keepsControl (lowPower_lowers index) (fun _ h => h.onCard.keepsControl) he).1
  · simp only [gov_state, Bool.and_eq_true, Bool.not_eq_true'] at h
    refine ⟨?_, rfl, rfl⟩
    rw [lowPowerStep, if_neg fun htime => h ⟨htime.1, decide_eq_true htime.2⟩]
    exact (View.becomes_nil _).symm

theorem pollIdle_spec (hstate : (w.view index).state.isSome) :
    (pollIdle c index).wp (Step A) always w fun r w' => r = none → ∃ t : BitVec 32,
      w'.view index = (w.view index).moves (idleStep c w.gov.control index (w.view index).get t) ∧
      readingsOf index w'.log = (if FanWanted w.gov.control (countedStep c index (w.view index).get).1 then
        [.temperature (.ok t)] else []) ++ readingsOf index w.log := by
  simp only [pollIdle, Prog.wp_bind, wp_getGov, wp_assign, true_and]
  intro _ _ _
  generalize hw₁ : World.next (World.next (World.next w .getGov w.gov)
    (.assign (.idlePolls index ((w.gov.state index).idlePolls + 1))) ()) .getGov _ = w₁
  have hcontrol : w₁.gov.control = w.gov.control := by rw [← hw₁]; rfl
  have hreadings : readingsOf index w₁.log = readingsOf index w.log := by rw [← hw₁]; rfl
  have hview : w₁.view index =
      (w.view index).becomes [] { (w.view index).get with idlePolls := (w.view index).get.idlePolls + 1 } := by
    rw [← hw₁, view_after_getGov, view_counted]
    rfl
  have hget := congrArg View.get hview
  rw [View.becomes_get _ hstate] at hget
  have hstep : w₁.gov = (World.next (World.next w .getGov w.gov)
      (.assign (.idlePolls index ((w.gov.state index).idlePolls + 1))) ()).gov := by rw [← hw₁]; rfl
  rw [← hstep]
  refine lowPowerStep_spec.mono fun r w₂ h₂ => ?_
  cases r with
  | some err => exact fun h => by cases h
  | none =>
      obtain ⟨hview₂, hreadings₂, hcontrol₂⟩ := h₂ rfl
      rw [hget] at hview₂
      have hmoves : w₂.view index = (w.view index).moves (countedStep c index (w.view index).get) := by
        rw [hview₂, hview]
        exact View.becomes_becomes _ [] _ _ _
      have hget₂ : (w₂.view index).get = (countedStep c index (w.view index).get).1 := by
        rw [hmoves, View.moves_get hstate]
      refine pollFan_spec.mono fun r w' h hr => ?_
      obtain ⟨t, hview', hreadings'⟩ := h hr
      rw [hcontrol₂, hcontrol, hget₂] at hview' hreadings'
      refine ⟨t, ?_, ?_⟩
      · rw [hview', hmoves, View.moves_moves]
        rfl
      · rw [hreadings', hreadings₂, hreadings]

theorem Attempts.succeeding {cmds : List Call} {calls : Calls} (h : Attempts A cmds calls) (hall : AllSucceed calls) :
    calls = succeeding cmds := by
  rw [← h.cmds, IdleGovernor.succeeding, List.map_map]
  refine (List.map_id calls).symm.trans (List.map_congr_left fun x hx => ?_)
  exact Prod.ext rfl (hall x hx)

theorem pollBusy_spec (hstate : (w.view index).state.isSome) :
    (pollBusy c index).wp (Step A) always w fun r w' => r = none →
      w'.view index = (w.view index).moves (busyStep c index (w.view index).get) ∧
      readingsOf index w'.log = readingsOf index w.log := by
  simp only [pollBusy, Prog.wp_bind, wp_getGov, wp_assign, true_and]
  intro _ _
  generalize hw₁ : World.next w (.assign (.idlePolls index 0)) () = w₁
  have hreadings : readingsOf index w₁.log = readingsOf index w.log := by rw [← hw₁]; rfl
  have hview : w₁.view index = (w.view index).becomes [] { (w.view index).get with idlePolls := 0 } := by
    rw [← hw₁, view_counted]
  have hget := congrArg View.get hview
  rw [View.becomes_get _ hstate] at hget
  rw [gov_state, hget]
  refine Prog.wp_ite.mpr ⟨fun h => ?_, fun h _ => ?_⟩
  · refine release_spec.with_exec.mono fun r w' hpost hnone => ?_
    obtain ⟨⟨calls, hcalls, hr, hview'⟩, he⟩ := hpost
    refine ⟨?_, ?_⟩
    · rw [view_after_getGov, hget] at hcalls
      rw [busyStep, if_pos h, hview', hcalls.succeeding (hr.mp hnone), view_after_getGov, hview]
      exact View.becomes_becomes _ [] _ _ _
    · exact (within_readings (release_restores index) (fun _ h => h.unread) he).trans hreadings
  · rw [busyStep, if_neg h]
    exact ⟨hview, hreadings⟩

/-- A poll of a card that returns no error does what its readings say. -/
theorem pollCard_spec (hstate : (w.view index).state.isSome) :
    (pollCard c index).wp (Step A) always w fun r w' => r = none → ∃ ρ : Readings,
      w'.view index = (w.view index).moves (pollStep c w.gov.control index (w.view index).get ρ) ∧
      readingsOf index w'.log = pollReadings c w.gov.control index (w.view index).get ρ ++ readingsOf index w.log := by
  rw [pollCard, Prog.wp_bind, wp_utilization]
  refine ⟨trivial, ?_⟩
  rintro (err | u) _
  · exact fun h => by cases h
  · refine Prog.wp_ite.mpr ⟨fun hu => ?_, fun hu => ?_⟩
    · refine (pollBusy_spec (w := w.next (.utilization index) (.ok u)) hstate).mono fun r w' h hr => ⟨⟨u, 0⟩, ?_, ?_⟩
      · rw [pollStep, if_pos hu]
        exact (h hr).1
      · rw [(h hr).2, readings_utilization, pollReadings, if_neg fun hidle => hidle.1 hu]
        rfl
    · refine (pollIdle_spec (w := w.next (.utilization index) (.ok u)) hstate).mono fun r w' h hr => ?_
      obtain ⟨t, hview, hreadings⟩ := h hr
      refine ⟨⟨u, t⟩, ?_, ?_⟩
      · rw [pollStep, if_neg hu]
        exact hview
      · rw [hreadings, readings_utilization, pollReadings]
        simp only [hu, not_false_eq_true, true_and, List.append_assoc]
        rfl

end

end Cmp50Unlock.IdleGovernor
