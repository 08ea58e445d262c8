import Cmp50Unlock.IdleGovernor.Lemmas.Busy

/-!
# One card alone

A governor of a single card, without the others, the map and the files: it is driven by the outcomes and by what the
card shows. Every run of the governor, seen from one card, is a run of it.
-/

namespace Cmp50Unlock.IdleGovernor

open Lib

/-! ## The governor of a card -/

/-- The request, what is remembered of the card, and the commands to it. -/
structure Solo where
  control : Control
  active : Bool
  state : CardState
  calls : Calls

namespace Solo

variable (c : Config) (i : Int) (x : Solo)

/-- Commands that succeed, and what is remembered then. -/
def moves (y : CardState × List Call) : Solo :=
  { x with state := y.1, calls := (succeeding y.2).reverse ++ x.calls }

/-- `releaseAll`, which comes to the card at most once. -/
def release : Solo :=
  if x.state.lowPower || x.state.manualFan then x.moves (.zero, releaseCalls c i x.state.manualFan) else x

/-- `Cleanup` -/
def clean : Solo :=
  c.gpus.foldl (fun x gpu => if gpu.Supported ∧ gpu.index = i then x.moves (.zero, releaseCalls c i true) else x) x

theorem release_held {x : Solo} (h : (x.state.lowPower || x.state.manualFan) = true) :
    x.release c i = x.moves (.zero, releaseCalls c i x.state.manualFan) := if_pos h

theorem release_free {x : Solo} (h : ¬ (x.state.lowPower || x.state.manualFan) = true) : x.release c i = x := if_neg h

def disable : Solo := { x.release c i with active := false }

def fail : Solo := { x.clean c i with active := false }

/-- What follows an error of `syncControl`, in the first look and in a later one. -/
def giveUp (first : Bool) (err : GoError) : Solo :=
  if err.isNotExist then (if first then x else x.disable c i) else x.fail c i

/-- A request that was loaded, up to its publication. -/
def loads (first : Bool) (control : Control) : Solo :=
  if ¬ control.enabled then x.disable c i
  else if x.active ∧ control = x.control then x
  else
    match validate c control with
    | some err => x.giveUp c i first err
    | none => { x.release c i with control := control, active := true }

/-- One outcome; `shown` is what the card shows in this tick. -/
def after (first : Bool) (shown : Readings) : Outcome → Solo
  | .wake .gpuTicker =>
      if x.active ∧ i ∈ x.control.indices then x.moves (pollStep c x.control i x.state shown) else x
  | .wake _ => x
  | .look (.error err) => x.giveUp c i first err
  | .look (.ok control) => x.loads c i first control
  | .publish none => x
  | .publish (some err) => { x with active := false }.giveUp c i first (.wrap "publish active status" err)

/-- The outcomes of one tick, the newest first. -/
def follow (first : Bool) (shown : Readings) (outs : List Outcome) : Solo :=
  outs.foldr (fun o x => x.after c i first shown o) x

/-- The governor of the card after the first `Cleanup`. -/
def start : Solo := clean c i ⟨⟨false, "", 0⟩, false, .zero, []⟩

/-- The governor of the card after the outcomes, the newest first. -/
def run (shown : Nat → Readings) : List Outcome → Solo
  | [] => start c i
  | o :: older => (run shown older).after c i (ticks older == 0) (shown (ticks older + 1)) o

end Solo

/-- A governor, seen from card `i`. -/
def World.solo (i : Int) (w : World) : Solo := ⟨w.gov.control, w.gov.active, w.gov.state i, callsOf i w.log⟩

/-! ## Commands to the card -/

section
variable {A : Answers} {c : Config} {w w' : World} {i j : Int} {v : View}

theorem issues_calls (v : View) (calls : Calls) : (v.issues calls).calls = calls.reverse ++ v.calls := by
  induction calls generalizing v with
  | nil => rfl
  | cons x calls ih =>
      rw [View.issues_cons, ih]
      simp [View.issue]

theorem moves_calls (v : View) (y : CardState × List Call) : (v.moves y).calls = (succeeding y.2).reverse ++ v.calls :=
  issues_calls v (succeeding y.2)

/-- A card that has no entry is remembered as a released one. -/
theorem moves_zero_get (v : View) (cmds : List Call) : (v.moves (.zero, cmds)).get = .zero :=
  cleared_get (v.issues (succeeding cmds))

theorem solo_of_view (hview : w'.view i = (w.view i).moves y) (hget : ((w.view i).moves y).get = y.1)
    (hcontrol : w'.gov.control = w.gov.control ∧ w'.gov.active = w.gov.active) :
    w'.solo i = (w.solo i).moves y := by
  have hstate : w'.gov.state i = y.1 := by rw [gov_state, hview, hget]
  have hcalls : callsOf i w'.log = (succeeding y.2).reverse ++ callsOf i w.log :=
    (congrArg View.calls hview).trans (moves_calls (w.view i) y)
  simp only [World.solo, Solo.moves, hcontrol.1, hcontrol.2, hstate, hcalls]

/-- What is not about the card or the request does not show. -/
theorem solo_of_others (hview : w'.view i = w.view i)
    (hcontrol : w'.gov.control = w.gov.control ∧ w'.gov.active = w.gov.active) : w'.solo i = w.solo i := by
  have hstate : w'.gov.state i = w.gov.state i := congrArg View.get hview
  have hcalls : callsOf i w'.log = callsOf i w.log := congrArg View.calls hview
  simp only [World.solo, hcontrol.1, hcontrol.2, hstate, hcalls]

/-! ## Releases -/

theorem Attempts.allSucceed {cmds : List Call} {calls : Calls} (h : Attempts hardwareSucceeds cmds calls) :
    calls = IdleGovernor.succeeding cmds :=
  h.succeeding h.answers

theorem release_solo (index : Int) : (release c index).wp (Step hardwareSucceeds) always w fun _ w' =>
    w'.solo index = (w.solo index).moves (.zero, releaseCalls c index (w.gov.state index).manualFan) := by
  refine release_spec.with_exec.mono fun _ w' ⟨⟨calls, hcalls, _, hview⟩, he⟩ => ?_
  rw [hcalls.allSucceed] at hview
  exact solo_of_view hview (moves_zero_get _ _)
    (within_keepsControl (release_uses index) (fun _ h => h.2.keepsControl) he)

theorem releaseHeld_solo : (releaseHeld c j).wp (Step hardwareSucceeds) always w fun _ w' =>
    w'.solo i = if j = i then (w.solo i).release c i else w.solo i := by
  by_cases hij : j = i
  · subst hij
    simp only [releaseHeld, Prog.wp_bind, wp_getGov, Prog.wp_ite, Prog.wp_pure, true_and, if_true]
    refine fun _ => ⟨fun hheld => ?_, fun hheld => ?_⟩
    · exact (release_solo j).mono fun _ w' h => h.trans (Solo.release_held c j (x := w.solo j) hheld).symm
    · exact (Solo.release_free c j (x := w.solo j) hheld).symm
  · refine Prog.wp_exec.mono fun _ w' he => ?_
    rw [if_neg hij]
    exact solo_of_others (within_keeps (fun w => w.view i) (releaseHeld_uses j) (fun _ _ _ _ ho => ho.1.view hij) he)
      (within_keepsControl (releaseHeld_uses j) (fun _ h => h.2.keepsControl) he)

/-- In whatever order `releaseAll` comes to the cards, it comes to this one once, if at all. -/
theorem releaseAll_solo (i : Int) : (releaseAll c).wp (Step hardwareSucceeds) always w fun _ w' =>
    w'.solo i = (w.solo i).release c i := by
  simp only [releaseAll, Prog.wp_bind, wp_rangeStates, true_and]
  intro keys _ hnodup hkeys
  refine (Prog.wp_forM_foldl (V := World.solo i) (g := fun x j => if j = i then x.release c i else x)
    fun j _ w₁ => releaseHeld_solo).mono fun _ w' h => ?_
  rw [h, Prog.foldl_once (Solo.release c i) i hnodup]
  by_cases hi : i ∈ keys
  · exact if_pos hi
  · have hnone : w.gov.state i = .zero := by
      rw [hkeys i, Option.not_isSome_iff_eq_none] at hi
      rw [Governor.state, hi]
      rfl
    have hfree : ¬ ((w.gov.state i).lowPower || (w.gov.state i).manualFan) = true := by
      rw [hnone]
      exact Bool.false_ne_true
    rw [if_neg hi]
    exact (Solo.release_free c i (x := w.solo i) hfree).symm

theorem cleanupGPU_solo {result : Option GoError} {gpu : GPU} :
    (cleanupGPU c result gpu).wp (Step hardwareSucceeds) always w fun _ w' => w'.solo i =
      if gpu.Supported ∧ gpu.index = i then (w.solo i).moves (.zero, releaseCalls c i true) else w.solo i := by
  have hkeep : ∀ {r w'}, (cleanupGPU c result gpu).Exec (Step hardwareSucceeds) w r w' →
      w'.gov.control = w.gov.control ∧ w'.gov.active = w.gov.active :=
    fun he => within_keepsControl (cleanupGPU_uses result gpu) (fun _ h => h.2.keepsControl) he
  by_cases hs : gpu.Supported
  · by_cases hi : gpu.index = i
    · subst hi
      refine (cleanupGPU_spec hs).with_exec.mono fun _ w' ⟨⟨calls, hcalls, hview⟩, he⟩ => ?_
      rw [hcalls.allSucceed] at hview
      rw [if_pos ⟨hs, rfl⟩]
      exact solo_of_view hview (moves_zero_get _ _) (hkeep he)
    · refine Prog.wp_exec.mono fun _ w' he => ?_
      rw [if_neg fun h => hi h.2]
      exact solo_of_others (within_keeps (fun w => w.view i) (cleanupGPU_uses result gpu)
        (fun _ _ _ _ ho => ho.1.view hi) he) (hkeep he)
  · rw [cleanupGPU, if_pos hs, Prog.wp_pure, if_neg fun h => hs h.1]

theorem cleanup_solo (i : Int) : (cleanup c).wp (Step hardwareSucceeds) always w fun _ w' =>
    w'.solo i = (w.solo i).clean c i :=
  Prog.wp_foldlM_foldl (V := World.solo i)
    (g := fun x (gpu : GPU) => if gpu.Supported ∧ gpu.index = i then x.moves (.zero, releaseCalls c i true) else x)
    fun _ _ _ _ => cleanupGPU_solo

theorem disable_solo (i : Int) : (disable c).wp (Step hardwareSucceeds) always w fun _ w' =>
    w'.solo i = (w.solo i).disable c i := by
  simp only [disable, Prog.wp_bind, wp_assign, wp_publishInactive, Prog.wp_pure, true_and]
  refine (releaseAll_solo i).mono fun _ w₁ h _ _ _ _ _ => ?_
  rw [Solo.disable, ← h]
  rfl

theorem fail_solo (err : GoError) (i : Int) : (fail c err).wp (Step hardwareSucceeds) always w fun _ w' =>
    w'.solo i = (w.solo i).fail c i := by
  simp only [fail, Prog.wp_bind, wp_assign, wp_publishError, true_and]
  refine (cleanup_solo i).mono fun _ w₁ h _ _ _ _ => ?_
  rw [Solo.fail, ← h]
  rfl

end

/-! ## Outcomes -/

section
variable {A : Answers} {c : Config} {w w' : World} {i : Int} {o : Op} {a : o.Ans} {d : Dir}

/-- The operation decides nothing. -/
def Op.Bound : Op → Prop
  | .select | .loadControl | .statusActive _ => False
  | _ => True

theorem Op.Bound.outcomes (h : o.Bound) : outcomes (w.after o a d).log = outcomes w.log := by
  cases o <;> first | exact h.elim | rfl

theorem Op.GivesUp.bound (h : o.GivesUp c) : o.Bound := by
  cases o <;> first | exact h.elim | trivial

theorem Op.Polls.bound (h : o.Polls c i) : o.Bound := by
  rcases h with rfl | h
  · trivial
  · cases o <;> first | exact h.elim | trivial

theorem within_outcomes {α : Type} {p : Gov α} {S : Op → Prop} {Q : α → Prop} {r : α} (hp : p.Within S Q)
    (hS : ∀ o, S o → o.Bound) (he : p.Exec (Step A) w r w') : outcomes w'.log = outcomes w.log :=
  within_keeps (fun w => outcomes w.log) hp (fun _ _ _ _ ho => (hS _ ho).outcomes) he

theorem poll_bound {r : Option GoError} (he : (poll c).Exec (Step A) w r w') : outcomes w'.log = outcomes w.log :=
  within_outcomes poll_uses (fun o ho => by
    rcases ho with rfl | ⟨j, ho⟩
    · trivial
    · exact ho.bound) he

theorem disable_bound (he : (disable c).Exec (Step A) w () w') : outcomes w'.log = outcomes w.log :=
  within_outcomes disable_uses (fun _ ho => ho.bound) he

theorem fail_bound {err : GoError} (he : (fail c err).Exec (Step A) w () w') : outcomes w'.log = outcomes w.log :=
  within_outcomes (fail_uses err) (fun _ ho => ho.bound) he

theorem cleanup_bound {r : Option GoError} (he : (cleanup c).Exec (Step A) w r w') : outcomes w'.log = outcomes w.log :=
  within_outcomes cleanup_uses (fun _ ho => ho.givesUp.bound) he

theorem releaseAll_bound {r : PUnit} (he : (releaseAll c).Exec (Step A) w r w') : outcomes w'.log = outcomes w.log :=
  within_outcomes releaseAll_uses (fun _ ho => ho.givesUp.bound) he

/-! ## Looks at the request -/

/-- From `w` to `w'` the card follows the outcomes of a tick; `r` is an error that is still to be dealt with. -/
def Tracks (c : Config) (i : Int) (first : Bool) (shown : Readings) (w : World) (r : Option GoError)
    (w' : World) : Prop :=
  ∃ outs, outcomes w'.log = outs ++ outcomes w.log ∧ ticks outs = 0 ∧
    (w.solo i).follow c i first shown outs = r.elim (w'.solo i) fun err => (w'.solo i).giveUp c i first err

/-- What is left of an applied request once its publication was tried. -/
theorem applyControl_solo (i : Int) {control : Control} : (applyControl c control).wp (Step hardwareSucceeds) always w
    fun r w' => ∃ err : Option GoError, outcomes w'.log = .publish err :: outcomes w.log ∧
      r = err.map (.wrap "publish active status") ∧
      w'.solo i = { (w.solo i).release c i with control := control, active := err.isNone } := by
  rw [applyControl, Prog.wp_bind]
  refine (releaseAll_solo i).with_exec.mono fun _ w₁ hpost => ?_
  obtain ⟨h, he⟩ := hpost
  have houts := releaseAll_bound he
  simp only [Prog.wp_bind, wp_assign, wp_publishActive, true_and]
  intro _ err d _ _
  cases err with
  | none =>
      refine ⟨none, congrArg (List.cons _) houts, rfl, ?_⟩
      rw [← h]
      rfl
  | some err =>
      simp only [Prog.wp_bind, wp_assign, Prog.wp_pure, true_and]
      refine fun _ => ⟨some err, congrArg (List.cons _) houts, rfl, ?_⟩
      rw [← h]
      rfl

variable (i : Int) (first : Bool) (shown : Readings)

theorem changeControl_solo {control : Control} (henabled : control.enabled) :
    (changeControl c control).wp (Step hardwareSucceeds) always w fun r w' => ∃ outs,
      outcomes w'.log = outs ++ outcomes w.log ∧ ticks outs = 0 ∧
      ((w.solo i).loads c i first control).follow c i first shown outs =
        r.elim (w'.solo i) fun err => (w'.solo i).giveUp c i first err := by
  simp only [changeControl, Prog.wp_bind, wp_getGov, Prog.wp_ite, Prog.wp_pure, true_and]
  refine fun _ => ⟨fun hsame => ⟨[], rfl, rfl, ?_⟩, fun hnew => ?_⟩
  · exact (if_neg (not_not_intro henabled)).trans (if_pos hsame)
  · have hloads : (w.solo i).loads c i first control = _ := (if_neg (not_not_intro henabled)).trans (if_neg hnew)
    rw [hloads]
    cases validate c control with
    | some err => exact ⟨[], rfl, rfl, rfl⟩
    | none =>
        refine (applyControl_solo i).mono fun r w' hpost => ?_
        obtain ⟨err, houts, hr, hsolo⟩ := hpost
        refine ⟨[.publish err], houts, rfl, ?_⟩
        subst hr
        cases err with
        | none => exact hsolo.symm
        | some err => exact congrArg (fun x => Solo.giveUp c i x first (.wrap "publish active status" err)) hsolo.symm

theorem ticks_append (outs outs' : List Outcome) : ticks (outs ++ outs') = ticks outs + ticks outs' := by
  induction outs with
  | nil => exact (Nat.zero_add _).symm
  | cons o outs ih =>
      cases o with
      | wake a => simp only [List.cons_append, ticks, ih, Nat.add_right_comm]
      | _ => exact ih

theorem follow_append (x : Solo) (outs outs' : List Outcome) :
    x.follow c i first shown (outs ++ outs') = (x.follow c i first shown outs').follow c i first shown outs :=
  List.foldr_append

theorem syncControl_solo : (syncControl c).wp (Step hardwareSucceeds) always w fun r w' =>
    Tracks c i first shown w r w' := by
  rw [syncControl, Prog.wp_bind, wp_load]
  refine ⟨trivial, ?_⟩
  rintro (err | control) d _ _
  · exact ⟨[.look (.error err)], rfl, rfl, rfl⟩
  · refine Prog.wp_ite.mpr ⟨fun hdisabled => ?_, fun henabled => ?_⟩
    · rw [Prog.wp_bind]
      refine (disable_solo i).with_exec.mono fun _ w' hpost => ?_
      obtain ⟨hsolo, he⟩ := hpost
      refine ⟨[.look (.ok control)], disable_bound he, rfl, ?_⟩
      exact (if_pos hdisabled).trans hsolo.symm
    · refine (changeControl_solo i first shown (Decidable.not_not.mp henabled)).mono fun r w' hpost => ?_
      obtain ⟨outs, houts, hticks, hfollow⟩ := hpost
      refine ⟨outs ++ [.look (.ok control)], ?_, ?_, ?_⟩
      · rw [houts, List.append_assoc]
        rfl
      · rw [ticks_append, hticks]
        rfl
      · rw [follow_append]
        exact hfollow

/-! ## Ticks without a poll -/

theorem startup_solo : (startup c).wp (Step hardwareSucceeds) always w fun _ w' =>
    Tracks c i true shown w none w' := by
  rw [startup, Prog.wp_bind]
  refine (syncControl_solo i true shown).mono fun r w₁ hpost => ?_
  obtain ⟨outs, houts, hticks, hfollow⟩ := hpost
  cases r with
  | none => exact ⟨outs, houts, hticks, hfollow⟩
  | some err =>
      refine Prog.wp_ite.mpr ⟨fun herr => ?_, fun herr => ⟨outs, houts, hticks, hfollow.trans ?_⟩⟩
      · refine (fail_solo err i).with_exec.mono fun _ w₂ hpost => ?_
        obtain ⟨hsolo, he⟩ := hpost
        refine ⟨outs, (fail_bound he).trans houts, hticks, ?_⟩
        exact (hfollow.trans (if_neg herr)).trans hsolo.symm
      · exact if_pos (Decidable.not_not.mp herr)

theorem controlTick_solo : (controlTick c).wp (Step hardwareSucceeds) always w fun _ w' =>
    Tracks c i false shown w none w' := by
  rw [controlTick, Prog.wp_bind]
  refine (syncControl_solo i false shown).mono fun r w₁ hpost => ?_
  obtain ⟨outs, houts, hticks, hfollow⟩ := hpost
  cases r with
  | none => exact ⟨outs, houts, hticks, hfollow⟩
  | some err =>
      refine Prog.wp_ite.mpr ⟨fun herr => ?_, fun herr => ?_⟩
      · refine (disable_solo i).with_exec.mono fun _ w₂ hpost => ?_
        obtain ⟨hsolo, he⟩ := hpost
        refine ⟨outs, (disable_bound he).trans houts, hticks, ?_⟩
        exact (hfollow.trans (if_pos herr)).trans hsolo.symm
      · refine (fail_solo err i).with_exec.mono fun _ w₂ hpost => ?_
        obtain ⟨hsolo, he⟩ := hpost
        refine ⟨outs, (fail_bound he).trans houts, hticks, ?_⟩
        exact (hfollow.trans (if_neg herr)).trans hsolo.symm

end

/-! ## Polls -/

/-- The reading is what the card shows. -/
def Reading.Is (shown : Readings) : Reading → Prop
  | .utilization r => r = .ok shown.utilization
  | .temperature r => r = .ok shown.temperature

section
variable {c : Config} {w w' : World} {i : Int}

/-- What a card shows decides what a poll does to it; a temperature that is not read does not matter. -/
theorem pollStep_is {control : Control} {s : CardState} {ρ shown : Readings}
    (h : ∀ r ∈ pollReadings c control i s ρ, r.Is shown) : pollStep c control i s ρ = pollStep c control i s shown := by
  obtain ⟨u, t⟩ := ρ
  have hu : (Except.ok u : Except GoError _) = .ok shown.utilization :=
    h (.utilization (.ok u)) (List.mem_append_right _ (.head []))
  obtain rfl := Except.ok.inj hu
  unfold pollStep
  by_cases hbusy : shown.utilization > c.options.utilThreshold
  · rw [if_pos hbusy, if_pos hbusy]
  · rw [if_neg hbusy, if_neg hbusy]
    by_cases hwant : FanWanted control (countedStep c i s).1
    · have ht : (Except.ok t : Except GoError _) = .ok shown.temperature := by
        refine h (.temperature (.ok t)) (List.mem_append_left _ ?_)
        rw [if_pos ⟨hbusy, hwant⟩]
        exact .head []
      rw [Except.ok.inj ht]
    · simp only [idleStep, fanStep, if_neg hwant]

theorem forceP8_succeeds (index : Int) :
    (forceP8 c index).wp (Step hardwareSucceeds) always w fun r _ => r = none := by
  rw [forceP8, Prog.wp_bind, wp_call]
  refine ⟨trivial, ?_⟩
  rintro (_ | err) herr
  · exact ⟨trivial, fun _ _ _ => rfl⟩
  · cases herr

theorem resetClocks_succeeds (index : Int) :
    (resetClocks c index).wp (Step hardwareSucceeds) always w fun r _ => r = none := by
  rw [resetClocks, Prog.wp_bind, wp_call]
  refine ⟨trivial, ?_⟩
  rintro (_ | err) herr
  · exact forceP8_succeeds index
  · cases herr

theorem lowPower_succeeds (index : Int) :
    (lowPower c index).wp (Step hardwareSucceeds) always w fun r _ => r = none := by
  simp only [lowPower, Prog.wp_bind, Prog.wp_ite, wp_call, Prog.wp_pure, true_and]
  refine ⟨fun _ => ?_, fun _ => resetClocks_succeeds index⟩
  rintro (_ | err) herr
  · exact resetClocks_succeeds index
  · cases herr

theorem idleFan_succeeds (index : Int) (g : Governor) (t : BitVec 32) :
    (idleFan c index g t).wp (Step hardwareSucceeds) always w fun r _ => r = none := by
  simp only [idleFan, Prog.wp_bind, Prog.wp_ite, wp_call, Prog.wp_pure, true_and]
  refine ⟨fun _ => ⟨fun _ => ?_, fun _ => trivial⟩, fun _ => ⟨fun _ => ?_, fun _ => trivial⟩⟩
  all_goals
    rintro (_ | err) herr
    · exact ⟨trivial, fun _ _ _ => rfl⟩
    · cases herr

theorem pollFan_succeeds (index : Int) :
    (pollFan c index).wp (Step hardwareSucceeds) always w fun r _ => r = none := by
  simp only [pollFan, Prog.wp_bind, wp_getGov, Prog.wp_ite, wp_temperature, Prog.wp_pure, true_and]
  refine fun _ => ⟨fun _ => ?_, fun _ => trivial⟩
  rintro (err | t) hok
  · cases hok
  · exact idleFan_succeeds index _ t

theorem pollCard_succeeds (index : Int) :
    (pollCard c index).wp (Step hardwareSucceeds) always w fun r _ => r = none := by
  rw [pollCard, Prog.wp_bind, wp_utilization]
  refine ⟨trivial, ?_⟩
  rintro (err | u) hok
  · cases hok
  · refine Prog.wp_ite.mpr ⟨fun _ => ?_, fun _ => ?_⟩
    · simp only [pollBusy, Prog.wp_bind, wp_getGov, wp_assign, Prog.wp_ite, Prog.wp_pure, true_and]
      refine fun _ _ => ⟨fun _ => release_spec.mono fun _ _ hpost => ?_, fun _ => trivial⟩
      obtain ⟨_, hcalls, hr, _⟩ := hpost
      exact hr.mpr hcalls.answers
    · simp only [pollIdle, Prog.wp_bind, wp_getGov, wp_assign, Prog.wp_ite, Prog.wp_pure, true_and]
      refine fun _ _ _ => ⟨fun _ => (lowPower_succeeds index).mono fun r _ hr => ?_, fun _ => pollFan_succeeds index⟩
      subst hr
      exact pollFan_succeeds index

theorem poll_succeeds : (poll c).wp (Step hardwareSucceeds) always w fun r _ => r = none := by
  simp only [poll, Prog.wp_bind, wp_getGov, true_and]
  refine fun _ => Prog.wp.mono (Prog.wp_each (I := fun _ => True) (Q := fun _ _ => False) (fun j _ w₁ _ => ?_) trivial)
    ?_
  · refine (pollCard_succeeds j).mono fun r _ hr => ?_
    subst hr
    trivial
  · intro r _ hr
    cases r with
    | none => rfl
    | some err => exact hr.elim

variable {S : Int → Prop} {ρ : Int → Nat → Readings}

/-- In a poll, every reading of the card is what the card shows in this tick. -/
theorem poll_shown {r : Option GoError} (hi : S i) (he : (poll c).Exec (ShownStep S ρ) w r w') :
    ∃ new, readingsOf i w'.log = new ++ readingsOf i w.log ∧
      ∀ x ∈ new, x.Is (ρ i (ticks (outcomes w.log))) := by
  refine (poll_uses.exec (I := fun w' => outcomes w'.log = outcomes w.log ∧ ∃ new,
    readingsOf i w'.log = new ++ readingsOf i w.log ∧ ∀ x ∈ new, x.Is (ρ i (ticks (outcomes w.log)))) ?_ he
    ⟨rfl, [], rfl, fun _ h => absurd h List.not_mem_nil⟩).2.2
  rintro o w₁ a w₂ ho ⟨hst, hshown⟩ ⟨houts, new, hnew, hall⟩
  obtain ⟨-, d, -, rfl⟩ := hst
  have hbound : o.Bound := by
    rcases ho with rfl | ⟨j, ho⟩
    · trivial
    · exact ho.bound
  refine ⟨hbound.outcomes.trans houts, ?_⟩
  cases o with
  | utilization j =>
      by_cases hj : j = i
      · subst hj
        rw [readings_utilization, hnew]
        refine ⟨.utilization a :: new, rfl, List.forall_mem_cons.mpr ⟨?_, hall⟩⟩
        rw [← houts]
        exact hshown hi
      · exact ⟨new, (Op.Unread.readings (o := .utilization j) hj).trans hnew, hall⟩
  | temperature j =>
      by_cases hj : j = i
      · subst hj
        rw [readings_temperature, hnew]
        refine ⟨.temperature a :: new, rfl, List.forall_mem_cons.mpr ⟨?_, hall⟩⟩
        rw [← houts]
        exact hshown hi
      · exact ⟨new, (Op.Unread.readings (o := .temperature j) hj).trans hnew, hall⟩
  | _ => exact ⟨new, hnew, hall⟩

theorem gpuTick_solo (hi : S i) (hinv : Inv c w.gov)
    (he : (gpuTick c).Exec (ShownStep S ρ) (w.next .select .gpuTicker) () w') :
    outcomes w'.log = .wake .gpuTicker :: outcomes w.log ∧ ∀ first,
      w'.solo i = (w.solo i).after c i first (ρ i (ticks (outcomes w.log) + 1)) (.wake .gpuTicker) := by
  obtain ⟨g, w₀, hget, he⟩ := Prog.exec_bind.mp he
  obtain ⟨⟨-, d, ⟨rfl, rfl⟩, rfl⟩, -⟩ := Prog.exec_lift.mp hget
  split at he
  next hactive =>
    obtain ⟨r, w₁, hpoll, he⟩ := Prog.exec_bind.mp he
    have hstep := hpoll.mono fun _ _ _ _ h => And.left h
    obtain rfl := poll_succeeds.exec hstep
    obtain ⟨-, rfl⟩ := he
    have hkeeps := within_keepsControl poll_uses (fun o ho => by
      rcases ho with rfl | ⟨j, ho⟩
      · trivial
      · exact ho.keepsControl) hstep
    refine ⟨poll_bound hstep, fun first => ?_⟩
    by_cases hmem : i ∈ w.gov.control.indices
    · have hstate : (w.polling.view i).state.isSome :=
        (hinv.domain i).mpr (validate_supported (hinv.governs hactive).validated hmem).mem
      obtain ⟨ρ', hview, hreadings⟩ := poll_card (w := w.polling) hstate hmem hstep
      obtain ⟨new, hnew, hall⟩ := poll_shown (w := w.polling) hi hpoll
      obtain rfl := List.append_cancel_right (hreadings.symm.trans hnew)
      rw [pollStep_is hall] at hview
      refine (solo_of_view hview (View.moves_get hstate _) hkeeps).trans ?_
      exact (if_pos ⟨hactive, hmem⟩).symm
    · obtain ⟨g, w₂, hget, hloop⟩ := Prog.exec_bind.mp hstep
      obtain ⟨-, d, ⟨rfl, rfl⟩, rfl⟩ := Prog.exec_lift.mp hget
      refine (solo_of_others (w := w.polling) (poll_others hmem hloop).1 hkeeps).trans ?_
      exact (if_neg fun h => hmem h.2).symm
  next hinactive =>
    obtain ⟨-, rfl⟩ := he
    exact ⟨rfl, fun first => (if_neg fun h => hinactive h.1).symm⟩

/-! ## Runs -/

/-- The outcomes of a tick come on top. -/
theorem run_append (c : Config) (i : Int) (shown : Nat → Readings) {outs : List Outcome} (older : List Outcome)
    (h : ticks outs = 0) : Solo.run c i shown (outs ++ older) =
      (Solo.run c i shown older).follow c i (ticks older == 0) (shown (ticks older + 1)) outs := by
  induction outs with
  | nil => rfl
  | cons o outs ih =>
      cases o with
      | wake a => cases h
      | look r | publish err =>
          have h' : ticks outs = 0 := h
          have hticks : ticks (outs ++ older) = ticks older := by rw [ticks_append, h', Nat.zero_add]
          rw [List.cons_append, Solo.run, ih h', hticks]
          rfl

/-- Seen from card `i`, a run is one of the governor of the card. -/
structure SoloInv (c : Config) (i : Int) (shown : Nat → Readings) (l : Label) (w : World) : Prop where
  run : RunInv c l w
  entry : l = .entry → w.solo i = ⟨⟨false, "", 0⟩, false, .zero, []⟩ ∧ outcomes w.log = []
  solo : l ≠ .entry → w.solo i = Solo.run c i shown (outcomes w.log)
  first : l = .startup → outcomes w.log = []

theorem tracks_run {first : Bool} {shown : Nat → Readings} (h : w.solo i = Solo.run c i shown (outcomes w.log))
    (hfirst : first = (ticks (outcomes w.log) == 0))
    (htracks : Tracks c i first (shown (ticks (outcomes w.log) + 1)) w none w') :
    w'.solo i = Solo.run c i shown (outcomes w'.log) := by
  obtain ⟨outs, houts, hticks, hfollow⟩ := htracks
  rw [houts, run_append c i shown _ hticks, ← h, ← hfirst]
  exact hfollow.symm

/-- Back to the operations without readings. -/
theorem exec_of_shown {α : Type} {p : Gov α} {r : α} (he : p.Exec (ShownStep S ρ) w r w') :
    p.Exec (Step hardwareSucceeds) w r w' :=
  he.mono fun _ _ _ _ h => h.1

theorem wait_solo {l' : Label} (hi : S i) (h : SoloInv c i (ρ i) .wait w)
    (he : (run c .wait).Exec (ShownStep S ρ) w (.goto l') w') :
    w'.solo i = Solo.run c i (ρ i) (outcomes w'.log) ∧ l' = .wait := by
  have hsolo := h.solo (by decide)
  obtain ⟨a, w₁, hselect, he⟩ := Prog.exec_bind.mp he
  obtain ⟨⟨-, d, rfl, rfl⟩, -⟩ := Prog.exec_lift.mp hselect
  cases a with
  | done =>
      obtain ⟨_, _, -, hret, -⟩ := Prog.exec_bind.mp he
      cases hret
  | controlTicker =>
      obtain ⟨_, w₂, htick, hgoto, rfl⟩ := Prog.exec_bind.mp he
      refine ⟨?_, Exit.goto.inj hgoto⟩
      exact tracks_run (w := w.next .select .controlTicker) hsolo rfl
        ((controlTick_solo i _).exec (exec_of_shown htick))
  | gpuTicker =>
      obtain ⟨_, w₂, htick, hgoto, rfl⟩ := Prog.exec_bind.mp he
      obtain ⟨houts, htick⟩ := gpuTick_solo hi h.run.inv htick
      refine ⟨?_, Exit.goto.inj hgoto⟩
      rw [houts, Solo.run, ← hsolo]
      exact htick _

theorem run_solo {l l' : Label} (hi : S i) (h : SoloInv c i (ρ i) l w)
    (he : (run c l).Exec (ShownStep S ρ) w (.goto l') w') : SoloInv c i (ρ i) l' w' := by
  have hrun : RunInv c l' w' := (run_sound h.run).exec (exec_of_shown he)
  cases l with
  | entry =>
      obtain ⟨_, w₁, hclean, hgoto, rfl⟩ := Prog.exec_bind.mp he
      obtain rfl := Exit.goto.inj hgoto
      have houts : outcomes w'.log = [] := (cleanup_bound (exec_of_shown hclean)).trans (h.entry rfl).2
      refine ⟨hrun, nofun, fun _ => ?_, fun _ => houts⟩
      rw [houts, (cleanup_solo i).exec (exec_of_shown hclean), (h.entry rfl).1]
      rfl
  | startup =>
      obtain ⟨_, w₁, hstartup, hgoto, rfl⟩ := Prog.exec_bind.mp he
      obtain rfl := Exit.goto.inj hgoto
      have hfirst : true = (ticks (outcomes w.log) == 0) := by rw [h.first rfl]; rfl
      refine ⟨hrun, nofun, fun _ => ?_, nofun⟩
      exact tracks_run (h.solo (by decide)) hfirst ((startup_solo i _).exec (exec_of_shown hstartup))
  | wait =>
      obtain ⟨hsolo, rfl⟩ := wait_solo hi h he
      exact ⟨hrun, nofun, fun _ => hsolo, nofun⟩

variable {cards : Int → Card} {dir : Dir} {l : Label}

theorem soloInv_of_reaches (hi : S i) (h : ShownComesTo c S ρ cards dir l w) : SoloInv c i (ρ i) l w := by
  refine Goto.Reaches.inv (I := SoloInv c i (ρ i)) h ⟨runInv_start cards dir, fun _ => ⟨?_, rfl⟩,
    fun h => absurd rfl h, nofun⟩
    fun _ _ _ _ hw he => run_solo hi hw he
  simp only [World.solo, start, newGovernor_state]
  rfl

/-- After `Run` returned, the card was cleaned up once more. -/
theorem solo_of_ends (hi : S i) (h : ShownEnds c S ρ cards dir w) : ∃ older,
    outcomes w.log = .wake .done :: older ∧ w.solo i = (Solo.run c i (ρ i) older).clean c i := by
  obtain ⟨l, w₁, hreach, he⟩ := h
  have hinv := soloInv_of_reaches hi hreach
  cases l with
  | entry | startup =>
      obtain ⟨_, _, -, hret, -⟩ := Prog.exec_bind.mp he
      cases hret
  | wait =>
      obtain ⟨a, w₂, hselect, he⟩ := Prog.exec_bind.mp he
      obtain ⟨⟨-, d, rfl, rfl⟩, -⟩ := Prog.exec_lift.mp hselect
      cases a with
      | controlTicker | gpuTicker =>
          obtain ⟨_, _, -, hret, -⟩ := Prog.exec_bind.mp he
          cases hret
      | done =>
          obtain ⟨_, w₃, hclean, -, rfl⟩ := Prog.exec_bind.mp he
          refine ⟨outcomes w₁.log, cleanup_bound (exec_of_shown hclean), ?_⟩
          rw [(cleanup_solo i).exec (exec_of_shown hclean), ← hinv.solo (by decide)]
          rfl

/-! ## What the cards are set to -/

/-- The commands to a card, the newest first, with what they answered. -/
def replay (card : Card) (calls : Calls) : Card := calls.foldr (fun x card => card.step x.1 x.2) card

theorem replay_step {A : Answers} {o : Op} {a : o.Ans} (hst : Step A o w a w')
    (h : w.cards i = replay (cards i) (callsOf i w.log)) : w'.cards i = replay (cards i) (callsOf i w'.log) := by
  obtain ⟨-, d, -, rfl⟩ := hst
  cases o with
  | call cmd =>
      simp only [World.after, cardsStep, callsOf]
      split
      · rw [h]
        rfl
      · exact h
  | _ => exact h

theorem replay_of_reaches (h : ShownComesTo c S ρ cards dir l w) : w.cards i = replay (cards i) (callsOf i w.log) :=
  h.keeps (I := fun w => w.cards i = replay (cards i) (callsOf i w.log))
    (fun _ _ _ _ hst hw => replay_step hst.1 hw) rfl

theorem replay_of_ends (h : ShownEnds c S ρ cards dir w) : w.cards i = replay (cards i) (callsOf i w.log) := by
  obtain ⟨l, w₁, hreach, he⟩ := h
  exact he.inv (I := fun w => w.cards i = replay (cards i) (callsOf i w.log))
    (fun _ _ _ _ hst hw => replay_step hst.1 hw)
    (replay_of_reaches hreach)

end

end Cmp50Unlock.IdleGovernor
