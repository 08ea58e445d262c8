import Cmp50Unlock.IdleGovernor.Lemmas.Gate
import Cmp50Unlock.IdleGovernor.Lemmas.Holds

/-!
# The order of the commands

P8 is forced after the clocks and the offset are out of the way, and lifted before they come back; a fan is set while
its card is in P8, and given back before P8 is lifted. This holds in front of every command, whichever fail.
-/

namespace Cmp50Unlock.IdleGovernor

open Lib

/-! ## Holds that are not lost -/

namespace Hold

variable (h : Hold)

/-- The hold is on, and no command to end it has failed. -/
def Kept (calls : Calls) : Prop := h.held calls = true ∧ ¬h.Lost calls

theorem held_of_recorded {calls : Calls} (hon : h.recorded calls = true) : h.held calls = true := by
  induction calls with
  | nil => exact hon
  | cons x calls ih =>
      obtain ⟨cmd, _ | err⟩ := x
      · cases htakes : h.takes cmd <;> cases hundoes : h.undoes cmd <;> simp_all [recorded, held]
      · cases hundoes : h.undoes cmd <;> simp_all [recorded, held]

theorem kept_iff {calls : Calls} : h.Kept calls ↔ h.recorded calls = true := by
  rw [Kept, lost_iff, not_and, Bool.not_eq_false]
  exact ⟨fun hkept => hkept.2 hkept.1, fun hon => ⟨h.held_of_recorded hon, fun _ => hon⟩⟩

end Hold

/-! ## The order for one card -/

/-- Nothing that is meant for load is set. -/
structure Card.Bare (c : Config) (card : Card) : Prop where
  clocks : card.clocks = .default
  coreOffset : c.hasCoreOffset → card.coreOffset = 0

/-- What has gone before a command to a card. -/
def View.Orders (c : Config) (v : View) : Call → Prop
  | .setPState _ pstate => (pstate = 8 ∧ v.card.Bare c) ∨
      (pstate = autoPState ∧ Hold.manualFan.recorded v.calls = false)
  | .setLockedClocks _ _ _ => Hold.lowPower.recorded v.calls = false
  | .setCoreOffset _ offset => offset = 0 ∨ Hold.lowPower.recorded v.calls = false
  | .setFan _ _ => Hold.lowPower.recorded v.calls = true
  | .resetLockedClocks _ | .setFanAuto _ => True

/-- A card that is recorded in P8 is, and is bare; one with a manual fan is recorded in P8. -/
structure View.Safe (c : Config) (v : View) : Prop where
  lowPower : Hold.lowPower.recorded v.calls = true → v.card.pstate = 8 ∧ v.card.Bare c
  manualFan : Hold.manualFan.recorded v.calls = true → Hold.lowPower.recorded v.calls = true

/-- The guard in front of every operation. -/
def Ordered (c : Config) (w : World) : Op → Prop
  | .call cmd => (w.view cmd.index).Orders c cmd
  | _ => True

section
variable {c : Config} {v : View} {w w' : World} {i : Int} {cmd : Call} {err : Option GoError}

/-- A command about neither P8 nor the fan. -/
theorem recorded_other (h : Hold) (htakes : h.takes cmd = false) (hundoes : h.undoes cmd = false) :
    h.recorded (v.issue cmd err).calls = h.recorded v.calls := by
  cases err <;> simp [View.issue, Hold.recorded, htakes, hundoes]

theorem recorded_undone (h : Hold) (htakes : h.takes cmd = false) (hundoes : h.undoes cmd = true) :
    h.recorded (v.issue cmd err).calls = false := by
  cases err <;> simp [View.issue, Hold.recorded, htakes, hundoes]

theorem View.Safe.issue (h : v.Safe c) (ho : v.Orders c cmd) : (v.issue cmd err).Safe c := by
  cases cmd with
  | setPState j pstate =>
      have hfan : Hold.manualFan.recorded (v.issue (.setPState j pstate) err).calls = Hold.manualFan.recorded v.calls :=
        recorded_other .manualFan rfl rfl
      rcases ho with ⟨rfl, hbare⟩ | ⟨rfl, hauto⟩
      · cases err with
        | none => exact ⟨fun _ => ⟨rfl, hbare.clocks, hbare.coreOffset⟩, fun _ => rfl⟩
        | some err => exact ⟨h.lowPower, h.manualFan⟩
      · have hlow : Hold.lowPower.recorded (v.issue (.setPState j autoPState) err).calls = false :=
          recorded_undone .lowPower rfl rfl
        rw [← hfan] at hauto
        exact ⟨fun hon => absurd hon (by simp [hlow]), fun hon => absurd hon (by simp [hauto])⟩
  | resetLockedClocks j =>
      cases err with
      | none => exact ⟨fun hon => ⟨(h.lowPower hon).1, rfl, (h.lowPower hon).2.coreOffset⟩, h.manualFan⟩
      | some err => exact ⟨h.lowPower, h.manualFan⟩
  | setLockedClocks j minimum maximum =>
      have hlow : Hold.lowPower.recorded (v.issue (.setLockedClocks j minimum maximum) err).calls = false :=
        (recorded_other .lowPower rfl rfl).trans ho
      refine ⟨fun hon => absurd hon (by simp [hlow]), fun hon => ?_⟩
      rw [recorded_other .manualFan rfl rfl] at hon
      rw [recorded_other .lowPower rfl rfl]
      exact h.manualFan hon
  | setCoreOffset j offset =>
      have hkeep : ∀ hold : Hold, hold.recorded (v.issue (.setCoreOffset j offset) err).calls = hold.recorded v.calls :=
        fun hold => recorded_other hold (by cases hold <;> rfl) (by cases hold <;> rfl)
      refine ⟨fun hon => ?_, fun hon => ?_⟩
      · rw [hkeep] at hon
        have hcard := h.lowPower hon
        rcases ho with rfl | hlow
        · cases err with
          | none => exact ⟨hcard.1, hcard.2.clocks, fun _ => rfl⟩
          | some err => exact hcard
        · exact absurd hon (by simp [hlow])
      · rw [hkeep] at hon ⊢
        exact h.manualFan hon
  | setFan j percent =>
      cases err with
      | none => exact ⟨fun hon => ⟨(h.lowPower hon).1, (h.lowPower hon).2.clocks, (h.lowPower hon).2.coreOffset⟩,
          fun _ => ho⟩
      | some err => exact ⟨h.lowPower, h.manualFan⟩
  | setFanAuto j =>
      have hfan : Hold.manualFan.recorded (v.issue (.setFanAuto j) err).calls = false :=
        recorded_undone .manualFan rfl rfl
      refine ⟨fun hon => ?_, fun hon => absurd hon (by simp [hfan])⟩
      rw [recorded_other .lowPower rfl rfl] at hon
      have hcard := h.lowPower hon
      cases err with
      | none => exact ⟨hcard.1, hcard.2.clocks, hcard.2.coreOffset⟩
      | some err => exact hcard

/-- An operation in its order keeps every card safe. -/
theorem safe_step {A : Answers} {o : Op} {a : o.Ans} (ho : Ordered c w o) (hst : Step A o w a w')
    (h : ∀ i, (w.view i).Safe c) (i : Int) : (w'.view i).Safe c := by
  obtain ⟨-, d, -, rfl⟩ := hst
  cases o with
  | call cmd =>
      rw [view_after_call]
      split
      next hi =>
        subst hi
        exact (h _).issue ho
      next => exact h i
  | _ => exact ⟨(h i).lowPower, (h i).manualFan⟩

end

/-! ## Releases -/

section
variable {c : Config} {A : Answers} {w w' : World} {i : Int} {result : Option GoError}

/-- What is recorded of a card. -/
abbrev World.records (w : World) (i : Int) (h : Hold) : Bool := h.recorded (w.view i).calls

theorem view_issued {cmd : Call} {err : Option GoError} {d : Dir} (hi : cmd.index = i) :
    (w.after (.call cmd) err d).view i = (w.view i).issue cmd err := view_after_call.trans (if_pos hi)

theorem records_other {cmd : Call} {err : Option GoError} {d : Dir} (h : Hold) (hi : cmd.index = i)
    (htakes : h.takes cmd = false) (hundoes : h.undoes cmd = false) :
    (w.after (.call cmd) err d).records i h = w.records i h := by
  rw [World.records, view_issued hi]
  exact recorded_other h htakes hundoes

theorem records_undone {cmd : Call} {err : Option GoError} {d : Dir} (h : Hold) (hi : cmd.index = i)
    (htakes : h.takes cmd = false) (hundoes : h.undoes cmd = true) :
    (w.after (.call cmd) err d).records i h = false := by
  rw [World.records, view_issued hi]
  exact recorded_undone h htakes hundoes

theorem clockCall_ordered (hlow : w.records i .lowPower = false) : Ordered c w (.call (c.clockCall i)) := by
  unfold Config.clockCall
  split
  next => exact hlow
  next => trivial

theorem restoreClocks_ordered (hlow : w.records i .lowPower = false) :
    (restoreClocks c i).wp (Step A) (Ordered c) w fun _ w' => w'.records i .lowPower = false := by
  rw [wp_restoreClocks]
  refine ⟨clockCall_ordered hlow, fun err _ => ?_⟩
  exact (records_other .lowPower (clockCall_index i) (clockCall_neutral .lowPower).1
    (clockCall_neutral .lowPower).2).trans hlow

theorem restoreCoreOffset_ordered (hlow : w.records i .lowPower = false) :
    (restoreCoreOffset c i).wp (Step A) (Ordered c) w fun _ w' => w'.records i .lowPower = false := by
  simp only [restoreCoreOffset, Prog.wp_ite, Prog.wp_pure, wp_call]
  exact ⟨fun _ => hlow, fun _ => ⟨.inr hlow, fun _ _ => (records_other .lowPower rfl rfl rfl).trans hlow⟩⟩

theorem restore_ordered (hfan : w.records i .manualFan = false) :
    (restore c i result).wp (Step A) (Ordered c) w fun _ _ => True := by
  rw [restore, Prog.wp_bind, wp_call]
  refine ⟨.inr ⟨rfl, hfan⟩, fun err _ => ?_⟩
  have hlow : (w.next (.call (.setPState i autoPState)) err).records i .lowPower = false :=
    records_undone .lowPower rfl rfl rfl
  rw [Prog.wp_bind]
  refine (restoreCoreOffset_ordered hlow).mono fun _ w₁ hlow₁ => ?_
  rw [Prog.wp_bind]
  refine (restoreClocks_ordered hlow₁).mono fun _ w₂ _ => ?_
  simp only [Prog.wp_bind, wp_assign, Prog.wp_pure]
  exact ⟨trivial, fun _ => trivial⟩

/-- The flags of a card are what is recorded of it. -/
abbrev World.Records (w : World) (i : Int) : Prop := Recorded w.gov.control (w.view i)

theorem release_ordered (h : w.Records i) : (release c i).wp (Step A) (Ordered c) w fun _ _ => True := by
  simp only [release, Prog.wp_bind, wp_getGov, Prog.wp_ite, Prog.wp_pure, wp_call]
  refine ⟨trivial, fun _ => ⟨fun _ => ⟨trivial, fun err _ => ?_⟩, fun hmanual => ?_⟩⟩
  · exact (restore_ordered (records_undone .manualFan rfl rfl rfl)).mono fun _ _ _ => trivial
  · refine (restore_ordered (w := w.next .getGov w.gov) ?_).mono fun _ _ _ => trivial
    exact (h .manualFan).symm.trans (Bool.eq_false_iff.mpr hmanual)

theorem releaseHeld_ordered (hinv : Inv c w.gov) (h : ∀ j, SupportedIndex c j → w.Records j) :
    (releaseHeld c i).wp (Step A) (Ordered c) w fun _ _ => True := by
  simp only [releaseHeld, Prog.wp_bind, wp_getGov, Prog.wp_ite, Prog.wp_pure]
  refine ⟨trivial, fun _ => ⟨fun hheld => ?_, fun _ => trivial⟩⟩
  have hlow : (w.gov.state i).lowPower = true := by
    rcases Bool.or_eq_true_iff.mp hheld with hlow | hmanual
    · exact hlow
    · exact hinv.fan i hmanual
  obtain ⟨hactive, hi⟩ := hinv.held i hlow
  exact (release_ordered (w := w.next .getGov w.gov) (h i (hinv.admitted hactive hi).supported)).mono
    fun _ _ _ => trivial

theorem cleanup_ordered : (cleanup c).wp (Step A) (Ordered c) w fun _ _ => True := by
  refine Prog.wp_foldlM (I := fun _ => True) (fun gpu _ result w₁ _ => ?_) trivial
  rw [cleanupGPU]
  refine Prog.wp_ite.mpr ⟨fun _ => trivial, fun _ => ?_⟩
  rw [Prog.wp_bind, wp_call]
  exact ⟨trivial, fun _ _ => restore_ordered (records_undone .manualFan rfl rfl rfl)⟩

/-! ## Polls -/

theorem forceP8_ordered (hbare : (w.view i).card.Bare c) (hlow : w.records i .lowPower = false) :
    (forceP8 c i).wp (Step A) (Ordered c) w fun _ _ => True := by
  rw [forceP8, Prog.wp_bind, wp_call]
  refine ⟨.inl ⟨rfl, hbare⟩, ?_⟩
  rintro (_ | err) _
  · simp only [Prog.wp_bind, wp_assign, Prog.wp_pure]
    exact ⟨trivial, fun _ => trivial⟩
  · have hlow₁ : (w.next (.call (.setPState i 8)) (some err)).records i .lowPower = false := by
      rw [World.records, view_issued (index_setPState i 8)]
      exact hlow
    rw [Prog.wp_bind]
    refine (restoreClocks_ordered hlow₁).mono fun _ w₁ hlow₂ => ?_
    rw [Prog.wp_bind]
    exact (restoreCoreOffset_ordered hlow₂).mono fun _ _ _ => trivial

theorem resetClocks_ordered (hoffset : c.hasCoreOffset → (w.view i).card.coreOffset = 0)
    (hlow : w.records i .lowPower = false) : (resetClocks c i).wp (Step A) (Ordered c) w fun _ _ => True := by
  rw [resetClocks, Prog.wp_bind, wp_call]
  refine ⟨trivial, ?_⟩
  have hlow₁ : ∀ err, (w.next (.call (.resetLockedClocks i)) err).records i .lowPower = false := fun err =>
    (records_other .lowPower rfl rfl rfl).trans hlow
  rintro (_ | err) _
  · refine forceP8_ordered ?_ (hlow₁ none)
    rw [view_issued (index_resetLockedClocks i)]
    exact ⟨rfl, hoffset⟩
  · rw [Prog.wp_bind]
    exact (restoreCoreOffset_ordered (hlow₁ _)).mono fun _ _ _ => trivial

theorem lowPower_ordered (hlow : w.records i .lowPower = false) :
    (lowPower c i).wp (Step A) (Ordered c) w fun _ _ => True := by
  simp only [lowPower, Prog.wp_bind, Prog.wp_ite, wp_call, Prog.wp_pure]
  refine ⟨fun _ => ⟨.inl rfl, ?_⟩, fun hoff => resetClocks_ordered (fun hon => absurd hon hoff) hlow⟩
  rintro (_ | err) _
  · refine resetClocks_ordered (fun _ => ?_) ((records_other .lowPower rfl rfl rfl).trans hlow)
    rw [view_issued (index_setCoreOffset i 0)]
    rfl
  · trivial

theorem idleFan_ordered {g : Governor} {t : BitVec 32} (hlow : w.records i .lowPower = true) :
    (idleFan c i g t).wp (Step A) (Ordered c) w fun _ _ => True := by
  simp only [idleFan, Prog.wp_bind, Prog.wp_ite, wp_call, Prog.wp_pure]
  refine ⟨fun _ => ⟨fun _ => ⟨trivial, ?_⟩, fun _ => trivial⟩, fun _ => ⟨fun _ => ⟨hlow, ?_⟩, fun _ => trivial⟩⟩
  all_goals
    rintro (_ | err) _
    · simp only [Prog.wp_bind, wp_assign, Prog.wp_pure]
      exact ⟨trivial, fun _ => trivial⟩
    · trivial

theorem pollFan_ordered (h : w.Records i) : (pollFan c i).wp (Step A) (Ordered c) w fun _ _ => True := by
  simp only [pollFan, Prog.wp_bind, wp_getGov, Prog.wp_ite, Prog.wp_pure, wp_temperature]
  refine ⟨trivial, fun _ => ⟨fun hwant => ⟨trivial, ?_⟩, fun _ => trivial⟩⟩
  rintro (err | t) _
  · trivial
  · exact idleFan_ordered (w := (w.next .getGov w.gov).next (.temperature i) (.ok t)) ((h .lowPower).symm.trans hwant.1)

/-- Successful commands that change the flags as they change what is recorded. -/
theorem Recorded.becomes {k : Control} {v : View} {s : CardState} {cmds : List Call} (h : Recorded k v)
    (hstate : v.state.isSome) (hflag : ∀ hold : Hold, hold.flag s = cmds.foldl hold.after (hold.flag v.get)) :
    Recorded k (v.becomes cmds s) := by
  intro hold
  rw [View.becomes_get v hstate]
  change _ = hold.recorded (v.issues (succeeding cmds)).calls
  rw [hold.recorded_succeeding, ← h hold]
  exact hflag hold

theorem pollIdle_ordered (hstate : (w.view i).state.isSome) (h : w.Records i) :
    (pollIdle c i).wp (Step A) (Ordered c) w fun _ _ => True := by
  simp only [pollIdle, Prog.wp_bind, wp_getGov, wp_assign]
  refine ⟨trivial, fun _ => ⟨trivial, fun _ => ⟨trivial, fun _ => ?_⟩⟩⟩
  generalize hw₁ : World.next (World.next (World.next w .getGov w.gov)
    (.assign (.idlePolls i ((w.gov.state i).idlePolls + 1))) ()) .getGov _ = w₁
  have hview : w₁.view i = (w.view i).becomes [] { (w.view i).get with idlePolls := (w.view i).get.idlePolls + 1 } := by
    rw [← hw₁, view_after_getGov, view_counted]
    rfl
  have hsome : (w₁.view i).state.isSome := by rwa [hview, View.becomes_isSome]
  have hrecords : w₁.Records i := by
    rw [World.Records, hview]
    exact Recorded.becomes (k := w₁.gov.control) h hstate fun hold => flag_idlePolls hold _ _
  have hstep : w₁.gov = (World.next (World.next w .getGov w.gov)
      (.assign (.idlePolls i ((w.gov.state i).idlePolls + 1))) ()).gov := by rw [← hw₁]; rfl
  rw [← hstep]
  refine Prog.wp.mono (Q := fun r w' => r = none → w'.Records i) ?_ fun r w₂ hw₂ => ?_
  · refine Prog.wp_iff.mpr ⟨?_, fun r w₂ he hr => ?_⟩
    · refine fun o w₂ => Prog.wp.issued (Q := fun _ _ => True) (Prog.wp_ite.mpr ⟨fun hlow => ?_, fun _ => ?_⟩)
      · rw [Bool.and_eq_true, Bool.not_eq_true'] at hlow
        exact lowPower_ordered ((hrecords .lowPower).symm.trans hlow.1)
      · exact Prog.wp_pure.mpr trivial
    · have hmoves := (lowPowerStep_spec.exec he hr).1
      rw [World.Records, hmoves]
      exact Recorded.becomes (k := w₂.gov.control) hrecords hsome (lowPowerStep_lowPower _).flag
  · cases r with
    | some err => trivial
    | none => exact pollFan_ordered (hw₂ rfl)

theorem pollBusy_ordered (hstate : (w.view i).state.isSome) (h : w.Records i) :
    (pollBusy c i).wp (Step A) (Ordered c) w fun _ _ => True := by
  simp only [pollBusy, Prog.wp_bind, Prog.wp_ite, Prog.wp_pure, wp_getGov, wp_assign]
  refine ⟨trivial, fun _ => ⟨trivial, fun _ => ⟨fun _ => release_ordered ?_, fun _ => trivial⟩⟩⟩
  rw [World.Records, view_after_getGov, view_counted]
  exact Recorded.becomes (k := w.gov.control) h hstate fun hold => flag_idlePolls hold _ _

theorem pollCard_ordered (hstate : (w.view i).state.isSome) (h : w.Records i) :
    (pollCard c i).wp (Step A) (Ordered c) w fun _ _ => True := by
  rw [pollCard, Prog.wp_bind, wp_utilization]
  refine ⟨trivial, ?_⟩
  rintro (err | u) _
  · trivial
  · have hread : (w.next (.utilization i) (.ok u)).Records i := h
    exact Prog.wp_ite.mpr ⟨fun _ => pollBusy_ordered hstate hread, fun _ => pollIdle_ordered hstate hread⟩

/-! ## Runs -/

theorem releaseAll_ordered (hinv : Inv c w.gov) (h : Follows c Recorded w.gov.control w) :
    (releaseAll c).wp (Step A) (Ordered c) w fun _ _ => True := by
  simp only [releaseAll, Prog.wp_bind, wp_rangeStates]
  refine ⟨trivial, fun keys _ _ _ => ?_⟩
  refine Prog.wp.mono (Prog.wp_forM (I := fun w => Inv c w.gov ∧ ∀ control, Follows c Recorded control w)
    (fun j _ w₁ hw₁ => ?_) ⟨hinv, fun _ => h⟩) fun _ _ _ => trivial
  refine (releaseHeld_ordered hw₁.1 fun i hi => hw₁.2 _ i hi).with_exec.mono fun _ w₂ hpost => ?_
  obtain ⟨-, he⟩ := hpost
  have huses : (releaseHeld c j).Uses (Op.Releases c) := (releaseHeld_uses j).mono (fun _ h => h.2) fun _ h => h
  refine ⟨((inv_of_sound (sound_of_releases huses) hw₁.1).exec he).2, fun control i hi => ?_⟩
  exact (recordedRule.releaseHeld (hw₁.2 control i hi)).exec he

theorem disable_ordered (hinv : Inv c w.gov) (h : Follows c Recorded w.gov.control w) :
    (disable c).wp (Step A) (Ordered c) w fun _ _ => True := by
  simp only [disable, Prog.wp_bind, wp_assign, wp_publishInactive, Prog.wp_pure]
  exact (releaseAll_ordered hinv h).mono fun _ _ _ => ⟨trivial, fun _ => ⟨trivial, fun _ _ _ _ => trivial⟩⟩

theorem fail_ordered (err : GoError) : (fail c err).wp (Step A) (Ordered c) w fun _ _ => True := by
  simp only [fail, Prog.wp_bind, wp_assign, wp_publishError]
  exact cleanup_ordered.mono fun _ _ _ => ⟨trivial, fun _ => ⟨trivial, fun _ _ _ => trivial⟩⟩

theorem applyControl_ordered {control : Control} (hinv : Inv c w.gov) (h : Follows c Recorded w.gov.control w) :
    (applyControl c control).wp (Step A) (Ordered c) w fun _ _ => True := by
  simp only [applyControl, Prog.wp_bind, wp_assign, wp_publishActive]
  refine (releaseAll_ordered hinv h).mono fun _ _ _ => ⟨trivial, fun _ => ⟨trivial, ?_⟩⟩
  rintro (_ | err) d _ _
  · trivial
  · exact ⟨trivial, fun _ _ _ => trivial⟩

theorem syncControl_ordered (hinv : Inv c w.gov) (h : Follows c Recorded w.gov.control w) :
    (syncControl c).wp (Step A) (Ordered c) w fun _ _ => True := by
  rw [syncControl, Prog.wp_bind, wp_load]
  refine ⟨trivial, ?_⟩
  rintro (err | control) d _ _
  · trivial
  · refine Prog.wp_ite.mpr ⟨fun _ => ?_, fun _ => ?_⟩
    · rw [Prog.wp_bind]
      exact (disable_ordered (w := w.after .loadControl (.ok control) d) hinv h).mono fun _ _ _ => trivial
    simp only [changeControl, Prog.wp_bind, wp_getGov, Prog.wp_ite, Prog.wp_pure]
    refine ⟨trivial, fun _ => ⟨fun _ => trivial, fun _ => ?_⟩⟩
    cases validate c control with
    | some err => trivial
    | none => exact applyControl_ordered (w := (w.after .loadControl (.ok control) d).next .getGov w.gov) hinv h

/-- A look at the request leaves the cards recorded. -/
theorem syncControl_records (hinv : Inv c w.gov) (h : Follows c Recorded w.gov.control w) :
    (syncControl c).wp (Step A) (Ordered c) w fun _ w' => Inv c w'.gov ∧ Follows c Recorded w'.gov.control w' :=
  ((syncControl_ordered hinv h).and ((inv_of_sound syncControl_spec hinv).and (recordedRule.syncControl h))).imp
    (fun _ _ h => h.1) fun _ _ h => ⟨h.2.1.2, h.2.2⟩

theorem poll_ordered (hinv : Inv c w.gov) (hactive : w.gov.active) (h : Follows c Recorded w.gov.control w) :
    (poll c).wp (Step A) (Ordered c) w fun _ _ => True := by
  have hsupported : ∀ i ∈ w.gov.control.indices, SupportedIndex c i := fun i hi =>
    validate_supported (hinv.governs hactive).validated hi
  rw [poll, Prog.wp_bind, wp_getGov]
  refine ⟨trivial, fun _ => ?_⟩
  refine Prog.wp.mono (Prog.wp_each (I := fun w₁ => Follows c Recorded w₁.gov.control w₁ ∧
    ∀ i ∈ w.gov.control.indices, (w₁.view i).state.isSome) (Q := fun _ _ => True) (fun j hj w₁ hw₁ => ?_)
    ⟨h, fun i hi => (hinv.domain i).mpr (hsupported i hi).mem⟩) fun _ _ _ => trivial
  have hrecords : w₁.Records j := hw₁.1 j (hsupported j hj)
  refine (pollCard_ordered (hw₁.2 j hj) hrecords).with_exec.mono fun r w₂ hpost => ?_
  obtain ⟨-, he⟩ := hpost
  cases r with
  | some err => trivial
  | none => exact ⟨(recordedRule.pollCard (hw₁.2 j hj) hw₁.1).exec he rfl, fun i hi =>
      (exec_isSome he).trans (hw₁.2 i hi)⟩

/-- What is known where `Run` comes to. -/
structure Wound (c : Config) (l : Label) (w : World) : Prop extends RunInv c l w where
  records : l ≠ .entry → Follows c Recorded w.gov.control w

theorem run_ordered {l : Label} (h : Wound c l w) : (run c l).wp (Step A) (Ordered c) w fun _ _ => True := by
  cases l with
  | entry =>
      simp only [run, Prog.wp_bind, Prog.wp_pure]
      exact cleanup_ordered.mono fun _ _ _ => trivial
  | startup =>
      simp only [run, startup, Prog.wp_bind, Prog.wp_pure]
      refine (syncControl_ordered h.inv (h.records (by decide))).mono fun r w₁ _ => ?_
      cases r with
      | none => trivial
      | some err => exact Prog.wp_ite.mpr ⟨fun _ => fail_ordered err, fun _ => trivial⟩
  | wait =>
      have hrecords : Follows c Recorded w.gov.control w := h.records (by decide)
      rw [run, Prog.wp_bind, wp_select]
      refine ⟨trivial, ?_⟩
      rintro (_ | _ | _) _
      · simp only [Prog.wp_bind, Prog.wp_pure]
        exact cleanup_ordered.mono fun _ _ _ => trivial
      · simp only [controlTick, Prog.wp_bind, Prog.wp_pure]
        refine (syncControl_records (w := w.next .select .controlTicker) h.inv hrecords).mono fun r w₁ hw₁ => ?_
        cases r with
        | none => trivial
        | some err => exact Prog.wp_ite.mpr ⟨fun _ => disable_ordered hw₁.1 hw₁.2, fun _ => fail_ordered err⟩
      · simp only [gpuTick, Prog.wp_bind, wp_getGov, Prog.wp_ite, Prog.wp_pure]
        refine ⟨trivial, fun _ => ⟨fun hactive => ?_, fun _ => trivial⟩⟩
        refine (poll_ordered (w := (w.next .select .gpuTicker).next .getGov w.gov) h.inv hactive hrecords).mono
          fun r w₁ _ => ?_
        cases r with
        | none => trivial
        | some err => exact fail_ordered err

variable {cards : Int → Card} {dir : Dir} {o : Op}

theorem safe_start (i : Int) : ((start c cards dir).view i).Safe c where
  lowPower hon := absurd hon Bool.false_ne_true
  manualFan hon := absurd hon Bool.false_ne_true

theorem wound_start : Wound c .entry (start c cards dir) := ⟨runInv_start cards dir, fun h => absurd rfl h⟩

/-- Wherever `Run` comes to, all cards are safe. -/
theorem ComesTo.wound {l : Label} (h : ComesTo c A cards dir l w) : Wound c l w ∧ ∀ i, (w.view i).Safe c := by
  refine Goto.Reaches.inv (I := fun l w => Wound c l w ∧ ∀ i, (w.view i).Safe c) h ⟨wound_start, safe_start⟩ ?_
  intro l₁ w₁ l₂ w₂ hw₁ he
  obtain ⟨hwound, hsafe⟩ := hw₁
  refine ⟨⟨(run_sound hwound.toRunInv).exec he, fun _ => ?_⟩, ?_⟩
  · exact (recordedRule.run hwound.inv hwound.records).exec he
  · exact ((run_ordered hwound).inv (fun _ _ _ _ => safe_step) hsafe |>.exec he).2

/-- Every operation is issued in its order, with all cards safe. -/
theorem Issues.ordered (h : Issues c A cards dir o w) : Ordered c w o ∧ ∀ i, (w.view i).Safe c := by
  obtain ⟨l, w₁, hreach, hissued⟩ := h
  obtain ⟨hwound, hsafe⟩ := ComesTo.wound hreach
  exact ((run_ordered hwound).inv (fun _ _ _ _ => safe_step) hsafe).issued hissued

end

end Cmp50Unlock.IdleGovernor
