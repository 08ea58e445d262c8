import Cmp50Unlock.IdleGovernor.Lemmas.Poll

/-!
# The request that is followed

An invariant of every operation: while the governor is active it follows a request that passed all checks, and only
cards of its profile are held. Each assignment keeps it where it stands.
-/

namespace Cmp50Unlock.IdleGovernor

open Lib

/-! ## The invariant -/

/-- No flag of the card is set. -/
def Governor.Free (g : Governor) (i : Int) : Prop := ∀ h : Hold, h.flag (g.state i) = false

structure Inv (c : Config) (g : Governor) : Prop where
  domain : ∀ i, (g.states i).isSome ↔ i ∈ c.gpus.map GPU.index
  governs : g.active → Governs c g.control
  held : ∀ i, (g.state i).lowPower → g.active ∧ i ∈ g.control.indices
  fan : ∀ i, (g.state i).manualFan → (g.state i).lowPower

/-- When an operation keeps the invariant. -/
def Sound (c : Config) (w : World) : Op → Prop
  | .assign (.lowPower i) => w.gov.active ∧ i ∈ w.gov.control.indices
  | .assign (.manualFan i b) => b → (w.gov.state i).lowPower
  | .assign (.activate control) => Governs c control ∧ ∀ i, w.gov.Free i
  | .assign .deactivate => ∀ i, w.gov.Free i
  | _ => True

section
variable {c : Config} {g : Governor} {i j : Int}

theorem Governor.Free.lowPower (h : g.Free i) : ¬ (g.state i).lowPower = true := by
  rw [show (g.state i).lowPower = false from h .lowPower]
  exact Bool.false_ne_true

theorem state_update (g : Governor) (i j : Int) (f : CardState → CardState) : (g.update j f).state i = g.state i ∨
    j = i ∧ (g.update j f).state i = f (g.state i) := by
  by_cases hj : j = i
  · cases hs : g.states i with
    | none => exact .inl (by simp [Governor.state, Governor.update, hj, hs])
    | some s => exact .inr ⟨hj, by simp [Governor.state, Governor.update, hj, hs]⟩
  · exact .inl (by simp [Governor.state, Governor.update, hj])

theorem Inv.update (h : Inv c g) (j : Int) {f : CardState → CardState}
    (hlow : (f (g.state j)).lowPower → g.active ∧ j ∈ g.control.indices)
    (hfan : (f (g.state j)).manualFan → (f (g.state j)).lowPower) : Inv c (g.update j f) where
  domain i := (isSome_states_update g f ▸ h.domain i : _)
  governs := h.governs
  held i hi := by
    rcases state_update g i j f with hs | ⟨rfl, hs⟩
    · exact h.held i (hs ▸ hi)
    · exact hlow (hs ▸ hi)
  fan i hi := by
    rcases state_update g i j f with hs | ⟨rfl, hs⟩
    · exact hs.symm ▸ h.fan i (hs ▸ hi)
    · exact hs.symm ▸ hfan (hs ▸ hi)

/-- What is true of an assignment that changes neither the request nor a card. -/
theorem Inv.control (h : Inv c g) (hfree : ∀ i, g.Free i) {control : Control} {active : Bool}
    (hgov : active → Governs c control) : Inv c { g with control := control, active := active } where
  domain := h.domain
  governs := hgov
  held i hi := absurd hi (hfree i).lowPower
  fan := h.fan

theorem Inv.step {A : Answers} {w w' : World} {o : Op} {a : o.Ans} (hsound : Sound c w o) (hst : Step A o w a w')
    (h : Inv c w.gov) : Inv c w'.gov := by
  obtain ⟨-, d, -, rfl⟩ := hst
  cases o with
  | assign x =>
      cases x with
      | idlePolls i n => exact h.update i (h.held i) (h.fan i)
      | lowPower i => exact h.update i (fun _ => hsound) fun _ => rfl
      | manualFan i b => exact h.update i (h.held i) hsound
      | clear i => exact h.update i (fun h => nomatch h) fun h => nomatch h
      | activate control => exact h.control hsound.2 fun _ => hsound.1
      | deactivate => exact h.control hsound fun h => nomatch h
  | _ => exact h

theorem newGovernor_state (c : Config) (i : Int) : (newGovernor c).state i = .zero := by
  simp only [Governor.state, newGovernor]
  split <;> rfl

theorem inv_newGovernor : Inv c (newGovernor c) where
  domain i := by
    simp only [newGovernor]
    split
    next h => exact iff_of_true rfl h
    next h => exact iff_of_false Bool.false_ne_true h
  governs h := nomatch h
  held i hi := by
    rw [newGovernor_state] at hi
    cases hi
  fan i hi := by
    rw [newGovernor_state] at hi
    cases hi

end

/-! ## Every function keeps it -/

section
variable {c : Config} {w : World} {A : Answers} {α : Type} {p : Gov α} {Q : α → World → Prop}

theorem inv_of_sound (h : p.wp (Step A) (Sound c) w Q) (hinv : Inv c w.gov) :
    p.wp (Step A) (Sound c) w fun r w' => Q r w' ∧ Inv c w'.gov :=
  (h.inv (I := fun w => Inv c w.gov) (fun _ _ _ _ => Inv.step) hinv).guard fun _ _ h => h.1

theorem Op.Releases.sound {o : Op} (h : o.Releases c) (w : World) : Sound c w o := by
  unfold Sound
  split <;> first | exact h.elim | trivial

theorem sound_of_releases (h : p.Uses (Op.Releases c)) :
    p.wp (Step A) (Sound c) w fun r w' => p.Exec (Step A) w r w' :=
  Prog.wp_iff.mpr ⟨fun _ w' hi => (h.issued hi).sound w', fun _ _ he => he⟩

variable {index : Int}

theorem forceP8_sound (h : w.gov.active ∧ index ∈ w.gov.control.indices) :
    (forceP8 c index).wp (Step A) (Sound c) w fun _ _ => True := by
  rw [forceP8, Prog.wp_bind, wp_call]
  refine ⟨trivial, ?_⟩
  rintro (_ | err) _
  · exact ⟨h, fun _ _ _ => trivial⟩
  · simp only [Prog.wp_bind, Prog.wp_pure, wp_restoreClocks]
    exact ⟨trivial, fun _ _ => (sound_of_releases (restoreCoreOffset_uses fun h => h)).mono fun _ _ _ => trivial⟩

theorem resetClocks_sound (h : w.gov.active ∧ index ∈ w.gov.control.indices) :
    (resetClocks c index).wp (Step A) (Sound c) w fun _ _ => True := by
  rw [resetClocks, Prog.wp_bind, wp_call]
  refine ⟨trivial, ?_⟩
  rintro (_ | err) _
  · exact forceP8_sound h
  · simp only [Prog.wp_bind, Prog.wp_pure]
    exact (sound_of_releases (restoreCoreOffset_uses fun h => h)).mono fun _ _ _ => trivial

theorem lowPower_sound (h : w.gov.active ∧ index ∈ w.gov.control.indices) :
    (lowPower c index).wp (Step A) (Sound c) w fun _ _ => True := by
  simp only [lowPower, Prog.wp_bind, Prog.wp_ite, wp_call, Prog.wp_pure]
  refine ⟨fun _ => ⟨trivial, ?_⟩, fun _ => resetClocks_sound h⟩
  rintro (_ | err) _
  · exact resetClocks_sound h
  · trivial

theorem idleFan_sound {g : Governor} {t : BitVec 32} (h : (w.gov.state index).lowPower) :
    (idleFan c index g t).wp (Step A) (Sound c) w fun _ _ => True := by
  simp only [idleFan, Prog.wp_bind, Prog.wp_ite, wp_call, Prog.wp_pure]
  refine ⟨fun _ => ⟨fun _ => ⟨trivial, ?_⟩, fun _ => trivial⟩, fun _ => ⟨fun _ => ⟨trivial, ?_⟩, fun _ => trivial⟩⟩
  · rintro (_ | err) _
    · exact ⟨fun h => absurd h Bool.false_ne_true, fun _ _ _ => trivial⟩
    · trivial
  · rintro (_ | err) _
    · exact ⟨fun _ => h, fun _ _ _ => trivial⟩
    · trivial

theorem pollFan_sound : (pollFan c index).wp (Step A) (Sound c) w fun _ _ => True := by
  simp only [pollFan, Prog.wp_bind, wp_getGov, Prog.wp_ite, wp_temperature, Prog.wp_pure]
  refine ⟨trivial, fun _ => ⟨fun h => ⟨trivial, ?_⟩, fun _ => trivial⟩⟩
  rintro (err | t) _
  · trivial
  · exact idleFan_sound h.1

theorem pollIdle_sound (h : w.gov.active ∧ index ∈ w.gov.control.indices) :
    (pollIdle c index).wp (Step A) (Sound c) w fun _ _ => True := by
  simp only [pollIdle, Prog.wp_bind, wp_getGov, wp_assign, Prog.wp_ite, Prog.wp_pure]
  refine ⟨trivial, fun _ => ⟨trivial, fun _ => ⟨trivial, fun _ => ⟨fun _ => ?_, fun _ => pollFan_sound⟩⟩⟩⟩
  refine Prog.wp.mono (lowPower_sound ?_) fun r w' _ => ?_
  · exact h
  · cases r with
    | none => exact pollFan_sound
    | some err => trivial

theorem pollBusy_sound : (pollBusy c index).wp (Step A) (Sound c) w fun _ _ => True := by
  simp only [pollBusy, Prog.wp_bind, wp_getGov, wp_assign, Prog.wp_ite, Prog.wp_pure]
  refine ⟨trivial, fun _ => ⟨trivial, fun _ => ⟨fun _ => ?_, fun _ => trivial⟩⟩⟩
  exact (sound_of_releases ((release_uses index).mono (fun _ h => h.2) fun _ h => h)).mono fun _ _ _ => trivial

theorem pollCard_sound (h : w.gov.active ∧ index ∈ w.gov.control.indices) :
    (pollCard c index).wp (Step A) (Sound c) w fun _ _ => True := by
  rw [pollCard, Prog.wp_bind, wp_utilization]
  refine ⟨trivial, ?_⟩
  rintro (err | u) _
  · trivial
  · exact Prog.wp_ite.mpr ⟨fun _ => pollBusy_sound, fun _ => pollIdle_sound h⟩

theorem poll_sound (h : w.gov.active) : (poll c).wp (Step A) (Sound c) w fun _ _ => True := by
  rw [poll, Prog.wp_bind, wp_getGov]
  refine ⟨trivial, fun _ => ?_⟩
  refine Prog.wp.mono (Prog.wp_each (I := fun w' => w'.gov.active ∧ w'.gov.control = w.gov.control)
    (Q := fun _ _ => True) (fun i hi w₁ hw₁ => ?_) ⟨h, rfl⟩) fun _ _ _ => trivial
  refine (pollCard_sound ⟨hw₁.1, hw₁.2.symm ▸ hi⟩).with_exec.mono fun r w₂ hpost => ?_
  obtain ⟨_, he⟩ := hpost
  cases r with
  | none =>
      obtain ⟨hcontrol, hactive⟩ := within_keepsControl (pollCard_uses i) (fun _ h => h.keepsControl) he
      exact ⟨hactive.trans hw₁.1, hcontrol.trans hw₁.2⟩
  | some err => trivial

end

end Cmp50Unlock.IdleGovernor
