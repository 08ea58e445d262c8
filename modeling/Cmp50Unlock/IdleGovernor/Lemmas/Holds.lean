import Cmp50Unlock.IdleGovernor.Lemmas.Rule

/-!
# Flags and failed commands

The flags say what was last attempted, not what was last achieved: a release clears them whatever its commands
answered. So a hold that the flags do not show is one whose end was attempted and failed.
-/

namespace Cmp50Unlock.IdleGovernor

open Lib

/-! ## What the flags record -/

namespace Hold

variable (h : Hold)

/-- What the flag should say after `calls`: the hold begins with a success, and ends with an attempt. -/
def recorded : Calls → Bool
  | [] => false
  | (cmd, none) :: calls => if h.takes cmd then true else if h.undoes cmd then false else recorded calls
  | (cmd, some _) :: calls => if h.undoes cmd then false else recorded calls

/-- The hold after a successful command. -/
def after (b : Bool) (cmd : Call) : Bool := if h.takes cmd then true else if h.undoes cmd then false else b

theorem recorded_succeeding (v : View) (cmds : List Call) :
    h.recorded (v.issues (succeeding cmds)).calls = cmds.foldl h.after (h.recorded v.calls) := by
  induction cmds generalizing v with
  | nil => rfl
  | cons cmd cmds ih => exact ih (v.issue cmd none)

theorem held_succeeding (v : View) (cmds : List Call) :
    h.held (v.issues (succeeding cmds)).calls = cmds.foldl h.after (h.held v.calls) := by
  induction cmds generalizing v with
  | nil => rfl
  | cons cmd cmds ih => exact ih (v.issue cmd none)

/-- Commands of which none begins the hold: it is recorded as ended if one of them would end it. -/
theorem recorded_attempts {calls : Calls} (htakes : ∀ x ∈ calls, h.takes x.1 = false) (v : View) :
    h.recorded (v.issues calls).calls = (h.recorded v.calls && !calls.any fun x => h.undoes x.1) := by
  induction calls generalizing v with
  | nil => simp
  | cons x calls ih =>
      obtain ⟨cmd, err⟩ := x
      have hcmd : h.takes cmd = false := htakes (cmd, err) (.head calls)
      have hrecorded : h.recorded (v.issue cmd err).calls = (h.recorded v.calls && !h.undoes cmd) := by
        cases err <;> cases hundoes : h.undoes cmd <;> simp [View.issue, recorded, hcmd, hundoes]
      rw [View.issues_cons, ih (fun x hx => htakes x (.tail _ hx)), hrecorded, List.any_cons,
        Bool.not_or, Bool.and_assoc]

/-! ## Lost releases -/

variable {h}

theorem lost_cons_none {cmd : Call} {calls : Calls} :
    h.Lost ((cmd, none) :: calls) ↔ (h.takes cmd = false ∧ h.undoes cmd = false) ∧ h.Lost calls := by
  constructor
  · rintro ⟨newer, cmd', err, older, heq, hundoes, hheld, hnewer⟩
    cases newer with
    | nil => cases heq
    | cons x newer =>
        cases heq
        have hx := hnewer (cmd, none) (.head _) rfl
        exact ⟨⟨Bool.eq_false_iff.mpr hx.1, Bool.eq_false_iff.mpr hx.2⟩,
          newer, cmd', err, older, rfl, hundoes, hheld, fun x hx => hnewer x (.tail _ hx)⟩
  · rintro ⟨⟨htakes, hundo⟩, newer, cmd', err, older, rfl, hundoes, hheld, hnewer⟩
    refine ⟨(cmd, none) :: newer, cmd', err, older, rfl, hundoes, hheld, ?_⟩
    rintro x (_ | ⟨_, hx⟩)
    · exact fun _ => ⟨Bool.eq_false_iff.mp htakes, Bool.eq_false_iff.mp hundo⟩
    · exact hnewer x hx

theorem lost_cons_some {cmd : Call} {err : GoError} {calls : Calls} :
    h.Lost ((cmd, some err) :: calls) ↔ (h.undoes cmd ∧ h.held calls) ∨ h.Lost calls := by
  constructor
  · rintro ⟨newer, cmd', err', older, heq, hundoes, hheld, hnewer⟩
    cases newer with
    | nil =>
        cases heq
        exact .inl ⟨hundoes, hheld⟩
    | cons x newer =>
        cases heq
        exact .inr ⟨newer, cmd', err', older, rfl, hundoes, hheld, fun x hx => hnewer x (.tail _ hx)⟩
  · rintro (⟨hundoes, hheld⟩ | ⟨newer, cmd', err', older, rfl, hundoes, hheld, hnewer⟩)
    · exact ⟨[], cmd, err, calls, rfl, hundoes, hheld, fun _ hx => absurd hx List.not_mem_nil⟩
    · refine ⟨(cmd, some err) :: newer, cmd', err', older, rfl, hundoes, hheld, ?_⟩
      rintro x (_ | ⟨_, hx⟩)
      · exact fun h => nomatch h
      · exact hnewer x hx

theorem not_lost_nil : ¬ h.Lost [] := by
  rintro ⟨newer, cmd, err, older, heq, -⟩
  cases newer <;> cases heq

/-- A lost hold is one that holds the card and is not recorded. -/
theorem lost_iff (calls : Calls) : h.Lost calls ↔ h.held calls = true ∧ h.recorded calls = false := by
  induction calls with
  | nil => exact iff_of_false not_lost_nil fun hnil => Bool.false_ne_true hnil.1
  | cons x calls ih =>
      obtain ⟨cmd, _ | err⟩ := x
      · rw [lost_cons_none, ih]
        cases htakes : h.takes cmd <;> cases hundoes : h.undoes cmd <;> simp [held, recorded, htakes, hundoes]
      · rw [lost_cons_some, ih]
        cases hundoes : h.undoes cmd
        · simp [held, recorded, hundoes]
        · simpa [held, recorded, hundoes] using fun hheld _ => hheld

end Hold

/-! ## What releases and polls record -/

section
variable {c : Config} {i : Int}

theorem clockCall_neutral (h : Hold) : h.takes (c.clockCall i) = false ∧ h.undoes (c.clockCall i) = false := by
  unfold Config.clockCall
  split <;> cases h <;> exact ⟨rfl, rfl⟩

theorem offsetCalls_neutral (h : Hold) {cmd : Call} (hcmd : cmd ∈ offsetCalls c i) :
    h.takes cmd = false ∧ h.undoes cmd = false := by
  unfold offsetCalls at hcmd
  split at hcmd
  · obtain rfl := List.mem_singleton.mp hcmd
    cases h <;> exact ⟨rfl, rfl⟩
  · cases hcmd

/-- No command of a release begins a hold. -/
theorem releaseCalls_takes (h : Hold) {fan : Bool} {cmd : Call} (hcmd : cmd ∈ releaseCalls c i fan) :
    h.takes cmd = false := by
  simp only [releaseCalls, restoreCalls, List.mem_append, List.mem_cons, List.not_mem_nil, or_false] at hcmd
  rcases hcmd with hcmd | rfl | hcmd | rfl
  · cases fan
    · cases hcmd
    · obtain rfl := List.mem_singleton.mp hcmd
      cases h <;> rfl
  · cases h <;> rfl
  · exact (offsetCalls_neutral h hcmd).1
  · exact (clockCall_neutral h).1

/-- A release ends P8, and the manual fan if it is asked to. -/
theorem releaseCalls_undoes (h : Hold) (fan : Bool) :
    (releaseCalls c i fan).any h.undoes = (h == .lowPower || fan) := by
  have hrest : (offsetCalls c i ++ [c.clockCall i]).any h.undoes = false := by
    rw [List.any_eq_false]
    intro cmd hcmd
    rcases List.mem_append.mp hcmd with hcmd | hcmd
    · exact Bool.eq_false_iff.mp (offsetCalls_neutral h hcmd).2
    · obtain rfl := List.mem_singleton.mp hcmd
      exact Bool.eq_false_iff.mp (clockCall_neutral h).2
  rw [releaseCalls, restoreCalls, List.any_append, List.any_cons, hrest]
  cases h <;> cases fan <;> rfl

theorem LowPower.flag {s s' : CardState} {cmds : List Call} (h : LowPower c i s s' cmds) (hold : Hold) :
    hold.flag s' = cmds.foldl hold.after (hold.flag s) := by
  cases h with
  | stays => rfl
  | forced hlow =>
      unfold lowPowerCalls
      split <;> cases hold <;> rfl

theorem FanStep.flag {control : Control} {s s' : CardState} {cmds : List Call} (h : FanStep c control i s s' cmds)
    (hold : Hold) : hold.flag s' = cmds.foldl hold.after (hold.flag s) := by
  cases h <;> cases hold <;> rfl

variable {A : Answers}

theorem recorded_release {v : View} {fan : Bool} {calls : Calls} (h : Hold)
    (hcalls : Attempts A (releaseCalls c i fan) calls) :
    h.recorded (v.issues calls).calls = (h.recorded v.calls && !(h == .lowPower || fan)) := by
  have htakes : ∀ x ∈ calls, h.takes x.1 = false := fun x hx =>
    releaseCalls_takes h (hcalls.cmds ▸ List.mem_map_of_mem hx : x.1 ∈ releaseCalls c i fan)
  have hany : (calls.any fun x => h.undoes x.1) = (releaseCalls c i fan).any h.undoes := by
    rw [← hcalls.cmds, List.any_map]
    rfl
  rw [h.recorded_attempts htakes, hany, releaseCalls_undoes]

/-- The flags are what is recorded. -/
def Recorded (_ : Control) (v : View) : Prop := ∀ h : Hold, h.flag v.get = h.recorded v.calls

theorem flag_idlePolls (h : Hold) (s : CardState) (n : Int) : h.flag { s with idlePolls := n } = h.flag s := by
  cases h <;> rfl

theorem recorded_released {v : View} {calls : Calls} (control : Control) (h : Recorded control v)
    (hcalls : Attempts A (releaseCalls c i v.get.manualFan) calls) :
    Recorded control ((v.issues calls).update fun _ => .zero) := by
  intro hold
  have hflag := h hold
  rw [cleared_get, flag_zero]
  change false = hold.recorded (v.issues calls).calls
  rw [recorded_release hold hcalls, ← hflag]
  cases hold with
  | lowPower => exact (Bool.and_false _).symm
  | manualFan => exact (Bool.and_not_self _).symm

theorem recorded_polled {control : Control} {v : View} {u : BitVec 32} {s : CardState} {cmds : List Call}
    (hstate : v.state.isSome) (h : Recorded control v) (hpolled : Polled c control i v.get u s cmds) :
    Recorded control (v.becomes cmds s) := by
  intro hold
  rw [View.becomes_get v hstate]
  change _ = hold.recorded (v.issues (succeeding cmds)).calls
  cases hpolled with
  | busy _ hbusy => exact (flag_idlePolls hold _ _).trans (h hold)
  | released _ hheld =>
      have hcalls : Attempts anyAnswer (releaseCalls c i v.get.manualFan)
          (succeeding (releaseCalls c i v.get.manualFan)) :=
        ⟨by simp [succeeding, Function.comp_def], fun _ _ => trivial⟩
      have hrel := recorded_released control h hcalls hold
      rwa [cleared_get] at hrel
  | @idle _ _ cmds₁ cmds₂ _ hlow hfan =>
      rw [hold.recorded_succeeding, List.foldl_append, ← h hold]
      have hlowFlag : hold.flag _ = cmds₁.foldl hold.after (hold.flag v.get) :=
        (hlow.flag hold).trans (congrArg (cmds₁.foldl hold.after) (flag_idlePolls hold v.get _))
      exact (hfan.flag hold).trans (congrArg (cmds₂.foldl hold.after) hlowFlag)

theorem recordedRule : CardRule c A Recorded where
  free _ _ _ _ h := h
  released control _ _ _ h hcalls := recorded_released control h hcalls
  cleaned control v i calls hcalls hold := by
    rw [cleared_get, flag_zero]
    change false = hold.recorded (v.issues calls).calls
    rw [recorded_release hold hcalls, Bool.or_true, Bool.not_true, Bool.and_false]
  polled _ _ _ _ _ _ hstate h hpolled := recorded_polled hstate h hpolled

end

end Cmp50Unlock.IdleGovernor
