import Cmp50Unlock.IdleGovernor.Lemmas.Footprint
import Cmp50Unlock.IdleGovernor.Spec

/-!
# One card of the world

The view of a card is everything that concerns it. Operations on other cards leave it as it is.
-/

namespace Cmp50Unlock.IdleGovernor

open Lib

/-! ## Views -/

/-- What the governor remembers of a card, what the card is set to, and the commands to it. -/
structure View where
  state : Option CardState
  card : Card
  calls : Calls

namespace View

variable (v : View)

/-- What `g.states` says of the card. -/
def get : CardState := v.state.getD .zero

def issue (cmd : Call) (err : Option GoError) : View := ⟨v.state, v.card.step cmd err, (cmd, err) :: v.calls⟩

def update (f : CardState → CardState) : View := { v with state := v.state.map f }

@[simp] theorem issue_state (cmd : Call) (err : Option GoError) : (v.issue cmd err).state = v.state := rfl

@[simp] theorem issue_get (cmd : Call) (err : Option GoError) : (v.issue cmd err).get = v.get := rfl

@[simp] theorem update_isSome (f : CardState → CardState) : (v.update f).state.isSome = v.state.isSome := by
  simp [update]

theorem update_get {f : CardState → CardState} (h : v.state.isSome) : (v.update f).get = f v.get := by
  obtain ⟨s, hs⟩ := Option.isSome_iff_exists.mp h
  simp [update, get, hs]

end View

def World.view (w : World) (i : Int) : View := ⟨w.gov.states i, w.cards i, callsOf i w.log⟩

section
variable {w : World} {i j : Int} {d : Dir}

@[simp] theorem view_after_call {cmd : Call} {err : Option GoError} : (w.after (.call cmd) err d).view i =
    if cmd.index = i then (w.view i).issue cmd err else w.view i := by
  simp only [World.view, World.after, Governor.step, cardsStep, callsOf, View.issue]
  by_cases h : cmd.index = i <;> simp only [h, if_true, if_false]

theorem view_after_update {a : Assign} {f : CardState → CardState} (ha : w.gov.assign a = w.gov.update j f) :
    (w.after (.assign a) () d).view i = if j = i then (w.view i).update f else w.view i := by
  simp only [World.view, World.after, Governor.step, cardsStep, callsOf, View.update, ha, Governor.update]
  by_cases h : j = i <;> simp only [h, if_true, if_false]

@[simp] theorem view_after_idlePolls {n : Int} : (w.after (.assign (.idlePolls j n)) () d).view i =
    if j = i then (w.view i).update (fun s => { s with idlePolls := n }) else w.view i := view_after_update rfl

@[simp] theorem view_after_lowPower : (w.after (.assign (.lowPower j)) () d).view i =
    if j = i then (w.view i).update (fun s => { s with lowPower := true }) else w.view i := view_after_update rfl

@[simp] theorem view_after_manualFan {b : Bool} : (w.after (.assign (.manualFan j b)) () d).view i =
    if j = i then (w.view i).update (fun s => { s with manualFan := b }) else w.view i := view_after_update rfl

@[simp] theorem view_after_clear : (w.after (.assign (.clear j)) () d).view i =
    if j = i then (w.view i).update (fun _ => .zero) else w.view i := view_after_update rfl

@[simp] theorem view_after_activate {control : Control} :
    (w.after (.assign (.activate control)) () d).view i = w.view i := rfl

@[simp] theorem view_after_deactivate : (w.after (.assign .deactivate) () d).view i = w.view i := rfl

@[simp] theorem view_after_utilization {a} : (w.after (.utilization j) a d).view i = w.view i := rfl

@[simp] theorem view_after_temperature {a} : (w.after (.temperature j) a d).view i = w.view i := rfl

@[simp] theorem view_after_getGov {a} : (w.after .getGov a d).view i = w.view i := rfl

@[simp] theorem view_after_rangeStates {a} : (w.after .rangeStates a d).view i = w.view i := rfl

theorem gov_state : w.gov.state i = (w.view i).get := rfl

end

/-! ## Frames -/

section
variable {c : Config} {w : World} {i j : Int} {o : Op} {a : o.Ans} {d : Dir}

theorem Op.OnCard.view (h : o.OnCard c j) (hij : j ≠ i) : (w.after o a d).view i = w.view i := by
  cases o with
  | call cmd => exact view_after_call.trans (if_neg fun hi => hij (h.1.symm.trans hi))
  | assign x => cases x
      <;> first | exact h.elim | exact (view_after_update rfl).trans (if_neg fun hi => hij (h.symm.trans hi))
  | _ => rfl

theorem Op.Polls.view (h : o.Polls c j) (hij : j ≠ i) : (w.after o a d).view i = w.view i := by
  rcases h with rfl | h
  · rfl
  · exact h.view hij

theorem Op.KeepsControl.gov (h : o.KeepsControl) :
    (w.after o a d).gov.control = w.gov.control ∧ (w.after o a d).gov.active = w.gov.active := by
  cases o with
  | assign x => cases x <;> first | exact h.elim | exact ⟨rfl, rfl⟩
  | _ => exact ⟨rfl, rfl⟩

theorem isSome_states_update (g : Governor) (f : CardState → CardState) :
    ((g.update j f).states i).isSome = (g.states i).isSome := by
  by_cases h : j = i <;> simp [Governor.update, h]

@[simp] theorem isSome_states_after : ((w.after o a d).gov.states i).isSome = (w.gov.states i).isSome := by
  cases o with
  | assign x => cases x <;> first | rfl | exact isSome_states_update _ _
  | _ => rfl

end

/-! ## Readings -/

/-- The operation is no reading of card `i`. -/
def Op.Unread (i : Int) : Op → Prop
  | .utilization j | .temperature j => j ≠ i
  | _ => True

section
variable {c : Config} {w : World} {i j : Int} {o : Op} {a : o.Ans} {d : Dir}

theorem readingsOf_append (i : Int) (new log : List Event) :
    readingsOf i (new ++ log) = readingsOf i new ++ readingsOf i log := by
  induction new with
  | nil => rfl
  | cons e new ih =>
      obtain ⟨o, a⟩ := e
      cases o with
      | utilization j | temperature j =>
          simp only [List.cons_append, readingsOf, ih]
          split <;> rfl
      | _ => exact ih

theorem Op.Unread.readings (h : o.Unread i) : readingsOf i (w.after o a d).log = readingsOf i w.log := by
  cases o with
  | utilization j | temperature j => exact if_neg h
  | _ => rfl

@[simp] theorem readings_utilization {r : Except GoError (BitVec 32)} :
    readingsOf i (w.after (.utilization i) r d).log = .utilization r :: readingsOf i w.log := if_pos rfl

@[simp] theorem readings_temperature {r : Except GoError (BitVec 32)} :
    readingsOf i (w.after (.temperature i) r d).log = .temperature r :: readingsOf i w.log := if_pos rfl

theorem Op.Lowers.unread (h : o.Lowers c j) : o.Unread i := by
  cases o <;> first | exact h.elim | trivial

theorem Op.Restores.unread (h : o.Restores c j) : o.Unread i := by
  cases o <;> first | exact h.elim | trivial

theorem Op.Releases.unread (h : o.Releases c) : o.Unread i := by
  cases o <;> first | exact h.elim | trivial

theorem Op.Polls.unread (h : o.Polls c j) (hij : j ≠ i) : o.Unread i := by
  rcases h with rfl | h
  · exact hij
  · cases o with
    | utilization k => exact h.elim
    | temperature k =>
        obtain rfl : k = j := h
        exact hij
    | _ => trivial

end

/-! ## Executions -/

section
variable {A : Answers} {α : Type} {p : Gov α} {S : Op → Prop} {Q : α → Prop} {w w' : World} {r : α} {i : Int}

/-- What every operation of the footprint keeps, the program keeps. -/
theorem within_keeps {β : Type} (f : World → β) (h : p.Within S Q)
    (hf : ∀ o (w : World) a d, S o → f (w.after o a d) = f w) (he : p.Exec (Step A) w r w') : f w' = f w :=
  (h.exec (I := fun w' => f w' = f w) (fun o w₁ a w₂ hS hst hw₁ => by
    obtain ⟨-, d, -, rfl⟩ := hst
    exact (hf o w₁ a d hS).trans hw₁) he rfl).2

theorem within_keepsControl (h : p.Within S Q) (hS : ∀ o, S o → o.KeepsControl) (he : p.Exec (Step A) w r w') :
    w'.gov.control = w.gov.control ∧ w'.gov.active = w.gov.active :=
  ⟨within_keeps (fun w => w.gov.control) h (fun _ _ _ _ ho => ((hS _ ho).gov).1) he,
    within_keeps (fun w => w.gov.active) h (fun _ _ _ _ ho => ((hS _ ho).gov).2) he⟩

theorem exec_isSome (he : p.Exec (Step A) w r w') : (w'.view i).state.isSome = (w.view i).state.isSome :=
  within_keeps (fun w => (w.view i).state.isSome) (Prog.uses_true p) (fun _ _ _ _ _ => isSome_states_after) he

theorem within_readings (h : p.Within S Q) (hS : ∀ o, S o → o.Unread i) (he : p.Exec (Step A) w r w') :
    readingsOf i w'.log = readingsOf i w.log :=
  within_keeps (fun w => readingsOf i w.log) h (fun _ _ _ _ ho => (hS _ ho).readings) he

/-- An execution only adds to the log, and what it adds is in its footprint. -/
theorem within_log (h : p.Within S Q) (he : p.Exec (Step A) w r w') :
    ∃ new, w'.log = new ++ w.log ∧ ∀ e ∈ new, S e.1 := by
  refine (h.exec (I := fun w' => ∃ new, w'.log = new ++ w.log ∧ ∀ e ∈ new, S e.1) ?_ he ⟨[], rfl,
    fun _ h => nomatch h⟩).2
  rintro o w₁ a w₂ hS hst ⟨new, hnew, hall⟩
  refine ⟨⟨o, a⟩ :: new, by rw [hst.log, hnew, List.cons_append], ?_⟩
  rintro e (_ | ⟨_, he⟩)
  · exact hS
  · exact hall e he

end

end Cmp50Unlock.IdleGovernor
