import Cmp50Unlock.IdleGovernor.Lemmas.Holds

/-!
# A poll that finds a card busy

A poll without an error comes to every card of the profile once. A card that it finds busy is released if its flags
are set, and is left as it is otherwise.
-/

namespace Cmp50Unlock.IdleGovernor

open Lib

section
variable {c : Config} {A : Answers} {w w' : World} {i : Int}

/-! ## One card of a poll -/

theorem nodup_indices (control : Control) : control.indices.Nodup :=
  List.pairwise_map.mpr (List.nodup_range.imp fun h h' => h (Int.ofNat.inj h'))

/-- Polling other cards leaves a card alone and does not read it. -/
theorem poll_others {is : List Int} {r : Option GoError} (hi : i ∉ is)
    (he : (Prog.each (pollCard c) is).Exec (Step A) w r w') :
    w'.view i = w.view i ∧ readingsOf i w'.log = readingsOf i w.log := by
  have huses : (Prog.each (pollCard c) is).Uses fun o => ∃ j, j ≠ i ∧ o.Polls c j := Prog.uses_each fun j hj =>
    (pollCard_uses j).mono (fun o ho => ⟨j, fun h => hi (h ▸ hj), ho⟩) fun _ h => h
  exact ⟨within_keeps (fun w => w.view i) huses (fun _ _ _ _ ⟨_, hij, ho⟩ => ho.view hij) he,
    within_readings huses (fun _ ⟨_, hij, ho⟩ => ho.unread hij) he⟩

/-- A poll without an error comes to each of its cards. -/
theorem each_visits {is is' : List Int} (he : (Prog.each (pollCard c) (is ++ i :: is')).Exec (Step A) w none w') :
    ∃ w₁ w₂, (Prog.each (pollCard c) is).Exec (Step A) w none w₁ ∧ (pollCard c i).Exec (Step A) w₁ none w₂ ∧
      (Prog.each (pollCard c) is').Exec (Step A) w₂ none w' := by
  rw [Prog.each_append, Prog.exec_bind] at he
  obtain ⟨_ | err, w₁, hbefore, hrest⟩ := he
  · obtain ⟨_ | err, w₂, hcard, hafter⟩ := Prog.exec_bind.mp hrest
    · exact ⟨w₁, w₂, hbefore, hcard, hafter⟩
    · exact absurd hafter.1 (by simp)
  · exact absurd hrest.1 (by simp)

/-- What a poll without an error did to a card, and what it read. -/
theorem poll_card (hstate : (w.view i).state.isSome) (hi : i ∈ w.gov.control.indices)
    (he : (poll c).Exec (Step A) w none w') : ∃ ρ : Readings,
      w'.view i = (w.view i).moves (pollStep c w.gov.control i (w.view i).get ρ) ∧
      readingsOf i w'.log = pollReadings c w.gov.control i (w.view i).get ρ ++ readingsOf i w.log := by
  obtain ⟨is, is', heq, hnot⟩ := List.eq_append_cons_of_mem hi
  have hnot' : i ∉ is' := by
    have hnodup := nodup_indices w.gov.control
    rw [heq] at hnodup
    exact (List.nodup_cons.mp (List.nodup_append.mp hnodup).2.1).1
  obtain ⟨g, w₀, hget, hloop⟩ := Prog.exec_bind.mp he
  obtain ⟨-, d, ⟨rfl, rfl⟩, rfl⟩ := Prog.exec_lift.mp hget
  rw [heq] at hloop
  obtain ⟨w₁, w₂, hbefore, hcard, hafter⟩ := each_visits hloop
  obtain ⟨hview₁, hreadings₁⟩ := poll_others hnot hbefore
  obtain ⟨hview₂, hreadings₂⟩ := poll_others hnot' hafter
  have hcontrol : w₁.gov.control = w.gov.control := (within_keepsControl
    (Prog.uses_each fun j _ => (pollCard_uses j).mono (fun _ h => h.keepsControl) fun _ h => h)
    (fun _ h => h) hbefore).1
  obtain ⟨ρ, hview, hreadings⟩ := (pollCard_spec (w := w₁) (hview₁ ▸ hstate)).exec hcard rfl
  rw [hcontrol, hview₁] at hview hreadings
  refine ⟨ρ, hview₂.trans hview, ?_⟩
  rw [hreadings₂, hreadings, hreadings₁]
  rfl

/-- The readings since an earlier state. -/
theorem readings_since {new : List Reading} (hlog : ∃ events, w'.log = events ++ w.log)
    (h : readingsOf i w'.log = new ++ readingsOf i w.log) : readingsOf i (w'.since w) = new := by
  obtain ⟨events, hevents⟩ := hlog
  rw [World.since_eq hevents]
  rw [hevents, readingsOf_append] at h
  exact List.append_cancel_right h

theorem mem_readingsOf {log : List Event} {r : Except GoError (BitVec 32)} (h : ⟨.utilization i, r⟩ ∈ log) :
    .utilization r ∈ readingsOf i log := by
  obtain ⟨before, after, rfl⟩ := List.append_of_mem h
  rw [readingsOf_append]
  exact List.mem_append_right _ (by rw [readingsOf, if_pos rfl]; exact .head _)

/-- The utilization that a poll read is the one of its readings. -/
theorem pollReadings_utilization {control : Control} {s : CardState} {ρ : Readings} {u : BitVec 32}
    (h : .utilization (.ok u) ∈ pollReadings c control i s ρ) : u = ρ.utilization := by
  simp only [pollReadings, List.mem_append, List.mem_singleton] at h
  rcases h with h | h
  · split at h <;> simp at h
  · simpa using h

/-! ## A busy card -/

theorem foldl_after (h : Hold) {cmds : List Call} (htakes : ∀ cmd ∈ cmds, h.takes cmd = false) (b : Bool) :
    cmds.foldl h.after b = (b && !cmds.any h.undoes) := by
  induction cmds generalizing b with
  | nil => simp
  | cons cmd cmds ih =>
      have hcmd : h.after b cmd = (b && !h.undoes cmd) := by
        cases hundoes : h.undoes cmd <;> simp [Hold.after, htakes cmd (.head cmds), hundoes]
      rw [List.foldl_cons, ih (fun x hx => htakes x (.tail _ hx)), hcmd, List.any_cons, Bool.not_or, Bool.and_assoc]

/-- A card that a poll found busy is still held just when its release was lost before. -/
theorem busy_held_iff {control : Control} {v : View} {u : BitVec 32} {s : CardState} {cmds : List Call}
    (hrecorded : Recorded control v) (hfan : v.get.manualFan → v.get.lowPower)
    (hpolled : Polled c control i v.get u s cmds) (hu : u > c.options.utilThreshold) (h : Hold) :
    h.held (v.becomes cmds s).calls = true ↔ h.Lost v.calls := by
  have hheld : h.held (v.becomes cmds s).calls = cmds.foldl h.after (h.held v.calls) := h.held_succeeding v cmds
  rw [hheld, Hold.lost_iff, ← hrecorded h]
  cases hpolled with
  | busy _ hbusy =>
      have hflag : h.flag v.get = false := by
        cases h
        · exact hbusy.1
        · exact hbusy.2
      simp only [List.foldl_nil, hflag, and_true]
  | released _ hset =>
      rw [foldl_after h fun cmd hcmd => releaseCalls_takes h hcmd, releaseCalls_undoes]
      cases h with
      | lowPower =>
          have hlow : v.get.lowPower = true := hset.elim id hfan
          simp [Hold.flag, hlow]
      | manualFan => cases hmanual : v.get.manualFan <;> simp [Hold.flag, hmanual]
  | idle hidle => exact absurd hu hidle

end

end Cmp50Unlock.IdleGovernor
