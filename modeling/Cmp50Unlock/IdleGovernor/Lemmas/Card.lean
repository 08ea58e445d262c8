import Cmp50Unlock.IdleGovernor.Lemmas.View

/-!
# What the functions do to a card

One lemma for each function that releases or polls a card: which commands it issues to the card, with which errors,
and what it remembers of the card in the end.
-/

namespace Cmp50Unlock.IdleGovernor

open Lib

/-- No guard on the operations. -/
abbrev always : World → Op → Prop := fun _ _ => True

namespace View

/-- Issue commands, the first one first. -/
def issues (v : View) : Calls → View
  | [] => v
  | (cmd, err) :: calls => (v.issue cmd err).issues calls

@[simp] theorem issues_nil (v : View) : v.issues [] = v := rfl

@[simp] theorem issues_cons (v : View) (cmd : Call) (err : Option GoError) (calls : Calls) :
    v.issues ((cmd, err) :: calls) = (v.issue cmd err).issues calls := rfl

@[simp] theorem issues_state (v : View) (calls : Calls) : (v.issues calls).state = v.state := by
  induction calls generalizing v with
  | nil => rfl
  | cons x calls ih => exact ih (v.issue x.1 x.2)

theorem issues_append (v : View) (calls calls' : Calls) :
    v.issues (calls ++ calls') = (v.issues calls).issues calls' := by
  induction calls generalizing v with
  | nil => rfl
  | cons x calls ih => exact ih (v.issue x.1 x.2)

@[simp] theorem issues_get (v : View) (calls : Calls) : (v.issues calls).get = v.get := by
  simp only [get, issues_state]

end View

/-- The commands `cmds`, in this order, with answers of `A`. -/
structure Attempts (A : Answers) (cmds : List Call) (calls : Calls) : Prop where
  cmds : calls.map Prod.fst = cmds
  answers : ∀ x ∈ calls, A (.call x.1) x.2

theorem Attempts.nil {A : Answers} : Attempts A [] [] := ⟨rfl, fun _ h => nomatch h⟩

theorem Attempts.cons {A : Answers} {cmd : Call} {err : Option GoError} {cmds : List Call} {calls : Calls}
    (herr : A (.call cmd) err) (h : Attempts A cmds calls) : Attempts A (cmd :: cmds) ((cmd, err) :: calls) where
  cmds := congrArg (cmd :: ·) h.cmds
  answers := by
    rintro x (_ | ⟨_, hx⟩)
    · exact herr
    · exact h.answers x hx

theorem Attempts.append {A : Answers} {cmds cmds' : List Call} {calls calls' : Calls} (h : Attempts A cmds calls)
    (h' : Attempts A cmds' calls') : Attempts A (cmds ++ cmds') (calls ++ calls') where
  cmds := by rw [List.map_append, h.cmds, h'.cmds]
  answers x hx := (List.mem_append.mp hx).elim (h.answers x) (h'.answers x)

/-- The commands all succeed. -/
def AllSucceed (calls : Calls) : Prop := ∀ x ∈ calls, x.2 = none

@[simp] theorem allSucceed_nil : AllSucceed [] := fun _ h => nomatch h

@[simp] theorem allSucceed_cons {cmd : Call} {err : Option GoError} {calls : Calls} :
    AllSucceed ((cmd, err) :: calls) ↔ err = none ∧ AllSucceed calls := List.forall_mem_cons

@[simp] theorem allSucceed_append {calls calls' : Calls} :
    AllSucceed (calls ++ calls') ↔ AllSucceed calls ∧ AllSucceed calls' := List.forall_mem_append

/-! ## Releases -/

section
variable {A : Answers} {c : Config} {w : World} {index : Int}

theorem wp_restoreClocks {G : World → Op → Prop} {Q : Option GoError → World → Prop} :
    (restoreClocks c index).wp (Step A) G w Q ↔ G w (.call (c.clockCall index)) ∧ ∀ err : Option GoError,
    A (.call (c.clockCall index)) err → Q err (w.next (.call (c.clockCall index)) err) := by
  simp only [restoreClocks_eq, wp_call]

@[simp] theorem view_after_clockCall {err : Option GoError} {d : Dir} :
    (w.after (.call (c.clockCall index)) err d).view index = (w.view index).issue (c.clockCall index) err :=
  view_after_call.trans (if_pos (clockCall_index index))

/-- `restoreCoreOffset` issues its command, if there is one, and returns its error. -/
theorem restoreCoreOffset_spec : (restoreCoreOffset c index).wp (Step A) always w fun r w' =>
    ∃ calls, Attempts A (offsetCalls c index) calls ∧ (r = none ↔ AllSucceed calls) ∧
      w'.view index = (w.view index).issues calls := by
  simp only [restoreCoreOffset, Prog.wp_ite, Prog.wp_pure, wp_call, true_and]
  refine ⟨fun h => ⟨[], ?_, by simp, rfl⟩, fun h err herr =>
    ⟨[(_, err)], ?_, by simp, view_after_call.trans (if_pos rfl)⟩⟩
  · rw [offsetCalls, if_neg h]
    exact Attempts.nil
  · rw [offsetCalls, if_pos (Decidable.not_not.mp h)]
    exact Attempts.nil.cons herr

theorem restore_spec (result : Option GoError) : (restore c index result).wp (Step A) always w fun r w' =>
    ∃ calls, Attempts A (restoreCalls c index) calls ∧ (r = none ↔ result = none ∧ AllSucceed calls) ∧
      w'.view index = ((w.view index).issues calls).update fun _ => .zero := by
  rw [restore, Prog.wp_bind, wp_call]
  refine ⟨trivial, fun err herr => ?_⟩
  rw [Prog.wp_bind]
  refine restoreCoreOffset_spec.mono fun offErr w₁ hpost => ?_
  obtain ⟨calls, hcalls, hoff, hview⟩ := hpost
  rw [Prog.wp_bind, wp_restoreClocks]
  refine ⟨trivial, fun clockErr hclock => ?_⟩
  simp only [Prog.wp_bind, wp_assign, Prog.wp_pure, true_and]
  intro _
  refine ⟨(.setPState index autoPState, err) :: (calls ++ [(c.clockCall index, clockErr)]),
    (hcalls.append (Attempts.nil.cons hclock)).cons herr, ?_, ?_⟩
  · simp only [joinErrors_eq_none, hoff, allSucceed_cons, allSucceed_append, allSucceed_nil, and_true, and_assoc]
  · simp [hview, View.issues_append]

/-- A release of a card: every command is issued, whatever failed before it, and the flags are cleared. -/
theorem release_spec : (release c index).wp (Step A) always w fun r w' =>
    ∃ calls, Attempts A (releaseCalls c index (w.view index).get.manualFan) calls ∧ (r = none ↔ AllSucceed calls) ∧
      w'.view index = ((w.view index).issues calls).update fun _ => .zero := by
  simp only [release, Prog.wp_bind, wp_getGov, Prog.wp_ite, Prog.wp_pure, wp_call, true_and, gov_state, releaseCalls]
  refine fun _ => ⟨fun h err herr => ?_, fun h => ?_⟩
  · refine (restore_spec _).mono fun r w' hpost => ?_
    obtain ⟨calls, hcalls, hr, hview⟩ := hpost
    refine ⟨(.setFanAuto index, err) :: calls, ?_, ?_, ?_⟩
    · rw [if_pos h]
      exact hcalls.cons herr
    · simp only [wrapError_eq_none, hr, joinErrors_eq_none, true_and, allSucceed_cons]
    · simpa using hview
  · refine (restore_spec _).mono fun r w' hpost => ?_
    obtain ⟨calls, hcalls, hr, hview⟩ := hpost
    refine ⟨calls, ?_, ?_, hview⟩
    · rw [if_neg h]
      exact hcalls
    · simp only [wrapError_eq_none, hr, joinErrors_eq_none, true_and]

theorem cleanupGPU_spec {result : Option GoError} {gpu : GPU} (hgpu : gpu.Supported) :
    (cleanupGPU c result gpu).wp (Step A) always w fun _ w' => ∃ calls,
    Attempts A (releaseCalls c gpu.index true) calls ∧
      w'.view gpu.index = ((w.view gpu.index).issues calls).update fun _ => .zero := by
  rw [cleanupGPU, if_neg (not_not_intro hgpu), Prog.wp_bind, wp_call]
  refine ⟨trivial, fun err herr => (restore_spec _).mono fun r w' hpost => ?_⟩
  obtain ⟨calls, hcalls, _, hview⟩ := hpost
  refine ⟨(.setFanAuto gpu.index, err) :: calls, hcalls.cons herr, ?_⟩
  simpa using hview

end

end Cmp50Unlock.IdleGovernor
