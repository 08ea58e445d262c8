import Cmp50Unlock.Lib.Wp

/-!
# Loops over a list

A loop over a list is a program, since the list is finite. Its rules are the usual ones: an invariant of the
body is an invariant of the loop, and what the body establishes for an element and keeps for the others holds
of all elements in the end.
-/

namespace Cmp50Unlock.Lib.Prog

variable {Op : Type} {Ans : Op → Type} {α β σ : Type}

/-- Run `f` on one element after another, up to the first one on which it returns a value. -/
def each (f : α → Prog Op Ans (Option β)) : List α → Prog Op Ans (Option β)
  | [] => pure none
  | a :: as => do
      match ← f a with
      | some b => pure (some b)
      | none => each f as

/-! ## Footprints -/

section
variable {S : Op → Prop}

theorem uses_each {f : α → Prog Op Ans (Option β)} {as : List α} (h : ∀ a ∈ as, (f a).Uses S) :
    (each f as).Uses S := by
  induction as with
  | nil => trivial
  | cons a as ih =>
      rw [each, Uses, within_bind]
      refine (h a (.head as)).within fun r => ?_
      cases r with
      | none => exact ih fun a' ha => h a' (.tail a ha)
      | some b => trivial

theorem uses_forM {f : α → Prog Op Ans PUnit} {as : List α} (h : ∀ a ∈ as, (f a).Uses S) :
    (as.forM f).Uses S := by
  induction as with
  | nil => trivial
  | cons a as ih =>
      rw [List.forM, Uses, within_bind]
      exact (h a (.head as)).within fun _ => ih fun a' ha => h a' (.tail a ha)

theorem uses_foldlM {f : β → α → Prog Op Ans β} {as : List α} (h : ∀ a ∈ as, ∀ b, (f b a).Uses S) (b : β) :
    (as.foldlM f b).Uses S := by
  induction as generalizing b with
  | nil => trivial
  | cons a as ih =>
      rw [List.foldlM, Uses, within_bind]
      exact (h a (.head as) b).within fun b' => ih (fun a' ha => h a' (.tail a ha)) b'

end

/-! ## Preconditions -/

section
variable {step : (o : Op) → σ → Ans o → σ → Prop} {G : σ → Op → Prop} {s : σ} {I : σ → Prop} {D : α → σ → Prop}

/-- An invariant of the body holds when the loop comes to its end; a value ends the loop with `Q`. -/
theorem wp_each {f : α → Prog Op Ans (Option β)} {Q : β → σ → Prop} {as : List α}
    (h : ∀ a ∈ as, ∀ s, I s → (f a).wp step G s fun r s' => r.elim (I s') fun b => Q b s') (hs : I s) :
    (each f as).wp step G s fun r s' => r.elim (I s') fun b => Q b s' := by
  induction as generalizing s with
  | nil => exact hs
  | cons a as ih =>
      rw [each, wp_bind]
      refine (h a (.head as) s hs).mono fun r s' hr => ?_
      cases r with
      | none => exact ih (fun a' ha => h a' (.tail a ha)) hr
      | some b => exact hr

/-- A loop that looks for the first `a` with `P`. -/
theorem wp_each_find {f : α → Prog Op Ans (Option β)} {P : α → Bool} {g : α → β} {as : List α}
    (h : ∀ a ∈ as, ∀ s, I s → (f a).wp step G s fun r s' => r = (if P a then some (g a) else none) ∧ I s')
    (hs : I s) : (each f as).wp step G s fun r s' => r = (as.find? P).map g ∧ I s' := by
  induction as generalizing s with
  | nil => exact ⟨rfl, hs⟩
  | cons a as ih =>
      rw [each, wp_bind]
      refine (h a (.head as) s hs).mono fun r s' hr => ?_
      obtain ⟨rfl, hs'⟩ := hr
      cases hP : P a with
      | true =>
          rw [if_pos rfl, List.find?_cons_of_pos hP]
          exact ⟨rfl, hs'⟩
      | false =>
          rw [if_neg Bool.false_ne_true, List.find?_cons_of_neg (by simp [hP])]
          exact ih (fun a' ha => h a' (.tail a ha)) hs'

theorem each_append (f : α → Prog Op Ans (Option β)) (as as' : List α) :
    each f (as ++ as') = each f as >>= fun r => r.elim (each f as') fun b => pure (some b) := by
  induction as with
  | nil => rfl
  | cons a as ih =>
      rw [List.cons_append, each, each, ih, bind_assoc]
      refine congrArg _ (funext fun r => ?_)
      cases r <;> rfl

theorem wp_forM {f : α → Prog Op Ans PUnit} {as : List α} (h : ∀ a ∈ as, ∀ s, I s → (f a).wp step G s fun _ => I)
    (hs : I s) : (as.forM f).wp step G s fun _ => I := by
  induction as generalizing s with
  | nil => exact hs
  | cons a as ih =>
      rw [List.forM, wp_bind]
      exact (h a (.head as) s hs).mono fun _ s' hs' => ih (fun a' ha => h a' (.tail a ha)) hs'

/-- The body at `a` establishes `D a`, and keeps what holds of the others. -/
theorem wp_forM_all {f : α → Prog Op Ans PUnit} {as : List α}
    (h : ∀ a ∈ as, ∀ s, I s → (f a).wp step G s fun _ s' => I s' ∧ D a s' ∧ ∀ a', D a' s → D a' s') (hs : I s) :
    (as.forM f).wp step G s fun _ s' => I s' ∧ ∀ a, a ∈ as ∨ D a s → D a s' := by
  induction as generalizing s with
  | nil => exact ⟨hs, fun a ha => ha.resolve_left (by simp)⟩
  | cons a as ih =>
      rw [List.forM, wp_bind]
      refine (h a (.head as) s hs).mono fun _ s₁ ⟨hI, hD, hkeep⟩ => ?_
      refine (ih (fun a' ha => h a' (.tail a ha)) hI).mono fun _ s₂ ⟨hI₂, hall⟩ => ⟨hI₂, fun a' ha => ?_⟩
      rcases ha with ha | ha
      · cases ha with
        | head => exact hall a (.inr hD)
        | tail _ ha => exact hall a' (.inl ha)
      · exact hall a' (.inr (hkeep a' ha))

theorem wp_foldlM {f : β → α → Prog Op Ans β} {as : List α} {b : β}
    (h : ∀ a ∈ as, ∀ b s, I s → (f b a).wp step G s fun _ => I) (hs : I s) :
    (as.foldlM f b).wp step G s fun _ => I := by
  induction as generalizing s b with
  | nil => exact hs
  | cons a as ih =>
      rw [List.foldlM, wp_bind]
      exact (h a (.head as) b s hs).mono fun _ s' hs' => ih (fun a' ha => h a' (.tail a ha)) hs'

theorem wp_foldlM_all {f : β → α → Prog Op Ans β} {as : List α} {b : β}
    (h : ∀ a ∈ as, ∀ b s, I s → (f b a).wp step G s fun _ s' => I s' ∧ D a s' ∧ ∀ a', D a' s → D a' s') (hs : I s) :
    (as.foldlM f b).wp step G s fun _ s' => I s' ∧ ∀ a, a ∈ as ∨ D a s → D a s' := by
  induction as generalizing s b with
  | nil => exact ⟨hs, fun a ha => ha.resolve_left (by simp)⟩
  | cons a as ih =>
      rw [List.foldlM, wp_bind]
      refine (h a (.head as) b s hs).mono fun b' s₁ ⟨hI, hD, hkeep⟩ => ?_
      refine (ih (fun a' ha => h a' (.tail a ha)) hI).mono fun _ s₂ ⟨hI₂, hall⟩ => ⟨hI₂, fun a' ha => ?_⟩
      rcases ha with ha | ha
      · cases ha with
        | head => exact hall a (.inr hD)
        | tail _ ha => exact hall a' (.inl ha)
      · exact hall a' (.inr (hkeep a' ha))

end

/-! ## Folds -/

section
variable {step : (o : Op) → σ → Ans o → σ → Prop} {G : σ → Op → Prop} {s : σ} {τ : Type} {V : σ → τ}

/-- Where the body acts on `V` as a function of the element, the loop acts as the fold of it. -/
theorem wp_forM_foldl {f : α → Prog Op Ans PUnit} {g : τ → α → τ} {as : List α}
    (h : ∀ a ∈ as, ∀ s, (f a).wp step G s fun _ s' => V s' = g (V s) a) :
    (as.forM f).wp step G s fun _ s' => V s' = as.foldl g (V s) := by
  induction as generalizing s with
  | nil => exact rfl
  | cons a as ih =>
      rw [List.forM, wp_bind]
      refine (h a (.head as) s).mono fun _ s' hs' => ?_
      rw [List.foldl_cons, ← hs']
      exact ih fun a' ha => h a' (.tail a ha)

theorem wp_foldlM_foldl {f : β → α → Prog Op Ans β} {g : τ → α → τ} {as : List α} {b : β}
    (h : ∀ a ∈ as, ∀ b s, (f b a).wp step G s fun _ s' => V s' = g (V s) a) :
    (as.foldlM f b).wp step G s fun _ s' => V s' = as.foldl g (V s) := by
  induction as generalizing s b with
  | nil => exact rfl
  | cons a as ih =>
      rw [List.foldlM, wp_bind]
      refine (h a (.head as) b s).mono fun b' s' hs' => ?_
      rw [List.foldl_cons, ← hs']
      exact ih fun a' ha => h a' (.tail a ha)

end

/-- A fold that acts on one element, at most once. -/
theorem foldl_once [DecidableEq α] {τ : Type} (f : τ → τ) (i : α) {as : List α} (h : as.Nodup) (x : τ) :
    as.foldl (fun x a => if a = i then f x else x) x = if i ∈ as then f x else x := by
  induction as generalizing x with
  | nil => rfl
  | cons a as ih =>
      obtain ⟨ha, hnodup⟩ := List.nodup_cons.mp h
      rw [List.foldl_cons, ih hnodup]
      by_cases hi : a = i
      · subst hi
        rw [if_neg ha, if_pos rfl, if_pos (.head as)]
      · rw [if_neg hi]
        simp [List.mem_cons, Ne.symm hi]

end Cmp50Unlock.Lib.Prog
