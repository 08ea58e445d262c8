import Cmp50Unlock.Lib.Goto

/-!
# Preconditions

`p.wp step G s Q` says that every operation `p` comes to issue from `s` meets its guard `G` in the state it
is issued in, and that `Q` holds of whatever `p` returns. It is computed along the program, so a proof about
a program follows its text.
-/

namespace Cmp50Unlock.Lib

namespace Prog

variable {Op : Type} {Ans : Op → Type} {α β σ : Type}

/-- The weakest precondition of `p` for the guard `G` and the postcondition `Q`. -/
def wp (step : (o : Op) → σ → Ans o → σ → Prop) (G : σ → Op → Prop) :
    Prog Op Ans α → σ → (α → σ → Prop) → Prop
  | .ret a, s, Q => Q a s
  | .op o k, s, Q => G s o ∧ ∀ a s', step o s a s' → (k a).wp step G s' Q

variable {step : (o : Op) → σ → Ans o → σ → Prop} {G G' : σ → Op → Prop} {s s' : σ} {p : Prog Op Ans α}
  {Q Q' : α → σ → Prop}

/-- What a precondition says about executions. -/
theorem wp_iff : p.wp step G s Q ↔
    (∀ o s', p.Issued step s o s' → G s' o) ∧ ∀ r s', p.Exec step s r s' → Q r s' := by
  induction p generalizing s with
  | ret a =>
      constructor
      · intro h; exact ⟨fun _ _ hi => hi.elim, fun _ _ ⟨hr, hs⟩ => hr ▸ hs ▸ h⟩
      · intro h; exact h.2 a s ⟨rfl, rfl⟩
  | op o k ih =>
      simp only [wp, ih]
      constructor
      · rintro ⟨hG, hk⟩
        refine ⟨?_, ?_⟩
        · rintro o' s' (⟨rfl, rfl⟩ | ⟨a, s₁, hs, hi⟩)
          · exact hG
          · exact (hk a s₁ hs).1 o' s' hi
        · rintro r s' ⟨a, s₁, hs, he⟩
          exact (hk a s₁ hs).2 r s' he
      · rintro ⟨hi, he⟩
        exact ⟨hi o s (Or.inl ⟨rfl, rfl⟩), fun a s₁ hs =>
          ⟨fun o' s' h => hi o' s' (Or.inr ⟨a, s₁, hs, h⟩), fun r s' h => he r s' ⟨a, s₁, hs, h⟩⟩⟩

theorem wp.exec (h : p.wp step G s Q) {r : α} (he : p.Exec step s r s') : Q r s' :=
  (wp_iff.1 h).2 r s' he

theorem wp.issued (h : p.wp step G s Q) {o : Op} (hi : p.Issued step s o s') : G s' o :=
  (wp_iff.1 h).1 o s' hi

/-- Without a guard, only the executions count. -/
theorem wp_exec_iff : p.wp step (fun _ _ => True) s Q ↔ ∀ r s', p.Exec step s r s' → Q r s' :=
  wp_iff.trans ⟨fun h => h.2, fun h => ⟨fun _ _ _ => trivial, h⟩⟩

@[simp] theorem wp_pure {a : α} : (pure a : Prog Op Ans α).wp step G s Q ↔ Q a s := Iff.rfl

theorem wp_lift {o : Op} {Q : Ans o → σ → Prop} :
    (lift o : Prog Op Ans (Ans o)).wp step G s Q ↔ G s o ∧ ∀ a s', step o s a s' → Q a s' :=
  Iff.rfl

@[simp] theorem wp_bind {f : α → Prog Op Ans β} {Q : β → σ → Prop} :
    (p >>= f).wp step G s Q ↔ p.wp step G s fun a s' => (f a).wp step G s' Q := by
  change (p.bind f).wp step G s Q ↔ _
  induction p generalizing s with
  | ret a => exact Iff.rfl
  | op o k ih => simp only [bind, wp, ih]

@[simp] theorem wp_map {f : α → β} {Q : β → σ → Prop} :
    (f <$> p).wp step G s Q ↔ p.wp step G s fun a s' => Q (f a) s' := by
  simp only [map_eq_pure_bind, wp_bind, wp_pure]

@[simp] theorem wp_ite {c : Prop} [Decidable c] {p q : Prog Op Ans α} :
    (if c then p else q).wp step G s Q ↔ (c → p.wp step G s Q) ∧ (¬ c → q.wp step G s Q) := by
  by_cases h : c <;> simp [h]

theorem wp.mono (h : p.wp step G s Q) (hQ : ∀ r s, Q r s → Q' r s) : p.wp step G s Q' :=
  wp_iff.2 ⟨fun _ _ => h.issued, fun r s' he => hQ r s' (h.exec he)⟩

theorem wp.guard (h : p.wp step G s Q) (hG : ∀ s o, G s o → G' s o) : p.wp step G' s Q :=
  wp_iff.2 ⟨fun o s' hi => hG s' o (h.issued hi), fun _ _ => h.exec⟩

/-- Fewer steps, more preconditions. -/
theorem wp.steps {step' : (o : Op) → σ → Ans o → σ → Prop} (h : p.wp step G s Q)
    (hstep : ∀ o s a s', step' o s a s' → step o s a s') : p.wp step' G s Q := by
  induction p generalizing s with
  | ret a => exact h
  | op o k ih => exact ⟨h.1, fun a s' hs => ih a (h.2 a s' (hstep o s a s' hs))⟩

theorem wp.imp (h : p.wp step G s Q) (hG : ∀ s o, G s o → G' s o) (hQ : ∀ r s, Q r s → Q' r s) :
    p.wp step G' s Q' :=
  (h.guard hG).mono hQ

theorem wp.and (h : p.wp step G s Q) (h' : p.wp step G' s Q') :
    p.wp step (fun s o => G s o ∧ G' s o) s fun r s => Q r s ∧ Q' r s :=
  wp_iff.2 ⟨fun _ _ hi => ⟨h.issued hi, h'.issued hi⟩, fun _ _ he => ⟨h.exec he, h'.exec he⟩⟩

/-- An invariant of the operations that meet the guard. -/
theorem wp.inv {I : σ → Prop} (h : p.wp step G s Q)
    (hI : ∀ o s a s', G s o → step o s a s' → I s → I s') (hs : I s) :
    p.wp step (fun s o => G s o ∧ I s) s fun r s => Q r s ∧ I s := by
  induction p generalizing s with
  | ret a => exact ⟨h, hs⟩
  | op o k ih => exact ⟨⟨h.1, hs⟩, fun a s' hst => ih a (h.2 a s' hst) (hI o s a s' h.1 hst hs)⟩

theorem wp.with_exec (h : p.wp step G s Q) : p.wp step G s fun r s' => Q r s' ∧ p.Exec step s r s' :=
  wp_iff.2 ⟨fun _ _ => h.issued, fun _ _ he => ⟨h.exec he, he⟩⟩

/-- Without a guard, a program returns what it executes to. -/
theorem wp_exec : p.wp step (fun _ _ => True) s fun r s' => p.Exec step s r s' :=
  wp_iff.2 ⟨fun _ _ _ => trivial, fun _ _ he => he⟩

/-- The frame rule: an invariant of the operations of the footprint. -/
theorem Within.wp {S : Op → Prop} {I : σ → Prop} {R : α → Prop} (h : p.Within S R)
    (hI : ∀ o s a s', S o → step o s a s' → I s → I s') (hG : ∀ o s, S o → I s → G s o) (hs : I s) :
    p.wp step G s fun r s => R r ∧ I s :=
  wp_iff.2 ⟨fun o s' hi => hG o s' (h.issued hi) (h.issued_inv hI hi hs), fun _ _ he => h.exec hI he hs⟩

end Prog

namespace Goto

variable {Op : Type} {Ans : Op → Type} {L R σ : Type}

/-- The postcondition of one part of a function: an assertion for each label and one for the return. -/
def Post (J : L → σ → Prop) (Q : R → σ → Prop) : Exit L R → σ → Prop
  | .goto l, s => J l s
  | .ret r, s => Q r s

@[simp] theorem post_goto {J : L → σ → Prop} {Q : R → σ → Prop} {l s} : Post J Q (.goto l) s ↔ J l s := Iff.rfl

@[simp] theorem post_ret {J : L → σ → Prop} {Q : R → σ → Prop} {r s} : Post J Q (.ret r) s ↔ Q r s := Iff.rfl

variable {step : (o : Op) → σ → Ans o → σ → Prop} {blocks : L → Prog Op Ans (Exit L R)}
  {G : σ → Op → Prop} {J : L → σ → Prop} {Q : R → σ → Prop} {l l' : L} {s s' : σ}

/-- If every part of a function keeps the assertions at the labels, they hold wherever a call comes to. -/
theorem reaches_of_wp (h : ∀ l s, J l s → (blocks l).wp step G s (Post J Q)) (h₀ : J l s)
    (hr : Reaches step blocks l s l' s') : J l' s' :=
  hr.inv h₀ fun l₁ s₁ _ _ hJ he => (h l₁ s₁ hJ).exec he

theorem call_of_wp (h : ∀ l s, J l s → (blocks l).wp step G s (Post J Q)) (h₀ : J l s) {r : R}
    (hc : Call step blocks l s r s') : Q r s' := by
  obtain ⟨l₁, s₁, hr, he⟩ := hc
  exact (h l₁ s₁ (reaches_of_wp h h₀ hr)).exec he

theorem issues_of_wp (h : ∀ l s, J l s → (blocks l).wp step G s (Post J Q)) (h₀ : J l s) {o : Op}
    (hi : Issues step blocks l s o s') : G s' o := by
  obtain ⟨l₁, s₁, hr, hi⟩ := hi
  exact (h l₁ s₁ (reaches_of_wp h h₀ hr)).issued hi

section
variable {I : σ → Prop} (h : ∀ l s, J l s → (blocks l).wp step G s (Post J Q))
  (hI : ∀ o s a s', G s o → step o s a s' → I s → I s')

include h hI

/-- An invariant of the operations that meet the guard can be added to the assertions. -/
theorem wp_inv (l : L) (s : σ) (hl : J l s ∧ I s) : (blocks l).wp step (fun s o => G s o ∧ I s) s
    (Post (fun l s => J l s ∧ I s) fun _ s => I s) := by
  refine ((h l s hl.1).inv hI hl.2).mono fun e s' ⟨hp, hi⟩ => ?_
  cases e with
  | goto l => exact ⟨hp, hi⟩
  | ret r => exact hi

theorem call_inv (h₀ : J l s) (hs : I s) {r : R} (hc : Call step blocks l s r s') : I s' :=
  call_of_wp (wp_inv h hI) ⟨h₀, hs⟩ hc

theorem issues_inv (h₀ : J l s) (hs : I s) {o : Op} (hi : Issues step blocks l s o s') : I s' :=
  (issues_of_wp (wp_inv h hI) ⟨h₀, hs⟩ hi).2

end

end Goto

end Cmp50Unlock.Lib
