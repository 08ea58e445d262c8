import Cmp50Unlock.Lib.Loop

/-!
# Counting operations

`p.Counts c Q` says that whatever the answers are, `Q` holds of what `p` returns and of the number of its operations,
where `c` says how often an operation with its answer counts.
-/

namespace Cmp50Unlock.Lib.Prog

variable {Op : Type} {Ans : Op → Type} {α β σ : Type}

def Counts (c : (o : Op) → Ans o → Nat) : Prog Op Ans α → (α → Nat → Prop) → Prop
  | .ret a, Q => Q a 0
  | .op o k, Q => ∀ a, (k a).Counts c fun r n => Q r (c o a + n)

variable {c : (o : Op) → Ans o → Nat} {p : Prog Op Ans α} {Q Q' : α → Nat → Prop}

@[simp] theorem counts_pure {a : α} : (pure a : Prog Op Ans α).Counts c Q ↔ Q a 0 := Iff.rfl

theorem counts_lift {o : Op} {Q : Ans o → Nat → Prop} :
    (lift o : Prog Op Ans (Ans o)).Counts c Q ↔ ∀ a, Q a (c o a) := Iff.rfl

theorem Counts.mono (h : p.Counts c Q) (hQ : ∀ a n, Q a n → Q' a n) : p.Counts c Q' := by
  induction p generalizing Q Q' with
  | ret a => exact hQ a 0 h
  | op o k ih => exact fun a => ih a (h a) fun r n => hQ r _

@[simp] theorem counts_bind {f : α → Prog Op Ans β} {Q : β → Nat → Prop} :
    (p >>= f).Counts c Q ↔ p.Counts c fun a n => (f a).Counts c fun b m => Q b (n + m) := by
  change (p.bind f).Counts c Q ↔ _
  induction p generalizing Q with
  | ret a => simp only [bind, Counts, Nat.zero_add]
  | op o k ih => simp only [bind, Counts, ih, Nat.add_assoc]

@[simp] theorem counts_map {f : α → β} {Q : β → Nat → Prop} :
    (f <$> p).Counts c Q ↔ p.Counts c fun a n => Q (f a) n := by
  simp only [map_eq_pure_bind, counts_bind, counts_pure, Nat.add_zero]

@[simp] theorem counts_ite {b : Prop} [Decidable b] {p q : Prog Op Ans α} :
    (if b then p else q).Counts c Q ↔ (b → p.Counts c Q) ∧ (¬ b → q.Counts c Q) := by
  by_cases h : b <;> simp [h]

/-- A loop counts at most as often as all its turns. -/
theorem counts_each {f : α → Prog Op Ans (Option β)} {k : Nat} (h : ∀ a, (f a).Counts c fun _ n => n ≤ k)
    (as : List α) : (each f as).Counts c fun _ n => n ≤ k * as.length := by
  induction as with
  | nil => exact Nat.zero_le _
  | cons a as ih =>
      rw [each, counts_bind]
      refine (h a).mono fun r n hn => ?_
      cases r with
      | some b => exact Nat.le_trans hn (Nat.le_mul_of_pos_right k (Nat.succ_pos _))
      | none =>
          refine ih.mono fun r m hm => ?_
          rw [List.length_cons, Nat.mul_succ]
          omega

/-- What a state counts, an execution adds to. -/
theorem Counts.exec {step : (o : Op) → σ → Ans o → σ → Prop} {m : σ → Nat} (h : p.Counts c Q)
    (hm : ∀ o s a s', step o s a s' → m s' = m s + c o a) {s s' : σ} {r : α} (he : p.Exec step s r s') :
    ∃ n, m s' = m s + n ∧ Q r n := by
  induction p generalizing s Q with
  | ret a =>
      obtain ⟨rfl, rfl⟩ := he
      exact ⟨0, rfl, h⟩
  | op o k ih =>
      obtain ⟨a, s₁, hstep, hk⟩ := he
      obtain ⟨n, hn, hQ⟩ := ih a (h a) hk
      refine ⟨c o a + n, ?_, hQ⟩
      rw [hn, hm o s a s₁ hstep, Nat.add_assoc]

end Cmp50Unlock.Lib.Prog
