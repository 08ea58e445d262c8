/-!
# Programs over operations

A program is a tree of operations: it issues an operation, receives an answer and continues. What an
operation does to the state is given from outside, by a step relation that may allow several answers.
The tree of a program is finite, so every program ends; loops are built on top of it in `Lib/Goto.lean`.
-/

namespace Cmp50Unlock.Lib

/-- A program that issues operations of `Op`. The answer to `o` has type `Ans o`. -/
inductive Prog (Op : Type) (Ans : Op → Type) (α : Type) : Type where
  | ret (a : α)
  | op (o : Op) (k : Ans o → Prog Op Ans α)

namespace Prog

variable {Op : Type} {Ans : Op → Type} {α β γ σ τ : Type}

/-! ## The monad -/

def bind : Prog Op Ans α → (α → Prog Op Ans β) → Prog Op Ans β
  | .ret a, f => f a
  | .op o k, f => .op o fun a => (k a).bind f

/-- The program that issues one operation and returns its answer. -/
def lift (o : Op) : Prog Op Ans (Ans o) := .op o .ret

instance : Monad (Prog Op Ans) where
  pure := .ret
  bind := .bind

theorem bind_ret (p : Prog Op Ans α) : p.bind .ret = p := by
  induction p with
  | ret a => rfl
  | op o k ih => simp only [bind, ih]

theorem bind_bind (p : Prog Op Ans α) (f : α → Prog Op Ans β) (g : β → Prog Op Ans γ) :
    (p.bind f).bind g = p.bind fun a => (f a).bind g := by
  induction p with
  | ret a => rfl
  | op o k ih => simp only [bind, ih]

instance : LawfulMonad (Prog Op Ans) :=
  LawfulMonad.mk' _ (fun p => bind_ret p) (fun _ _ => rfl) (fun p f g => bind_bind p f g)

theorem ite_bind {c : Prop} [Decidable c] (p q : Prog Op Ans α) (f : α → Prog Op Ans β) :
    (if c then p else q) >>= f = if c then p >>= f else q >>= f := by
  split <;> rfl

theorem map_ite {c : Prop} [Decidable c] (p q : Prog Op Ans α) (f : α → β) :
    f <$> (if c then p else q) = if c then f <$> p else f <$> q := by
  split <;> rfl

@[simp] theorem ret_eq_pure (a : α) : (.ret a : Prog Op Ans α) = pure a := rfl

/-! ## Executions -/

/-- `p.Exec step s r s'`: an execution of `p` from `s` returns `r` in `s'`. -/
def Exec (step : (o : Op) → σ → Ans o → σ → Prop) : Prog Op Ans α → σ → α → σ → Prop
  | .ret a, s, r, s' => r = a ∧ s' = s
  | .op o k, s, r, s' => ∃ a s₁, step o s a s₁ ∧ (k a).Exec step s₁ r s'

/-- `p.Issued step s o s'`: an execution of `p` from `s` comes to issue `o` in `s'`. -/
def Issued (step : (o : Op) → σ → Ans o → σ → Prop) : Prog Op Ans α → σ → Op → σ → Prop
  | .ret _, _, _, _ => False
  | .op o k, s, o', s' => (o' = o ∧ s' = s) ∨ ∃ a s₁, step o s a s₁ ∧ (k a).Issued step s₁ o' s'

variable {step : (o : Op) → σ → Ans o → σ → Prop} {s s' : σ} {p : Prog Op Ans α}

@[simp] theorem exec_pure {a r : α} : (pure a : Prog Op Ans α).Exec step s r s' ↔ r = a ∧ s' = s :=
  Iff.rfl

@[simp] theorem exec_lift {o : Op} {r : Ans o} :
    (lift o : Prog Op Ans (Ans o)).Exec step s r s' ↔ step o s r s' := by
  simp only [lift, Exec]
  constructor
  · rintro ⟨a, s₁, h, rfl, rfl⟩; exact h
  · intro h; exact ⟨r, s', h, rfl, rfl⟩

@[simp] theorem exec_bind {f : α → Prog Op Ans β} {r : β} :
    (p >>= f).Exec step s r s' ↔ ∃ a s₁, p.Exec step s a s₁ ∧ (f a).Exec step s₁ r s' := by
  change (p.bind f).Exec step s r s' ↔ _
  induction p generalizing s with
  | ret a =>
      constructor
      · intro h; exact ⟨a, s, ⟨rfl, rfl⟩, h⟩
      · rintro ⟨_, _, ⟨rfl, rfl⟩, h⟩; exact h
  | op o k ih =>
      simp only [bind, Exec, ih]
      constructor
      · rintro ⟨b, s₁, hs, a, s₂, hk, hf⟩; exact ⟨a, s₂, ⟨b, s₁, hs, hk⟩, hf⟩
      · rintro ⟨a, s₂, ⟨b, s₁, hs, hk⟩, hf⟩; exact ⟨b, s₁, hs, a, s₂, hk, hf⟩

@[simp] theorem issued_pure {a : α} {o : Op} : (pure a : Prog Op Ans α).Issued step s o s' ↔ False :=
  Iff.rfl

@[simp] theorem issued_lift {o o' : Op} :
    (lift o : Prog Op Ans (Ans o)).Issued step s o' s' ↔ o' = o ∧ s' = s := by
  simp only [lift, Issued, and_false, exists_false, or_false]

@[simp] theorem issued_bind {f : α → Prog Op Ans β} {o : Op} :
    (p >>= f).Issued step s o s' ↔
      p.Issued step s o s' ∨ ∃ a s₁, p.Exec step s a s₁ ∧ (f a).Issued step s₁ o s' := by
  change (p.bind f).Issued step s o s' ↔ _
  induction p generalizing s with
  | ret a =>
      constructor
      · intro h; exact Or.inr ⟨a, s, ⟨rfl, rfl⟩, h⟩
      · rintro (h | ⟨_, _, ⟨rfl, rfl⟩, h⟩)
        · exact h.elim
        · exact h
  | op o₁ k ih =>
      simp only [bind, Issued, Exec, ih]
      constructor
      · rintro (h | ⟨b, s₁, hs, h | ⟨a, s₂, hk, hf⟩⟩)
        · exact Or.inl (Or.inl h)
        · exact Or.inl (Or.inr ⟨b, s₁, hs, h⟩)
        · exact Or.inr ⟨a, s₂, ⟨b, s₁, hs, hk⟩, hf⟩
      · rintro ((h | ⟨b, s₁, hs, h⟩) | ⟨a, s₂, ⟨b, s₁, hs, hk⟩, hf⟩)
        · exact Or.inl h
        · exact Or.inr ⟨b, s₁, hs, Or.inl h⟩
        · exact Or.inr ⟨b, s₁, hs, Or.inr ⟨a, s₂, hk, hf⟩⟩

/-- What every operation keeps, every program keeps. -/
theorem Exec.inv {I : σ → Prop} {r : α} (he : p.Exec step s r s')
    (hI : ∀ o s a s', step o s a s' → I s → I s') (hs : I s) : I s' := by
  induction p generalizing s with
  | ret a => obtain ⟨rfl, rfl⟩ := he; exact hs
  | op o k ih =>
      obtain ⟨a, s₁, hst, hk⟩ := he
      exact ih a hk (hI o s a s₁ hst hs)

/-- More steps, more executions. -/
theorem Exec.mono {step' : (o : Op) → σ → Ans o → σ → Prop} {r : α} (he : p.Exec step s r s')
    (hstep : ∀ o s a s', step o s a s' → step' o s a s') : p.Exec step' s r s' := by
  induction p generalizing s with
  | ret a => exact he
  | op o k ih =>
      obtain ⟨a, s₁, hst, hk⟩ := he
      exact ⟨a, s₁, hstep o s a s₁ hst, ih a hk⟩

/-- Steps that keep an invariant, seen as the steps that they are under it. -/
theorem Exec.under {step' : (o : Op) → σ → Ans o → σ → Prop} {I : σ → Prop} {r : α} (he : p.Exec step s r s')
    (hI : ∀ o s a s', I s → step o s a s' → step' o s a s' ∧ I s') (hs : I s) : p.Exec step' s r s' := by
  induction p generalizing s with
  | ret a => exact he
  | op o k ih =>
      obtain ⟨a, s₁, hst, hk⟩ := he
      obtain ⟨hst', hs₁⟩ := hI o s a s₁ hs hst
      exact ⟨a, s₁, hst', ih a hk hs₁⟩

/-! ## Steps that are recorded

Where the states record what happened, a later state tells which of the possible executions led to it. -/

/-- In the order `le` of the states, each step leads to a later one, and of the steps of one operation at most one
leads to `t` or before it. -/
structure Recorded (step : (o : Op) → σ → Ans o → σ → Prop) (le : σ → σ → Prop) : Prop where
  refl : ∀ s, le s s
  trans : ∀ s t u, le s t → le t u → le s u
  later : ∀ o s a s', step o s a s' → le s s'
  unique : ∀ o s a₁ s₁ a₂ s₂ t, step o s a₁ s₁ → step o s a₂ s₂ → le s₁ t → le s₂ t → a₁ = a₂ ∧ s₁ = s₂

section
variable {le : σ → σ → Prop} (h : Recorded step le)
include h

theorem Recorded.exec {r : α} (he : p.Exec step s r s') : le s s' :=
  he.inv (I := le s) (fun o s₁ a s₂ hst hs => h.trans s s₁ s₂ hs (h.later o s₁ a s₂ hst)) (h.refl s)

theorem Recorded.exec_unique {r₁ r₂ : α} {s₁ s₂ t : σ} (h₁ : p.Exec step s r₁ s₁) (h₂ : p.Exec step s r₂ s₂)
    (ht₁ : le s₁ t) (ht₂ : le s₂ t) : r₁ = r₂ ∧ s₁ = s₂ := by
  induction p generalizing s with
  | ret a =>
      obtain ⟨rfl, rfl⟩ := h₁
      obtain ⟨rfl, rfl⟩ := h₂
      exact ⟨rfl, rfl⟩
  | op o k ih =>
      obtain ⟨a₁, u₁, hst₁, hk₁⟩ := h₁
      obtain ⟨a₂, u₂, hst₂, hk₂⟩ := h₂
      have hu₁ : le u₁ t := h.trans _ _ _ (h.exec hk₁) ht₁
      have hu₂ : le u₂ t := h.trans _ _ _ (h.exec hk₂) ht₂
      obtain ⟨rfl, rfl⟩ := h.unique o s a₁ u₁ a₂ u₂ t hst₁ hst₂ hu₁ hu₂
      exact ih a₁ hk₁ hk₂

end

/-! ## Footprints

Whatever the answers are, the operations of a program stay inside its footprint. A property that every
operation of the footprint keeps is kept by the program. -/

/-- Whatever the answers are, `p` issues only operations of `S` and returns a value of `Q`. -/
def Within (S : Op → Prop) (Q : α → Prop) : Prog Op Ans α → Prop
  | .ret a => Q a
  | .op o k => S o ∧ ∀ a, (k a).Within S Q

/-- Every operation that `p` may issue is in `S`. -/
abbrev Uses (S : Op → Prop) (p : Prog Op Ans α) : Prop := p.Within S fun _ => True

variable {S T : Op → Prop} {Q Q' : α → Prop}

@[simp] theorem within_pure {a : α} : (pure a : Prog Op Ans α).Within S Q ↔ Q a := Iff.rfl

theorem within_lift {o : Op} {Q : Ans o → Prop} :
    (lift o : Prog Op Ans (Ans o)).Within S Q ↔ S o ∧ ∀ a, Q a := Iff.rfl

@[simp] theorem within_bind {f : α → Prog Op Ans β} {Q : β → Prop} :
    (p >>= f).Within S Q ↔ p.Within S fun a => (f a).Within S Q := by
  change (p.bind f).Within S Q ↔ _
  induction p with
  | ret a => exact Iff.rfl
  | op o k ih => simp only [bind, Within, ih]

@[simp] theorem within_map {f : α → β} {Q : β → Prop} :
    (f <$> p).Within S Q ↔ p.Within S fun a => Q (f a) := by
  simp only [map_eq_pure_bind, within_bind, within_pure]

@[simp] theorem within_ite {c : Prop} [Decidable c] {p q : Prog Op Ans α} :
    (if c then p else q).Within S Q ↔ (c → p.Within S Q) ∧ (¬ c → q.Within S Q) := by
  by_cases h : c <;> simp [h]

theorem uses_true (p : Prog Op Ans α) : p.Uses fun _ => True := by
  induction p with
  | ret a => trivial
  | op o k ih => exact ⟨trivial, ih⟩

theorem Within.mono (h : p.Within S Q) (hST : ∀ o, S o → T o) (hQ : ∀ a, Q a → Q' a) :
    p.Within T Q' := by
  induction p with
  | ret a => exact hQ a h
  | op o k ih => exact ⟨hST o h.1, fun a => ih a (h.2 a)⟩

theorem Within.and (h : p.Within S Q) (h' : p.Within T Q') : p.Within (fun o => S o ∧ T o) fun a => Q a ∧ Q' a := by
  induction p with
  | ret a => exact ⟨h, h'⟩
  | op o k ih => exact ⟨⟨h.1, h'.1⟩, fun a => ih a (h.2 a) (h'.2 a)⟩

/-- A footprint known beforehand, for use inside a larger program. -/
theorem Uses.within (h : p.Uses S) (hQ : ∀ a, Q a) : p.Within S Q :=
  Within.mono h (fun _ => id) fun a _ => hQ a

theorem Within.issued (h : p.Within S Q) {o : Op} (hi : p.Issued step s o s') : S o := by
  induction p generalizing s with
  | ret a => exact hi.elim
  | op o₁ k ih =>
      rcases hi with ⟨rfl, -⟩ | ⟨a, s₁, -, hk⟩
      · exact h.1
      · exact ih a (h.2 a) hk

/-- The frame rule: a property that the operations of the footprint keep holds after the program. -/
theorem Within.exec {I : σ → Prop} (h : p.Within S Q)
    (hI : ∀ o s a s', S o → step o s a s' → I s → I s') {r : α} (he : p.Exec step s r s') (hs : I s) :
    Q r ∧ I s' := by
  induction p generalizing s with
  | ret a => obtain ⟨rfl, rfl⟩ := he; exact ⟨h, hs⟩
  | op o k ih =>
      obtain ⟨a, s₁, hst, hk⟩ := he
      exact ih a (h.2 a) hk (hI o s a s₁ h.1 hst hs)

theorem Within.result (h : p.Within S Q) {r : α} (he : p.Exec step s r s') : Q r :=
  (h.exec (I := fun _ => True) (fun _ _ _ _ _ _ hI => hI) he trivial).1

/-- The frame rule at every operation the program issues. -/
theorem Within.issued_inv {I : σ → Prop} (h : p.Within S Q)
    (hI : ∀ o s a s', S o → step o s a s' → I s → I s') {o : Op} (hi : p.Issued step s o s')
    (hs : I s) : I s' := by
  induction p generalizing s with
  | ret a => exact hi.elim
  | op o₁ k ih =>
      rcases hi with ⟨-, rfl⟩ | ⟨a, s₁, hst, hk⟩
      · exact hs
      · exact ih a (h.2 a) hk (hI o₁ s a s₁ h.1 hst hs)

/-! ## Computing an execution -/

/-- Run `p` with a handler that answers each operation. -/
def interp (run : (o : Op) → τ → Ans o × τ) : Prog Op Ans α → τ → α × τ
  | .ret a, t => (a, t)
  | .op o k, t => (k (run o t).1).interp run (run o t).2

section
variable {run : (o : Op) → τ → Ans o × τ} {t : τ}

@[simp] theorem interp_pure {a : α} : (pure a : Prog Op Ans α).interp run t = (a, t) := rfl

@[simp] theorem interp_lift {o : Op} : (lift o : Prog Op Ans (Ans o)).interp run t = run o t := rfl

@[simp] theorem interp_bind {f : α → Prog Op Ans β} :
    (p >>= f).interp run t = (f (p.interp run t).1).interp run (p.interp run t).2 := by
  change (p.bind f).interp run t = _
  induction p generalizing t with
  | ret a => rfl
  | op o k ih => simp only [bind, interp, ih]

@[simp] theorem interp_map {f : α → β} : (f <$> p).interp run t = (f (p.interp run t).1, (p.interp run t).2) := by
  simp only [map_eq_pure_bind, interp_bind, interp_pure]

end

/-- A handler that follows the step relation computes an execution. -/
theorem exec_interp {run : (o : Op) → τ → Ans o × τ} (view : τ → σ)
    (hrun : ∀ o t, step o (view t) (run o t).1 (view (run o t).2)) (p : Prog Op Ans α) (t : τ) :
    p.Exec step (view t) (p.interp run t).1 (view (p.interp run t).2) := by
  induction p generalizing t with
  | ret a => exact ⟨rfl, rfl⟩
  | op o k ih => exact ⟨_, _, hrun o t, ih _ _⟩

/-- A handler that follows the step relation where a check passes, with the outcome of the checks so far. -/
def checked (run : (o : Op) → τ → Ans o × τ) (check : Op → τ → Bool) (o : Op) (t : τ × Bool) : Ans o × (τ × Bool) :=
  ((run o t.1).1, ((run o t.1).2, t.2 && check o t.1))

theorem interp_checked (run : (o : Op) → τ → Ans o × τ) (check : Op → τ → Bool) (p : Prog Op Ans α) (t : τ × Bool) :
    (p.interp (checked run check) t).1 = (p.interp run t.1).1 ∧
      (p.interp (checked run check) t).2.1 = (p.interp run t.1).2 := by
  induction p generalizing t with
  | ret a => exact ⟨rfl, rfl⟩
  | op o k ih => exact ih _ _

/-- If all checks passed, the handler has computed an execution. -/
theorem exec_checked {run : (o : Op) → τ → Ans o × τ} {check : Op → τ → Bool} (view : τ → σ)
    (hrun : ∀ o t, check o t = true → step o (view t) (run o t).1 (view (run o t).2)) (p : Prog Op Ans α) (t : τ × Bool)
    (h : (p.interp (checked run check) t).2.2 = true) :
    t.2 = true ∧ p.Exec step (view t.1) (p.interp run t.1).1 (view (p.interp run t.1).2) := by
  induction p generalizing t with
  | ret a => exact ⟨h, rfl, rfl⟩
  | op o k ih =>
      obtain ⟨hok, he⟩ := ih _ _ h
      obtain ⟨ht, hcheck⟩ := Bool.and_eq_true_iff.mp hok
      exact ⟨ht, _, _, hrun o t.1 hcheck, he⟩

/-- Run `p` with a handler up to the first operation that `stop` accepts. -/
def interpUpTo (run : (o : Op) → τ → Ans o × τ) (stop : Op → Bool) : Prog Op Ans α → τ → Option (Op × τ)
  | .ret _, _ => none
  | .op o k, t => if stop o then some (o, t) else (k (run o t).1).interpUpTo run stop (run o t).2

/-- What a handler comes to, an execution issues. -/
theorem issued_interpUpTo {run : (o : Op) → τ → Ans o × τ} {stop : Op → Bool} (view : τ → σ)
    (hrun : ∀ o t, step o (view t) (run o t).1 (view (run o t).2)) {p : Prog Op Ans α} {t t' : τ} {o : Op}
    (h : p.interpUpTo run stop t = some (o, t')) : stop o = true ∧ p.Issued step (view t) o (view t') := by
  induction p generalizing t with
  | ret a => cases h
  | op o₁ k ih =>
      rw [interpUpTo] at h
      split at h
      next hstop =>
        cases h
        exact ⟨hstop, .inl ⟨rfl, rfl⟩⟩
      next hstop =>
        obtain ⟨ho, hi⟩ := ih _ h
        exact ⟨ho, .inr ⟨_, _, hrun o₁ t, hi⟩⟩

end Prog

end Cmp50Unlock.Lib
