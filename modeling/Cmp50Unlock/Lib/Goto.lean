import Cmp50Unlock.Lib.Prog

/-!
# Functions with labels and gotos

A function with gotos is one program for each label; the program of a label ends by returning or by going
to a label. A call runs the programs of the labels it comes to, one after another. Only this jumping can
go on forever, so whether a call returns is a question about the jumps.
-/

namespace Cmp50Unlock.Lib

/-- How the program of a label ends. -/
inductive Exit (L R : Type) : Type where
  | goto (l : L)
  | ret (r : R)
  deriving DecidableEq

namespace Goto

variable {Op : Type} {Ans : Op → Type} {L R σ : Type}

/-- `Reaches step blocks l s l' s'`: from label `l` in `s`, some execution comes to label `l'` in `s'`. -/
inductive Reaches (step : (o : Op) → σ → Ans o → σ → Prop) (blocks : L → Prog Op Ans (Exit L R))
    (l : L) (s : σ) : L → σ → Prop where
  | refl : Reaches step blocks l s l s
  | tail {l₁ l₂ s₁ s₂} : Reaches step blocks l s l₁ s₁ → (blocks l₁).Exec step s₁ (.goto l₂) s₂ →
      Reaches step blocks l s l₂ s₂

/-- A call entered at `l` in `s` returns `r` in `s'`. -/
def Call (step : (o : Op) → σ → Ans o → σ → Prop) (blocks : L → Prog Op Ans (Exit L R))
    (l : L) (s : σ) (r : R) (s' : σ) : Prop :=
  ∃ l₁ s₁, Reaches step blocks l s l₁ s₁ ∧ (blocks l₁).Exec step s₁ (.ret r) s'

/-- A call entered at `l` in `s` comes to issue `o` in `s'`. -/
def Issues (step : (o : Op) → σ → Ans o → σ → Prop) (blocks : L → Prog Op Ans (Exit L R))
    (l : L) (s : σ) (o : Op) (s' : σ) : Prop :=
  ∃ l₁ s₁, Reaches step blocks l s l₁ s₁ ∧ (blocks l₁).Issued step s₁ o s'

/-- Whatever the answers are, a call entered at `l` in `s` stops jumping. -/
inductive Halts (step : (o : Op) → σ → Ans o → σ → Prop) (blocks : L → Prog Op Ans (Exit L R)) :
    L → σ → Prop where
  | intro {l s} : (∀ l' s', (blocks l).Exec step s (.goto l') s' → Halts step blocks l' s') →
      Halts step blocks l s

/-- `Jumps step blocks back l s n l' s'`: some execution comes from `l` to `l'`, and `n` of the jumps it
takes satisfy `back`. -/
inductive Jumps (step : (o : Op) → σ → Ans o → σ → Prop) (blocks : L → Prog Op Ans (Exit L R))
    (back : L → L → Bool) (l : L) (s : σ) : Nat → L → σ → Prop where
  | refl : Jumps step blocks back l s 0 l s
  | tail {n l₁ l₂ s₁ s₂} : Jumps step blocks back l s n l₁ s₁ →
      (blocks l₁).Exec step s₁ (.goto l₂) s₂ →
      Jumps step blocks back l s (n + (back l₁ l₂).toNat) l₂ s₂

variable {step : (o : Op) → σ → Ans o → σ → Prop} {blocks : L → Prog Op Ans (Exit L R)}
  {l l' l'' : L} {s s' s'' : σ}

theorem Reaches.head (h : (blocks l).Exec step s (.goto l') s')
    (hr : Reaches step blocks l' s' l'' s'') : Reaches step blocks l s l'' s'' := by
  induction hr with
  | refl => exact .tail .refl h
  | tail _ he ih => exact .tail ih he

/-- Either no jump was taken, or the first one is a jump out of `l`. -/
theorem Reaches.cases_head (h : Reaches step blocks l s l'' s'') :
    (l'' = l ∧ s'' = s) ∨ ∃ l' s', (blocks l).Exec step s (.goto l') s' ∧
      Reaches step blocks l' s' l'' s'' := by
  induction h with
  | refl => exact Or.inl ⟨rfl, rfl⟩
  | tail hr he ih =>
      rcases ih with ⟨rfl, rfl⟩ | ⟨l', s', h₁, h₂⟩
      · exact Or.inr ⟨_, _, he, .refl⟩
      · exact Or.inr ⟨l', s', h₁, .tail h₂ he⟩

/-- An invariant of the jumps holds at every label a call comes to. -/
theorem Reaches.inv {I : L → σ → Prop} (h : Reaches step blocks l s l' s') (h₀ : I l s)
    (hstep : ∀ l₁ s₁ l₂ s₂, I l₁ s₁ → (blocks l₁).Exec step s₁ (.goto l₂) s₂ → I l₂ s₂) : I l' s' := by
  induction h with
  | refl => exact h₀
  | tail _ he ih => exact hstep _ _ _ _ ih he

theorem Reaches.mono {step' : (o : Op) → σ → Ans o → σ → Prop} (h : Reaches step blocks l s l' s')
    (hstep : ∀ o s a s', step o s a s' → step' o s a s') : Reaches step' blocks l s l' s' := by
  induction h with
  | refl => exact .refl
  | tail _ he ih => exact .tail ih (he.mono hstep)

/-- What every operation keeps holds wherever a call comes to. -/
theorem Reaches.keeps {I : σ → Prop} (h : Reaches step blocks l s l' s')
    (hI : ∀ o s a s', step o s a s' → I s → I s') (hs : I s) : I s' :=
  h.inv (I := fun _ => I) hs fun _ _ _ _ hs he => he.inv hI hs

theorem Jumps.reaches {back : L → L → Bool} {n} (h : Jumps step blocks back l s n l' s') :
    Reaches step blocks l s l' s' := by
  induction h with
  | refl => exact .refl
  | tail _ he ih => exact .tail ih he

/-- What each jump keeps of the count holds of every call. -/
theorem Jumps.inv {back : L → L → Bool} {n : Nat} {I : Nat → L → σ → Prop} (h : Jumps step blocks back l s n l' s')
    (h₀ : I 0 l s) (hstep : ∀ n l₁ s₁ l₂ s₂, I n l₁ s₁ → (blocks l₁).Exec step s₁ (.goto l₂) s₂ →
      I (n + (back l₁ l₂).toNat) l₂ s₂) : I n l' s' := by
  induction h with
  | refl => exact h₀
  | tail _ he ih => exact hstep _ _ _ _ _ ih he

/-- A call that stops jumping cannot stay in a set of states each of which can jump back into the set. -/
theorem Halts.not_loop {I : L → σ → Prop} (h : Halts step blocks l s)
    (hloop : ∀ l s, I l s → ∃ l' s', (blocks l).Exec step s (.goto l') s' ∧ I l' s') : ¬ I l s := by
  induction h with
  | @intro l s _ ih =>
      intro hI
      obtain ⟨l', s', he, hI'⟩ := hloop l s hI
      exact ih l' s' he hI'

/-! ## Calls that are recorded -/

section
variable {le : σ → σ → Prop} (h : Prog.Recorded step le)
include h

theorem reaches_later (hr : Reaches step blocks l s l' s') : le s s' :=
  hr.inv (I := fun _ => le s) (h.refl s) fun _ s₁ _ s₂ hs he => h.trans s s₁ s₂ hs (h.exec he)

theorem call_later {r : R} (hc : Call step blocks l s r s') : le s s' := by
  obtain ⟨l₁, s₁, hr, he⟩ := hc
  exact h.trans _ _ _ (reaches_later h hr) (h.exec he)

/-- A call goes through every label that an execution comes to before the end of the call. -/
theorem call_through {r : R} (hc : Call step blocks l s r s'') (hr : Reaches step blocks l s l' s') (ht : le s' s'') :
    Call step blocks l' s' r s'' := by
  induction hr with
  | refl => exact hc
  | @tail l₁ l₂ s₁ s₂ _ he ih =>
      obtain ⟨l₃, s₃, hr₃, he₃⟩ := ih (h.trans _ _ _ (h.exec he) ht)
      rcases hr₃.cases_head with ⟨rfl, rfl⟩ | ⟨l₄, s₄, he₄, hr₄⟩
      · cases (h.exec_unique he he₃ ht (h.refl s'')).1
      · have hc₄ : Call step blocks l₄ s₄ r s'' := ⟨l₃, s₃, hr₄, he₃⟩
        obtain ⟨heq, rfl⟩ := h.exec_unique he he₄ ht (call_later h hc₄)
        cases heq
        exact hc₄

end

/-! ## Functions without loops -/

theorem Issues.head {o : Op} (h : (blocks l).Exec step s (.goto l') s') (hi : Issues step blocks l' s' o s'') :
    Issues step blocks l s o s'' := by
  obtain ⟨l₁, s₁, hr, hi⟩ := hi
  exact ⟨l₁, s₁, hr.head h, hi⟩

theorem Call.head {r : R} (h : (blocks l).Exec step s (.goto l') s') (hc : Call step blocks l' s' r s'') :
    Call step blocks l s r s'' := by
  obtain ⟨l₁, s₁, hr, he⟩ := hc
  exact ⟨l₁, s₁, hr.head h, he⟩

/-- `q` is what a call entered at `l` does, without labels. -/
structure Inlines (step : (o : Op) → σ → Ans o → σ → Prop) (blocks : L → Prog Op Ans (Exit L R)) (l : L)
    (q : Prog Op Ans R) : Prop where
  call : ∀ s r s', Call step blocks l s r s' ↔ q.Exec step s r s'
  issues : ∀ s o s', Issues step blocks l s o s' ↔ q.Issued step s o s'

/-- The rest of a function after one of its parts: `k` is what the labels stand for. -/
def rest (k : L → Prog Op Ans R) : Exit L R → Prog Op Ans R
  | .goto l => k l
  | .ret r => pure r

@[simp] theorem rest_goto {k : L → Prog Op Ans R} : rest k (.goto l) = k l := rfl

@[simp] theorem rest_ret {k : L → Prog Op Ans R} {r : R} : rest k (.ret r) = pure r := rfl

/-- If the labels that a part goes to are inlined, the part is inlined by what follows it. -/
theorem inlines_bind {k : L → Prog Op Ans R}
    (h : (blocks l).Within (fun _ => True) fun e => ∀ l', e = .goto l' → Inlines step blocks l' (k l')) :
    Inlines step blocks l (blocks l >>= rest k) where
  call s r s' := by
    rw [Prog.exec_bind]
    constructor
    · rintro ⟨l₁, s₁, hr, he⟩
      rcases hr.cases_head with ⟨rfl, rfl⟩ | ⟨l', s₂, he₂, hr₂⟩
      · exact ⟨.ret r, s', he, rfl, rfl⟩
      · exact ⟨.goto l', s₂, he₂, ((h.result he₂ l' rfl).call s₂ r s').mp ⟨l₁, s₁, hr₂, he⟩⟩
    · rintro ⟨e, s₂, he, hk⟩
      cases e with
      | ret r' =>
          obtain ⟨rfl, rfl⟩ := hk
          exact ⟨l, s, .refl, he⟩
      | goto l' => exact Call.head he (((h.result he l' rfl).call s₂ r s').mpr hk)
  issues s o s' := by
    rw [Prog.issued_bind]
    constructor
    · rintro ⟨l₁, s₁, hr, hi⟩
      rcases hr.cases_head with ⟨rfl, rfl⟩ | ⟨l', s₂, he₂, hr₂⟩
      · exact .inl hi
      · exact .inr ⟨.goto l', s₂, he₂, ((h.result he₂ l' rfl).issues s₂ o s').mp ⟨l₁, s₁, hr₂, hi⟩⟩
    · rintro (hi | ⟨e, s₂, he, hk⟩)
      · exact ⟨l, s, .refl, hi⟩
      · cases e with
        | ret r' => exact hk.elim
        | goto l' => exact Issues.head he (((h.result he l' rfl).issues s₂ o s').mpr hk)

/-! ## Computing a call -/

/-- Run the parts of a function with a handler, at most `n` of them. -/
def interp {τ : Type} (run : (o : Op) → τ → Ans o × τ) (blocks : L → Prog Op Ans (Exit L R)) :
    Nat → L → τ → Option (R × τ)
  | 0, _, _ => none
  | n + 1, l, t =>
      match (blocks l).interp run t with
      | (.goto l', t') => interp run blocks n l' t'
      | (.ret r, t') => some (r, t')

/-- A handler that follows the step relation computes a call. -/
theorem call_interp {τ : Type} {run : (o : Op) → τ → Ans o × τ} (view : τ → σ)
    (hrun : ∀ o t, step o (view t) (run o t).1 (view (run o t).2)) {n : Nat} {t t' : τ} {r : R}
    (h : interp run blocks n l t = some (r, t')) : Call step blocks l (view t) r (view t') := by
  induction n generalizing l t with
  | zero => cases h
  | succ n ih =>
      have he := Prog.exec_interp view hrun (blocks l) t
      simp only [interp] at h
      split at h
      · next l' t₁ heq =>
          rw [heq] at he
          obtain ⟨l₁, s₁, hr, he₁⟩ := ih h
          exact ⟨l₁, s₁, hr.head he, he₁⟩
      · next r' t₁ heq =>
          rw [heq] at he
          cases h
          exact ⟨l, view t, .refl, he⟩

/-- Run the parts of a function with a handler through `n` jumps. -/
def jump {τ : Type} (run : (o : Op) → τ → Ans o × τ) (blocks : L → Prog Op Ans (Exit L R)) :
    Nat → L → τ → Option (L × τ)
  | 0, l, t => some (l, t)
  | n + 1, l, t =>
      match (blocks l).interp run t with
      | (.goto l', t') => jump run blocks n l' t'
      | (.ret _, _) => none

theorem reaches_jump {τ : Type} {run : (o : Op) → τ → Ans o × τ} (view : τ → σ)
    (hrun : ∀ o t, step o (view t) (run o t).1 (view (run o t).2)) {n : Nat} {t t' : τ}
    (h : jump run blocks n l t = some (l', t')) : Reaches step blocks l (view t) l' (view t') := by
  induction n generalizing l t with
  | zero => cases h; exact .refl
  | succ n ih =>
      have he := Prog.exec_interp view hrun (blocks l) t
      simp only [jump] at h
      split at h
      · next l₁ t₁ heq =>
          rw [heq] at he
          exact (ih h).head he
      · cases h

/-- If all checks passed, the handler has computed the jumps. -/
theorem reaches_checked {τ : Type} {run : (o : Op) → τ → Ans o × τ} {check : Op → τ → Bool} (view : τ → σ)
    (hrun : ∀ o t, check o t = true → step o (view t) (run o t).1 (view (run o t).2)) {n : Nat} {t t' : τ × Bool}
    (h : jump (Prog.checked run check) blocks n l t = some (l', t')) (hok : t'.2 = true) :
    t.2 = true ∧ Reaches step blocks l (view t.1) l' (view t'.1) := by
  induction n generalizing l t with
  | zero => cases h; exact ⟨hok, .refl⟩
  | succ n ih =>
      obtain ⟨hresult, hstate⟩ := Prog.interp_checked run check (blocks l) t
      simp only [jump] at h
      split at h
      · next l₁ t₁ heq =>
          rw [heq] at hresult hstate
          obtain ⟨hok₁, hreach⟩ := ih h
          have hchecks : ((blocks l).interp (Prog.checked run check) t).2.2 = true := by rw [heq]; exact hok₁
          obtain ⟨hok₀, he⟩ := Prog.exec_checked view hrun (blocks l) t hchecks
          rw [← hresult, ← hstate] at he
          exact ⟨hok₀, hreach.head he⟩
      · cases h

/-- If all checks passed, the handler has computed the call. -/
theorem call_checked {τ : Type} {run : (o : Op) → τ → Ans o × τ} {check : Op → τ → Bool} (view : τ → σ)
    (hrun : ∀ o t, check o t = true → step o (view t) (run o t).1 (view (run o t).2)) {n : Nat} {t t' : τ × Bool}
    {r : R} (h : interp (Prog.checked run check) blocks n l t = some (r, t')) (hok : t'.2 = true) :
    t.2 = true ∧ Call step blocks l (view t.1) r (view t'.1) := by
  induction n generalizing l t with
  | zero => cases h
  | succ n ih =>
      obtain ⟨hresult, hstate⟩ := Prog.interp_checked run check (blocks l) t
      have he := Prog.exec_checked view hrun (blocks l) t
      rw [← hresult, ← hstate] at he
      simp only [interp] at h
      split at h
      · next l' t₁ heq =>
          rw [heq] at he
          obtain ⟨hok₁, l₁, s₁, hr, he₁⟩ := ih h
          obtain ⟨hok₀, he₀⟩ := he hok₁
          exact ⟨hok₀, l₁, s₁, hr.head he₀, he₁⟩
      · next r' t₁ heq =>
          rw [heq] at he
          cases h
          obtain ⟨hok₀, he₀⟩ := he hok
          exact ⟨hok₀, l, view t.1, .refl, he₀⟩

end Goto

end Cmp50Unlock.Lib
