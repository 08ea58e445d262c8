import Cmp50Unlock.Lib.Wp

/-!
# Code with variables and exceptions

A program whose variables keep their values when it raises an exception, so that a `finally` can use them. `Meets` gives
it one postcondition for the return and one for the exception, and a guard for its operations.
-/

namespace Cmp50Unlock.Lib

/-- If every operation can be answered so that `I` is kept, a program can be executed so that `I` is kept. -/
theorem Prog.exists_exec {Op : Type} {Ans : Op → Type} {α σ : Type} {step : (o : Op) → σ → Ans o → σ → Prop}
    {I : σ → Prop}
    (h : ∀ o s, I s → ∃ a s', step o s a s' ∧ I s') (p : Prog Op Ans α) (s : σ) (hs : I s) :
    ∃ r s', p.Exec step s r s' ∧ I s' := by
  induction p generalizing s with
  | ret a => exact ⟨a, s, ⟨rfl, rfl⟩, hs⟩
  | op o k ih =>
      obtain ⟨a, s₁, hstep, hs₁⟩ := h o s hs
      obtain ⟨r, s', he, hs'⟩ := ih a s₁ hs₁
      exact ⟨r, s', ⟨a, s₁, hstep, he⟩, hs'⟩

/-- Code over operations of `Op`, with variables `V` and exceptions `X`. -/
abbrev Code (Op : Type) (Ans : Op → Type) (V X α : Type) := ExceptT X (StateT V (Prog Op Ans)) α

namespace Code

variable {Op : Type} {Ans : Op → Type} {V X α β σ : Type}

/-- Issue an operation. -/
def call (o : Op) : Code Op Ans V X (Ans o) := ExceptT.mk fun v => do
  let a ← Prog.lift o
  return (.ok a, v)

/-- `try: p finally: q`. An exception of `q` takes the place of the one of `p`. -/
def tryFinally (p : Code Op Ans V X α) (q : Code Op Ans V X Unit) : Code Op Ans V X α := ExceptT.mk fun v => do
  let (r, v₁) ← p.run.run v
  let (r', v₂) ← q.run.run v₁
  return match r' with
    | .ok _ => (r, v₂)
    | .error x => (.error x, v₂)

/-- A postcondition for the return and one for the exception. -/
def Outcome (Q : α → V → σ → Prop) (E : X → V → σ → Prop) : Except X α × V → σ → Prop
  | (.ok a, v), s => Q a v s
  | (.error x, v), s => E x v s

def Meets (step : (o : Op) → σ → Ans o → σ → Prop) (G : σ → Op → Prop) (p : Code Op Ans V X α) (v : V) (s : σ)
    (Q : α → V → σ → Prop) (E : X → V → σ → Prop) : Prop :=
  (p.run.run v).wp step G s (Outcome Q E)

variable {step : (o : Op) → σ → Ans o → σ → Prop} {G : σ → Op → Prop} {p q : Code Op Ans V X α} {v : V} {s : σ}
  {Q Q' : α → V → σ → Prop} {E E' : X → V → σ → Prop}

theorem Meets.mono (h : Meets step G p v s Q E) (hQ : ∀ a v s, Q a v s → Q' a v s) (hE : ∀ x v s, E x v s → E' x v s) :
    Meets step G p v s Q' E' := by
  refine Prog.wp.mono h fun r s' hr => ?_
  obtain ⟨r, v'⟩ := r
  cases r with
  | ok a => exact hQ a v' s' hr
  | error x => exact hE x v' s' hr

@[simp] theorem meets_pure {a : α} : Meets step G (pure a) v s Q E ↔ Q a v s := Iff.rfl

@[simp] theorem meets_throw {x : X} : Meets step G (throw x : Code Op Ans V X α) v s Q E ↔ E x v s := Iff.rfl

@[simp] theorem meets_bind {f : α → Code Op Ans V X β} {Q : β → V → σ → Prop} :
    Meets step G (p >>= f) v s Q E ↔ Meets step G p v s (fun a v' s' => Meets step G (f a) v' s' Q E) E := by
  have hrun : (p >>= f).run.run v = p.run.run v >>= fun r => match r.1 with
      | .ok a => (f a).run.run r.2
      | .error x => pure (.error x, r.2) := by
    rw [ExceptT.run_bind, StateT.run_bind]
    refine congrArg _ (funext fun r => ?_)
    obtain ⟨r, v'⟩ := r
    cases r <;> rfl
  rw [Meets, hrun, Prog.wp_bind]
  have hcont : (fun (r : Except X α × V) s' => Prog.wp step G (match r.1 with
      | .ok a => (f a).run.run r.2
      | .error x => pure (.error x, r.2)) s' (Outcome Q E)) = Outcome (fun a v' s' =>
          Meets step G (f a) v' s' Q E) E := by
    funext r s'
    obtain ⟨r, v'⟩ := r
    cases r <;> rfl
  rw [hcont]
  exact Iff.rfl

@[simp] theorem meets_ite {c : Prop} [Decidable c] :
    Meets step G (if c then p else q) v s Q E ↔ (c → Meets step G p v s Q E) ∧ (¬c → Meets step G q v s Q E) := by
  by_cases h : c <;> simp [h]

@[simp] theorem meets_call {o : Op} {Q : Ans o → V → σ → Prop} :
    Meets step G (call o : Code Op Ans V X (Ans o)) v s Q E ↔ G s o ∧ ∀ a s', step o s a s' → Q a v s' := Iff.rfl

@[simp] theorem meets_get {Q : V → V → σ → Prop} : Meets step G (get : Code Op Ans V X V) v s Q E ↔ Q v v s := Iff.rfl

@[simp] theorem meets_modify {f : V → V} {Q : PUnit → V → σ → Prop} :
    Meets step G (modify f : Code Op Ans V X PUnit) v s Q E ↔ Q ⟨⟩ (f v) s := Iff.rfl

theorem wp_congr {γ : Type} {p : Prog Op Ans γ} {Q Q' : γ → σ → Prop} (h : ∀ r s, Q r s ↔ Q' r s) :
    p.wp step G s Q ↔ p.wp step G s Q' := by
  constructor
  · exact fun hp => hp.mono fun r s => (h r s).mp
  · exact fun hp => hp.mono fun r s => (h r s).mpr

/-- What comes of the first part is what the second one starts with, whether there is an exception or not. -/
theorem meets_tryFinally {q : Code Op Ans V X Unit} : Meets step G (tryFinally p q) v s Q E ↔
    Meets step G p v s (fun a v' s' => Meets step G q v' s' (fun _ => Q a) E)
      fun x v' s' => Meets step G q v' s' (fun _ => E x) E := by
  rw [Meets]
  change Prog.wp step G (p.run.run v >>= _) s _ ↔ _
  rw [Prog.wp_bind]
  refine wp_congr fun r s' => ?_
  rw [Prog.wp_bind]
  obtain ⟨r, v'⟩ := r
  cases r with
  | ok a =>
      refine wp_congr fun r' s'' => ?_
      obtain ⟨r', v''⟩ := r'
      cases r' <;> exact Iff.rfl
  | error x =>
      refine wp_congr fun r' s'' => ?_
      obtain ⟨r', v''⟩ := r'
      cases r' <;> exact Iff.rfl

/-- A loop keeps the invariant of its body. -/
theorem meets_forM {f : α → Code Op Ans V X PUnit} {as : List α} {I : V → σ → Prop}
    (h : ∀ a ∈ as, ∀ v s, I v s → Meets step G (f a) v s (fun _ => I) E) (hs : I v s) :
    Meets step G (as.forM f) v s (fun _ => I) E := by
  induction as generalizing v s with
  | nil => exact meets_pure.mpr hs
  | cons a as ih =>
      rw [List.forM, meets_bind]
      exact (h a (.head as) v s hs).mono (fun _ v' s' hs' => ih (fun a' ha => h a' (.tail a ha)) hs') fun _ _ _ => id

/-- A loop over the numbers below `n`, with an invariant that says how far it has come. -/
theorem meets_forM_range {f : Nat → Code Op Ans V X PUnit} {n : Nat} {I : Nat → V → σ → Prop}
    (h : ∀ k < n, ∀ v s, I k v s → Meets step G (f k) v s (fun _ => I (k + 1)) E) (hs : I 0 v s) :
    Meets step G ((List.range n).forM f) v s (fun _ => I n) E := by
  induction n with
  | zero => exact meets_pure.mpr hs
  | succ n ih =>
      rw [List.range_succ]
      change Meets step G (forM (List.range n ++ [n]) f) v s _ _
      rw [List.forM_append, meets_bind]
      refine (ih fun k hk => h k (Nat.lt_succ_of_lt hk)).mono (fun _ v' s' hs' => ?_) fun _ _ _ => id
      change Meets step G (f n >>= fun _ => pure PUnit.unit) v' s' _ _
      rw [meets_bind]
      exact (h n (Nat.lt_succ_self n) v' s' hs').mono (fun _ _ _ hs'' => meets_pure.mpr hs'') fun _ _ _ => id

end Code

end Cmp50Unlock.Lib
