import Cmp50Unlock.Lib.Goto
import Mathlib.Logic.Function.Basic
import Mathlib.Logic.Relation

/-!
# Threads that share a state

A pool of threads takes the steps of its threads in any order. Each thread has a state of its own; `H` is what
they share. If every thread keeps to its own part of `H`, then what a thread does in the pool it could do alone.
-/

namespace Cmp50Unlock.Lib

/-- The state of a pool of threads. -/
structure Pool (ι H P : Type) where
  shared : H
  own : ι → P

namespace Pool

variable {ι H P : Type} [DecidableEq ι] {step : ι → H × P → H × P → Prop}

/-- Some thread takes a step. -/
inductive Step (step : ι → H × P → H × P → Prop) (s : Pool ι H P) : Pool ι H P → Prop where
  | thread (i : ι) {h' : H} {p' : P} : step i (s.shared, s.own i) (h', p') →
      Step step s ⟨h', Function.update s.own i p'⟩

/-- Any number of steps of any threads. -/
abbrev Runs (step : ι → H × P → H × P → Prop) : Pool ι H P → Pool ι H P → Prop :=
  Relation.ReflTransGen (Step step)

/-- Any number of steps of thread `i` alone. -/
abbrev Alone (step : ι → H × P → H × P → Prop) (i : ι) : H × P → H × P → Prop :=
  Relation.ReflTransGen (step i)

/-- Threads in states `ok` keep to their own part of the shared state: `agree i` relates shared states that are
the same as far as thread `i` is concerned. -/
structure Separated (step : ι → H × P → H × P → Prop) (ok : ι → P → Prop) (agree : ι → H → H → Prop) : Prop where
  keeps : ∀ i h p h' p', ok i p → step i (h, p) (h', p') → ok i p'
  own : ∀ i h p h' p' k, ok i p → step i (h, p) (h', p') → agree i h k →
    ∃ k', step i (k, p) (k', p') ∧ agree i h' k'
  other : ∀ i j h p h' p' k, i ≠ j → ok j p → step j (h, p) (h', p') → agree i h k → agree i h' k

variable {ok : ι → P → Prop} {agree : ι → H → H → Prop} {s s' : Pool ι H P}

/-- What every thread keeps of its own state holds in the whole run. -/
theorem Runs.all_ok (hkeeps : ∀ i h p h' p', ok i p → step i (h, p) (h', p') → ok i p') (hr : Runs step s s')
    (h₀ : ∀ i, ok i (s.own i)) (i : ι) : ok i (s'.own i) := by
  induction hr generalizing i with
  | refl => exact h₀ i
  | @tail s₁ _ _ hs ih =>
      obtain ⟨j, hstep⟩ := hs
      by_cases hij : i = j
      · subst hij
        simpa using hkeeps i _ _ _ _ (ih i) hstep
      · simpa [hij] using ih i

/-- What a thread does in the pool, it does alone, from any shared state that is the same for it. -/
theorem Separated.alone (hsep : Separated step ok agree) (hr : Runs step s s') (h₀ : ∀ i, ok i (s.own i)) {i : ι}
    {k : H} (hk : agree i s.shared k) :
    ∃ k', Alone step i (k, s.own i) (k', s'.own i) ∧ agree i s'.shared k' := by
  induction hr with
  | refl => exact ⟨k, .refl, hk⟩
  | @tail s₁ _ hr₁ hs ih =>
      obtain ⟨k₁, halone, hagree⟩ := ih
      have hok := Runs.all_ok hsep.keeps hr₁ h₀
      obtain ⟨j, hstep⟩ := hs
      by_cases hij : i = j
      · subst hij
        obtain ⟨k', hstep', hagree'⟩ := hsep.own i _ _ _ _ k₁ (hok i) hstep hagree
        exact ⟨k', by simpa using halone.tail hstep', hagree'⟩
      · exact ⟨k₁, by simpa [hij] using halone, hsep.other i j _ _ _ _ k₁ hij (hok j) hstep hagree⟩

end Pool

namespace Goto

variable {Op : Type} {Ans : Op → Type} {L R σ : Type}

/-- One step of a call in progress: an operation or a jump. -/
inductive Small (step : (o : Op) → σ → Ans o → σ → Prop) (blocks : L → Prog Op Ans (Exit L R)) :
    Prog Op Ans (Exit L R) × σ → Prog Op Ans (Exit L R) × σ → Prop where
  | op {o k s a s'} : step o s a s' → Small step blocks (.op o k, s) (k a, s')
  | goto {l s} : Small step blocks (.ret (.goto l), s) (blocks l, s)

variable {step : (o : Op) → σ → Ans o → σ → Prop} {blocks : L → Prog Op Ans (Exit L R)}

/-- The steps of a call that ends make up a call. -/
theorem call_of_small {l : L} {s s' : σ} {r : R}
    (h : Relation.ReflTransGen (Small step blocks) (blocks l, s) (.ret (.ret r), s')) : Call step blocks l s r s' := by
  have hends : ∀ c : Prog Op Ans (Exit L R) × σ,
      Relation.ReflTransGen (Small step blocks) c (.ret (.ret r), s') →
        c.1.Exec step c.2 (.ret r) s' ∨ ∃ l s₁, c.1.Exec step c.2 (.goto l) s₁ ∧ Call step blocks l s₁ r s' := by
    intro c hc
    induction hc using Relation.ReflTransGen.head_induction_on with
    | refl => exact .inl ⟨rfl, rfl⟩
    | head hs _ ih =>
        cases hs with
        | op hst =>
            rcases ih with he | ⟨l, s₁, he, hcall⟩
            · exact .inl ⟨_, _, hst, he⟩
            · exact .inr ⟨l, s₁, ⟨_, _, hst, he⟩, hcall⟩
        | goto =>
            refine .inr ⟨_, _, ⟨rfl, rfl⟩, ?_⟩
            rcases ih with he | ⟨l, s₁, he, l₂, s₂, hreach, he₂⟩
            · exact ⟨_, _, .refl, he⟩
            · exact ⟨l₂, s₂, hreach.head he, he₂⟩
  rcases hends _ h with he | ⟨l₁, s₁, he, l₂, s₂, hreach, he₂⟩
  · exact ⟨l, s, .refl, he⟩
  · exact ⟨l₂, s₂, hreach.head he, he₂⟩

end Goto

end Cmp50Unlock.Lib
