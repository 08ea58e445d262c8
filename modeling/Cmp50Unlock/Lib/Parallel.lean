import Cmp50Unlock.Lib.Interleave
import Mathlib.Algebra.BigOperators.Group.Finset.Basic
import Mathlib.Algebra.Order.BigOperators.Group.Finset
import Mathlib.Data.Fintype.Basic
import Mathlib.Order.WellFounded

/-!
# Rules for a pool of threads

A proof outline gives every thread an assertion, and no thread disturbs the assertion of another one. A measure that
every thread decreases bounds the runs.
-/

namespace Cmp50Unlock.Lib.Pool

variable {ι H P : Type} [DecidableEq ι] {step : ι → H × P → H × P → Prop} {s s' : Pool ι H P}

/-! ## Proof outlines -/

/-- The assertions `A` of the threads of a pool, under an invariant `I` of what they share. -/
structure Outline (step : ι → H × P → H × P → Prop) (I : H → Prop) (A : ι → H → P → Prop) : Prop where
  shared : ∀ i h p h' p', I h → A i h p → step i (h, p) (h', p') → I h'
  own : ∀ i h p h' p', I h → A i h p → step i (h, p) (h', p') → A i h' p'
  other : ∀ i j h p h' p' q, i ≠ j → I h → A j h p → step j (h, p) (h', p') → A i h q → A i h' q

theorem Outline.runs {I : H → Prop} {A : ι → H → P → Prop} (ho : Outline step I A) (hr : Runs step s s')
    (hI : I s.shared)
    (hA : ∀ i, A i s.shared (s.own i)) : I s'.shared ∧ ∀ i, A i s'.shared (s'.own i) := by
  induction hr with
  | refl => exact ⟨hI, hA⟩
  | tail _ hs ih =>
      obtain ⟨hI₁, hA₁⟩ := ih
      obtain ⟨j, hstep⟩ := hs
      refine ⟨ho.shared j _ _ _ _ hI₁ (hA₁ j) hstep, fun i => ?_⟩
      by_cases hij : i = j
      · subst hij
        simpa using ho.own i _ _ _ _ hI₁ (hA₁ i) hstep
      · simpa [hij] using ho.other i j _ _ _ _ _ hij hI₁ (hA₁ j) hstep (hA₁ i)

/-! ## Termination -/

section
variable [Fintype ι] {size : P → Nat} (hdecreases : ∀ i h p h' p', step i (h, p) (h', p') → size p' < size p)

include hdecreases

theorem sum_lt (hs : Step step s s') : ∑ i, size (s'.own i) < ∑ i, size (s.own i) := by
  obtain ⟨j, hstep⟩ := hs
  have hlt := hdecreases j _ _ _ _ hstep
  refine Finset.sum_lt_sum (fun i _ => ?_) ⟨j, Finset.mem_univ j, by simpa using hlt⟩
  by_cases hij : i = j
  · subst hij
    simpa using hlt.le
  · simp [hij]

/-- No run goes on forever. -/
theorem wellFounded_step : WellFounded fun s' s : Pool ι H P => Step step s s' :=
  Subrelation.wf (fun hs => sum_lt hdecreases hs) (measure fun s : Pool ι H P => ∑ i, size (s.own i)).wf

/-- Every run can be continued to its end. -/
theorem exists_end (s : Pool ι H P) : ∃ s', Runs step s s' ∧ ∀ s'', ¬Step step s' s'' := by
  induction s using (wellFounded_step hdecreases).induction with
  | _ s ih =>
      by_cases hend : ∀ s'', ¬Step step s s''
      · exact ⟨s, .refl, hend⟩
      · obtain ⟨s₁, hs₁⟩ := Classical.not_forall_not.mp hend
        obtain ⟨s', hr, hend'⟩ := ih s₁ hs₁
        exact ⟨s', .head hs₁ hr, hend'⟩

end

/-- At the end of a run no thread can go on. -/
theorem stopped_of_end (hend : ∀ s', ¬Step step s s') (i : ι) (h' : H) (p' : P) :
    ¬step i (s.shared, s.own i) (h', p') :=
  fun hstep => hend _ (.thread i hstep)

end Cmp50Unlock.Lib.Pool
