import Mathlib.Data.List.Basic

/-!
# Transcripts

A program that leaves events one after the other and may exit with a status. What it leaves and when it succeeds are
told part by part.
-/

namespace Cmp50Unlock.Lib

/-- The events of a program, and its result or the status that it exits with. -/
structure Transcript (Event α : Type) where
  events : List Event
  result : Except Nat α

namespace Transcript

variable {Event α β : Type}

instance : Monad (Transcript Event) where
  pure a := ⟨[], .ok a⟩
  bind p f :=
    match p.result with
    | .ok a => ⟨p.events ++ (f a).events, (f a).result⟩
    | .error n => ⟨p.events, .error n⟩

def emit (event : Event) : Transcript Event Unit := ⟨[event], .ok ()⟩

def exit (status : Nat) : Transcript Event α := ⟨[], .error status⟩

/-- A part that leaves no event. -/
def silent (result : Except Nat α) : Transcript Event α := ⟨[], result⟩

variable {p : Transcript Event α} {f : α → Transcript Event β} {a : α} {b : β} {event event' : Event}

@[simp] theorem events_pure : (pure a : Transcript Event α).events = [] := rfl

@[simp] theorem result_pure : (pure a : Transcript Event α).result = .ok a := rfl

@[simp] theorem events_emit : (emit event).events = [event] := rfl

@[simp] theorem result_emit : (emit event).result = .ok () := rfl

@[simp] theorem events_exit {n : Nat} : (exit n : Transcript Event α).events = [] := rfl

@[simp] theorem result_exit {n : Nat} : (exit n : Transcript Event α).result = .error n := rfl

@[simp] theorem events_silent {r : Except Nat α} : (silent r : Transcript Event α).events = [] := rfl

@[simp] theorem result_silent {r : Except Nat α} : (silent r : Transcript Event α).result = r := rfl

/-- An event of two parts is one of the first, or one of the second after the first has succeeded. -/
@[simp] theorem mem_events_bind : event ∈ (p >>= f).events ↔
    event ∈ p.events ∨ ∃ a, p.result = .ok a ∧ event ∈ (f a).events := by
  change event ∈ (match p.result with
    | .ok a => (⟨p.events ++ (f a).events, (f a).result⟩ : Transcript Event β)
    | .error n => ⟨p.events, .error n⟩).events ↔ _
  cases p.result with
  | ok a => simp
  | error n => simp

@[simp] theorem result_bind : (p >>= f).result = .ok b ↔ ∃ a, p.result = .ok a ∧ (f a).result = .ok b := by
  change (match p.result with
    | .ok a => (⟨p.events ++ (f a).events, (f a).result⟩ : Transcript Event β)
    | .error n => ⟨p.events, .error n⟩).result = .ok b ↔ _
  cases p.result with
  | ok a => simp
  | error n => simp

/-- A loop succeeds if and only if all its turns do. -/
@[simp] theorem result_forM {f : α → Transcript Event PUnit} {as : List α} :
    (as.forM f).result = .ok ⟨⟩ ↔ ∀ a ∈ as, (f a).result = .ok ⟨⟩ := by
  induction as with
  | nil => simp [List.forM]
  | cons a as ih =>
      rw [List.forM, result_bind, List.forall_mem_cons]
      constructor
      · rintro ⟨⟨⟩, ha, has⟩
        exact ⟨ha, ih.mp has⟩
      · rintro ⟨ha, has⟩
        exact ⟨⟨⟩, ha, ih.mpr has⟩

/-- An event of a loop is one of a turn that all turns before have succeeded for. -/
theorem mem_events_forM {f : α → Transcript Event PUnit} {as : List α} :
    event ∈ (as.forM f).events ↔ ∃ before a after, as = before ++ a :: after ∧
      (∀ b ∈ before, (f b).result = .ok ⟨⟩) ∧ event ∈ (f a).events := by
  induction as with
  | nil => simp [List.forM]
  | cons a as ih =>
      rw [List.forM, mem_events_bind]
      constructor
      · rintro (ha | ⟨⟨⟩, ha, has⟩)
        · exact ⟨[], a, as, rfl, fun _ h => (by cases h), ha⟩
        · obtain ⟨before, a', after, rfl, hbefore, hevent⟩ := ih.mp has
          exact ⟨a :: before, a', after, rfl, List.forall_mem_cons.mpr ⟨ha, hbefore⟩, hevent⟩
      · rintro ⟨before, a', after, heq, hbefore, hevent⟩
        cases before with
        | nil =>
            cases heq
            exact .inl hevent
        | cons b before =>
            cases heq
            obtain ⟨ha, hbefore⟩ := List.forall_mem_cons.mp hbefore
            exact .inr ⟨⟨⟩, ha, ih.mpr ⟨before, a', after, rfl, hbefore, hevent⟩⟩

/-! ## All events -/

/-- Whatever the program leaves has the property. -/
def Leaves (P : Event → Prop) (p : Transcript Event α) : Prop := ∀ event ∈ p.events, P event

variable {P : Event → Prop}

theorem leaves_pure : (pure a : Transcript Event α).Leaves P := fun _ h => by cases h

theorem leaves_exit {n : Nat} : (exit n : Transcript Event α).Leaves P := fun _ h => by cases h

theorem leaves_silent {r : Except Nat α} : (silent r).Leaves P := fun _ h => by cases h

theorem leaves_emit (h : P event) : (emit event).Leaves P := by
  intro event' hmem
  rw [List.mem_singleton.mp hmem]
  exact h

theorem Leaves.bind (hp : p.Leaves P) (hf : ∀ a, (f a).Leaves P) : (p >>= f).Leaves P := by
  intro event hmem
  rcases mem_events_bind.mp hmem with hmem | ⟨a, -, hmem⟩
  · exact hp event hmem
  · exact hf a event hmem

theorem Leaves.ite {c : Prop} [Decidable c] {q : Transcript Event α} (hp : p.Leaves P) (hq : q.Leaves P) :
    (if c then p else q).Leaves P := by
  split
  · exact hp
  · exact hq

theorem Leaves.forM {f : α → Transcript Event PUnit} {as : List α} (hf : ∀ a, (f a).Leaves P) :
    (as.forM f).Leaves P := by
  induction as with
  | nil => exact leaves_pure
  | cons a as ih => exact (hf a).bind fun _ => ih

end Transcript

end Cmp50Unlock.Lib
