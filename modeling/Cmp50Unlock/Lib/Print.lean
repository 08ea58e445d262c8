import Mathlib.Data.List.Basic

/-!
# Programs that print

A program that prints, and whose reads of arrays may be out of bounds, followed by an automaton that reads what is
printed. `wp` says that no read is out of bounds, and that the automaton reads all of it.
-/

namespace Cmp50Unlock.Lib

variable {σ α β : Type} {step : σ → Char → Option σ}

/-! ## Automata -/

/-- The automaton reads a text. -/
def feed (step : σ → Char → Option σ) (st : σ) (text : String) : Option σ := text.toList.foldlM step st

/-- The automaton reads the pieces of a text one after the other. -/
def Feeds (step : σ → Char → Option σ) : σ → List String → σ → Prop
  | st, [], st' => st = st'
  | st, s :: pieces, st' => ∃ st₁, feed step st s = some st₁ ∧ Feeds step st₁ pieces st'

variable {st st₁ st' : σ} {s t : String} {pieces : List String}

theorem feed_append : feed step st (s ++ t) = (feed step st s).bind (feed step · t) := by
  rw [feed, String.toList_append, List.foldlM_append]
  rfl

/-- A piece that the automaton reads by computation. -/
theorem Feeds.lit (h : feed step st s = some st₁) (h' : Feeds step st₁ pieces st') : Feeds step st (s :: pieces) st' :=
  ⟨st₁, h, h'⟩

theorem feed_join (h : Feeds step st pieces st') : feed step st (String.join pieces) = some st' := by
  induction pieces generalizing st with
  | nil => rw [show st = st' from h]; rfl
  | cons s pieces ih =>
      obtain ⟨st₁, hs, hrest⟩ := h
      rw [String.join_cons, feed_append, hs]
      exact ih hrest

/-! ## Programs -/

/-- `none` when an array is read out of its bounds. -/
abbrev Print := StateT String Option

namespace Print

/-- Print the pieces, which are a format with its arguments filled in. -/
def printf (pieces : List String) : Print PUnit := modify (· ++ String.join pieces)

/-- The element `i` of an array. -/
def get {n : Nat} (xs : Vector α n) (i : Nat) : Print α := fun out => (xs[i]?).map (·, out)

/-- The body for every number below `n`, in order. -/
def forRange (n : Nat) (body : Nat → Print PUnit) : Print PUnit := (List.range n).forM body

def when (c : Prop) [Decidable c] (p : Print PUnit) : Print PUnit := if c then p else return ⟨⟩

/-- No read is out of bounds, and an automaton in state `st` reads what is printed and ends in a state of `Q`. -/
def wp (step : σ → Char → Option σ) (p : Print α) (Q : α → σ → Prop) (st : σ) : Prop :=
  ∀ out, ∃ a text st', p.run out = some (a, out ++ text) ∧ feed step st text = some st' ∧ Q a st'

variable {p : Print α} {f : α → Print β} {Q Q' : α → σ → Prop} {R : β → σ → Prop}

theorem wp_pure {a : α} (h : Q a st) : wp step (pure a) Q st := fun out => ⟨a, "", st, by simp, rfl, h⟩

theorem wp_bind (h : wp step p (fun a => wp step (f a) R) st) : wp step (p >>= f) R st := by
  intro out
  obtain ⟨a, text, st₁, hrun, hfeed, hf⟩ := h out
  obtain ⟨b, text', st', hrun', hfeed', hR⟩ := hf (out ++ text)
  refine ⟨b, text ++ text', st', ?_, ?_, hR⟩
  · rw [StateT.run_bind, hrun]
    exact hrun'.trans (by rw [String.append_assoc])
  · rw [feed_append, hfeed]
    exact hfeed'

theorem wp.mono (h : wp step p Q st) (hQ : ∀ a st, Q a st → Q' a st) : wp step p Q' st := by
  intro out
  obtain ⟨a, text, st', hrun, hfeed, hq⟩ := h out
  exact ⟨a, text, st', hrun, hfeed, hQ a st' hq⟩

/-- The state after the pieces is given. -/
theorem wp_printf_bind {f : PUnit → Print β} (st' : σ) (h : Feeds step st pieces st') (hf : wp step (f ⟨⟩) R st') :
    wp step (printf pieces >>= f) R st :=
  wp_bind fun _ => ⟨⟨⟩, String.join pieces, st', rfl, feed_join h, hf⟩

theorem wp_printf {Q : PUnit → σ → Prop} (h : Feeds step st pieces st') (hQ : Q ⟨⟩ st') :
    wp step (printf pieces) Q st :=
  fun _ => ⟨⟨⟩, String.join pieces, st', rfl, feed_join h, hQ⟩

theorem wp_get {n : Nat} {xs : Vector α n} {i : Nat} (hi : i < n) (hQ : Q xs[i] st) : wp step (get xs i) Q st :=
  fun _ => ⟨xs[i], "", st, by simp [get, StateT.run, hi], rfl, hQ⟩

theorem wp_ite {c : Prop} [Decidable c] {p q : Print α} (ht : c → wp step p Q st) (he : ¬ c → wp step q Q st) :
    wp step (if c then p else q) Q st := by
  by_cases h : c
  · rw [if_pos h]; exact ht h
  · rw [if_neg h]; exact he h

theorem wp_when {c : Prop} [Decidable c] {p : Print PUnit} {Q : PUnit → σ → Prop} (ht : c → wp step p Q st)
    (he : ¬ c → Q ⟨⟩ st) : wp step (when c p) Q st :=
  wp_ite ht fun h => wp_pure (he h)

/-- A loop keeps what each round takes one step further. -/
theorem wp_forRange (I : Nat → σ → Prop) {n : Nat} {body : Nat → Print PUnit}
    (hbody : ∀ i < n, ∀ st, I i st → wp step (body i) (fun _ => I (i + 1)) st) (h₀ : I 0 st) :
    wp step (forRange n body) (fun _ => I n) st := by
  induction n with
  | zero => exact wp_pure h₀
  | succ n ih =>
      have hrange : forRange (n + 1) body = forRange n body >>= fun _ => body n := by
        rw [forRange, List.range_succ]
        simp [forRange, List.forM_append]
      rw [hrange]
      exact wp_bind ((ih fun i hi => hbody i (by omega)).mono fun _ st hst => hbody n (by omega) st hst)

end Print

end Cmp50Unlock.Lib
