import Mathlib.Data.List.DropRight
import Mathlib.Tactic.Positivity

/-!
# Numbers as text

Blank ends of a text, decimal numbers, and numbers with a sign: what is accepted, and that a number is read back from
its own digits.
-/

namespace Cmp50Unlock.Lib

/-! ## Blank ends -/

section
variable {α : Type} {p : α → Bool} {s l m r : List α}

/-- A text without its ends that satisfy `p`. -/
def trim (p : α → Bool) (s : List α) : List α := (s.dropWhile p).rdropWhile p

theorem trim_eq_nil : trim p s = [] ↔ ∀ c ∈ s, p c := by
  rw [trim, List.rdropWhile_eq_nil_iff]
  constructor
  · intro h
    have hnil : s.dropWhile p = [] := by
      by_contra hne
      have hhead := List.head_dropWhile_not p hne
      rw [h _ (List.head_mem hne)] at hhead
      cases hhead
    exact List.dropWhile_eq_nil_iff.mp hnil
  · intro h c hc
    exact h c ((List.dropWhile_suffix p).subset hc)

/-- A text is its trimmed text with ends around it. -/
theorem exists_ends (p : α → Bool) (s : List α) :
    ∃ l r, s = l ++ trim p s ++ r ∧ (∀ c ∈ l, p c) ∧ ∀ c ∈ r, p c := by
  refine ⟨s.takeWhile p, (s.dropWhile p).rtakeWhile p, ?_, fun c => List.mem_takeWhile_imp, ?_⟩
  · rw [List.append_assoc, trim, List.rdropWhile_append_rtakeWhile, List.takeWhile_append_dropWhile]
  · intro c hc
    exact List.mem_rtakeWhile_imp hc

/-- Neither end of the text satisfies `p`. -/
def Tight (p : α → Bool) (m : List α) : Prop := ∀ h : m ≠ [], p (m.head h) = false ∧ p (m.getLast h) = false

theorem Tight.of_all (h : ∀ c ∈ m, p c = false) : Tight p m :=
  fun hne => ⟨h _ (List.head_mem hne), h _ (List.getLast_mem hne)⟩

theorem Tight.append {m' : List α} (t : List α) (hm : Tight p m) (hne : m ≠ []) (hm' : Tight p m') (hne' : m' ≠ []) :
    Tight p (m ++ (t ++ m')) := by
  intro h
  rw [List.head_append_of_ne_nil hne, List.getLast_append_of_ne_nil _ (List.append_ne_nil_of_right_ne_nil t hne'),
    List.getLast_append_of_ne_nil _ hne']
  exact ⟨(hm hne).1, (hm' hne').2⟩

theorem trim_of_tight (hl : ∀ c ∈ l, p c) (hr : ∀ c ∈ r, p c) (hm : Tight p m) (hne : m ≠ []) :
    trim p (l ++ m ++ r) = m := by
  have hleft : (l ++ m ++ r).dropWhile p = m ++ r := by
    rw [List.append_assoc, List.dropWhile_append_of_pos hl]
    cases m with
    | nil => exact absurd rfl hne
    | cons c m => exact List.dropWhile_cons_of_neg (by simpa using (hm hne).1)
  have hright : (r.reverse ++ m.reverse).dropWhile p = m.reverse := by
    rw [List.dropWhile_append_of_pos fun c hc => hr c (List.mem_reverse.mp hc)]
    rw [List.dropWhile_eq_self_iff]
    intro hlen
    simpa [List.getLast_eq_getElem] using (hm hne).2
  rw [trim, hleft, List.rdropWhile, List.reverse_append, hright, List.reverse_reverse]

end

/-! ## Decimal numbers -/

/-- `s` are the decimal digits of `n`, after any number of zeros. -/
structure Decimal (s : List Char) (n : Nat) : Prop where
  ne_nil : s ≠ []
  digits : ∀ c ∈ s, c.isDigit
  value : Nat.ofDigitChars 10 s 0 = n

/-- A decimal number with or without a sign. -/
inductive Signed : List Char → Int → Prop where
  | plain {s : List Char} {n : Nat} : Decimal s n → Signed s n
  | plus {s : List Char} {n : Nat} : Decimal s n → Signed ('+' :: s) n
  | minus {s : List Char} {n : Nat} : Decimal s n → Signed ('-' :: s) (-n)

/-- `strconv.ParseUint(s, 10, bits)` -/
def parseUint (bits : Nat) (s : List Char) : Option Nat :=
  if s ≠ [] ∧ s.all Char.isDigit then
    if Nat.ofDigitChars 10 s 0 < 2 ^ bits then some (Nat.ofDigitChars 10 s 0) else none
  else none

/-- `strconv.ParseInt(s, 10, bits)` -/
def parseInt (bits : Nat) : List Char → Option Int
  | '-' :: s => (parseUint bits s).bind fun n => if n ≤ 2 ^ (bits - 1) then some (-n) else none
  | '+' :: s => (parseUint bits s).bind fun n => if n < 2 ^ (bits - 1) then some n else none
  | s => (parseUint bits s).bind fun n => if n < 2 ^ (bits - 1) then some n else none

variable {bits n : Nat} {s : List Char} {z : Int}

theorem parseUint_eq_some : parseUint bits s = some n ↔ Decimal s n ∧ n < 2 ^ bits := by
  simp only [parseUint, List.all_eq_true]
  constructor
  · intro h
    split at h
    next hs =>
      split at h
      next hlt => cases h; exact ⟨⟨hs.1, hs.2, rfl⟩, hlt⟩
      next => cases h
    next => cases h
  · rintro ⟨⟨hne, hdigits, rfl⟩, hlt⟩
    rw [if_pos ⟨hne, hdigits⟩, if_pos hlt]

theorem Decimal.toDigits (n : Nat) : Decimal (Nat.toDigits 10 n) n :=
  ⟨Nat.toDigits_ne_nil, fun _ => Nat.isDigit_of_mem_toDigits (by decide) (by decide),
    Nat.ofDigitChars_toDigits (by decide) (by decide)⟩

theorem Decimal.not_sign {c : Char} (h : Decimal (c :: s) n) : c ≠ '-' ∧ c ≠ '+' := by
  have hdigit := h.digits c (.head s)
  constructor
  · rintro rfl
    exact absurd hdigit (by decide)
  · rintro rfl
    exact absurd hdigit (by decide)

theorem Signed.ne_nil (h : Signed s z) : s ≠ [] := by
  cases h with
  | plain h => exact h.ne_nil
  | plus h => exact List.cons_ne_nil _ _
  | minus h => exact List.cons_ne_nil _ _

theorem parseInt_of_no_sign (hminus : ∀ t, s ≠ '-' :: t) (hplus : ∀ t, s ≠ '+' :: t) :
    parseInt bits s = (parseUint bits s).bind fun n => if n < 2 ^ (bits - 1) then some (n : Int) else none := by
  unfold parseInt
  split
  next t => exact absurd rfl (hminus t)
  next t => exact absurd rfl (hplus t)
  next => rfl

theorem Decimal.parseInt_eq (h : Decimal s n) :
    parseInt bits s = (parseUint bits s).bind fun n => if n < 2 ^ (bits - 1) then some (n : Int) else none := by
  apply parseInt_of_no_sign
  · rintro t rfl
    exact h.not_sign.1 rfl
  · rintro t rfl
    exact h.not_sign.2 rfl

theorem lt_of_lt_half (h : n < 2 ^ (bits - 1)) : n < 2 ^ bits :=
  Nat.lt_of_lt_of_le h (Nat.pow_le_pow_right (by decide) (Nat.sub_le bits 1))

theorem half_of_parseInt_plain
    (h : ((parseUint bits s).bind fun n => if n < 2 ^ (bits - 1) then some (n : Int) else none) = some z) :
    ∃ n : Nat, Decimal s n ∧ n < 2 ^ (bits - 1) ∧ z = n := by
  obtain ⟨n, hn, hz⟩ := Option.bind_eq_some_iff.mp h
  split at hz
  next hlt => cases hz; exact ⟨n, (parseUint_eq_some.mp hn).1, hlt, rfl⟩
  next => cases hz

theorem parseInt_sound (h : parseInt bits s = some z) : Signed s z ∧ -2 ^ (bits - 1) ≤ z ∧ z < 2 ^ (bits - 1) := by
  unfold parseInt at h
  split at h
  next t =>
    obtain ⟨n, hn, hz⟩ := Option.bind_eq_some_iff.mp h
    split at hz
    next hle =>
      cases hz
      have hpos : (0 : Int) < 2 ^ (bits - 1) := by positivity
      have hle' : (n : Int) ≤ 2 ^ (bits - 1) := by exact_mod_cast hle
      exact ⟨.minus (parseUint_eq_some.mp hn).1, by omega, by omega⟩
    next => cases hz
  next t =>
    obtain ⟨n, hn, hlt, rfl⟩ := half_of_parseInt_plain h
    have hlt' : (n : Int) < 2 ^ (bits - 1) := by exact_mod_cast hlt
    exact ⟨.plus hn, by omega, hlt'⟩
  next =>
    obtain ⟨n, hn, hlt, rfl⟩ := half_of_parseInt_plain h
    have hlt' : (n : Int) < 2 ^ (bits - 1) := by exact_mod_cast hlt
    exact ⟨.plain hn, by omega, hlt'⟩

theorem parseInt_complete (h : Signed s z) (hlo : -2 ^ (bits - 1) ≤ z) (hhi : z < 2 ^ (bits - 1)) (hbits : 0 < bits) :
    parseInt bits s = some z := by
  have hhalf : 2 ^ (bits - 1) < 2 ^ bits := Nat.pow_lt_pow_right (by decide) (by omega)
  cases h with
  | @plain _ n hn =>
      have hlt : n < 2 ^ (bits - 1) := by exact_mod_cast hhi
      rw [hn.parseInt_eq, parseUint_eq_some.mpr ⟨hn, lt_of_lt_half hlt⟩, Option.bind_some, if_pos hlt]
  | @plus _ n hn =>
      have hlt : n < 2 ^ (bits - 1) := by exact_mod_cast hhi
      rw [parseInt, parseUint_eq_some.mpr ⟨hn, lt_of_lt_half hlt⟩, Option.bind_some, if_pos hlt]
  | @minus _ n hn =>
      have hle : n ≤ 2 ^ (bits - 1) := by
        have hle' : (n : Int) ≤ 2 ^ (bits - 1) := by omega
        exact_mod_cast hle'
      rw [parseInt, parseUint_eq_some.mpr ⟨hn, by omega⟩, Option.bind_some, if_pos hle]

theorem parseInt_eq_some (hbits : 0 < bits) :
    parseInt bits s = some z ↔ Signed s z ∧ -2 ^ (bits - 1) ≤ z ∧ z < 2 ^ (bits - 1) :=
  ⟨parseInt_sound, fun h => parseInt_complete h.1 h.2.1 h.2.2 hbits⟩

/-! ## Numbers as they are printed -/

theorem toList_toString_nat (n : Nat) : (toString n).toList = Nat.toDigits 10 n := by
  simp

theorem decimal_toString (n : Nat) : Decimal (toString n).toList n := by
  rw [toList_toString_nat]
  exact Decimal.toDigits n

theorem signed_toString (z : Int) : Signed (toString z).toList z := by
  cases z with
  | ofNat n => exact .plain (decimal_toString n)
  | negSucc n =>
      have hlist : (toString (Int.negSucc n)).toList = '-' :: Nat.toDigits 10 (n + 1) := by
        change ("-" ++ Nat.repr (n + 1)).toList = _
        simp
      rw [hlist]
      exact .minus (Decimal.toDigits (n + 1))

end Cmp50Unlock.Lib
