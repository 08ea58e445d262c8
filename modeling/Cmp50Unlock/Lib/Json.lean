import Cmp50Unlock.Lib.Print

/-!
# JSON

A decoder that is fed one character at a time. What it has read is a stack of open arrays and objects, so that a text
that is printed piece by piece can be followed piece by piece.

Numbers with a fraction or an exponent, and escapes of surrogates, are not read.
-/

namespace Cmp50Unlock.Lib

inductive Json where
  | null
  | bool (b : Bool)
  | int (n : Int)
  | str (chars : List Char)
  | arr (items : List Json)
  | obj (members : List (List Char × Json))

namespace Json

/-- The value of a key: that of its last occurrence. -/
def get? (members : List (List Char × Json)) (key : String) : Option Json := members.reverse.lookup key.toList

/-! ## The decoder -/

/-- An array or an object that is open, with what stands before the value that is read. -/
inductive Frame where
  | arr (items : List Json)
  | obj (members : List (List Char × Json)) (key : List Char)

/-- What a string is read for. -/
inductive Role where
  | value
  | key (members : List (List Char × Json))

/-- Where in an escape the decoder is. -/
inductive Escape where
  | none
  | backslash
  | unicode (digits : List Char)

/-- What the decoder expects. -/
inductive Mode where
  | value
  | element
  | member
  | key (members : List (List Char × Json))
  | colon (members : List (List Char × Json)) (key : List Char)
  | string (role : Role) (chars : List Char) (escape : Escape)
  | word (chars : List Char)
  | after (v : Json)

structure State where
  mode : Mode
  stack : List Frame

def start : State := ⟨.value, []⟩

def isSpace (c : Char) : Bool := c == ' ' || c == '\n' || c == '\t' || c == '\r'

/-- The characters of numbers and of `true`, `false` and `null`. -/
def isWordChar (c : Char) : Bool := c.isAlphanum || c == '-' || c == '+' || c == '.'

/-- A decimal number without a sign and without leading zeros. -/
def readNat : List Char → Option Nat
  | [] => none
  | ['0'] => some 0
  | '0' :: _ => none
  | cs => if cs.all Char.isDigit then some (Nat.ofDigitChars 10 cs 0) else none

def readWord : List Char → Option Json
  | ['n', 'u', 'l', 'l'] => some .null
  | ['t', 'r', 'u', 'e'] => some (.bool true)
  | ['f', 'a', 'l', 's', 'e'] => some (.bool false)
  | '-' :: cs => (readNat cs).map fun n => .int (-n)
  | cs => (readNat cs).map fun n => .int n

def hexValue (c : Char) : Option Nat :=
  if c.isDigit then some (c.toNat - '0'.toNat)
  else if 'a' ≤ c ∧ c ≤ 'f' then some (c.toNat - 'a'.toNat + 10)
  else if 'A' ≤ c ∧ c ≤ 'F' then some (c.toNat - 'A'.toNat + 10)
  else none

/-- The character of four hexadecimal digits. -/
def unicodeChar (digits : List Char) : Option Char := do
  let values ← digits.mapM hexValue
  let n := values.foldl (fun n d => 16 * n + d) 0
  if n.isValidChar then some (Char.ofNat n) else none

/-- The character of an escape of one letter. -/
def escaped : Char → Option Char
  | '"' => some '"'
  | '\\' => some '\\'
  | '/' => some '/'
  | 'b' => some '\x08'
  | 'f' => some '\x0c'
  | 'n' => some '\n'
  | 'r' => some '\r'
  | 't' => some '\t'
  | _ => none

def closeString (stack : List Frame) (s : List Char) : Role → State
  | .value => ⟨.after (.str s), stack⟩
  | .key members => ⟨.colon members s, stack⟩

def stepString (role : Role) (chars : List Char) (stack : List Frame) : Escape → Char → Option State
  | .none, c =>
      if c = '"' then some (closeString stack chars role)
      else if c = '\\' then some ⟨.string role chars .backslash, stack⟩
      else if c.toNat < 0x20 then none
      else some ⟨.string role (chars ++ [c]) .none, stack⟩
  | .backslash, c =>
      if c = 'u' then some ⟨.string role chars (.unicode []), stack⟩
      else (escaped c).map fun e => ⟨.string role (chars ++ [e]) .none, stack⟩
  | .unicode digits, c =>
      if digits.length < 3 then some ⟨.string role chars (.unicode (digits ++ [c])), stack⟩
      else (unicodeChar (digits ++ [c])).map fun e => ⟨.string role (chars ++ [e]) .none, stack⟩

/-- The first character of a value. -/
def stepValue (stack : List Frame) (c : Char) : Option State :=
  if c = '"' then some ⟨.string .value [] .none, stack⟩
  else if c = '[' then some ⟨.element, .arr [] :: stack⟩
  else if c = '{' then some ⟨.member, stack⟩
  else if isWordChar c then some ⟨.word [c], stack⟩
  else none

/-- The first character after a value. -/
def stepAfter (v : Json) : List Frame → Char → Option State
  | .arr items :: stack, ',' => some ⟨.value, .arr (items ++ [v]) :: stack⟩
  | .arr items :: stack, ']' => some ⟨.after (.arr (items ++ [v])), stack⟩
  | .obj members key :: stack, ',' => some ⟨.key (members ++ [(key, v)]), stack⟩
  | .obj members key :: stack, '}' => some ⟨.after (.obj (members ++ [(key, v)])), stack⟩
  | stack, c => if isSpace c then some ⟨.after v, stack⟩ else none

def step (st : State) (c : Char) : Option State :=
  match st.mode with
  | .value => if isSpace c then some st else stepValue st.stack c
  | .element =>
      if isSpace c then some st
      else match st.stack, c with
        | .arr items :: stack, ']' => some ⟨.after (.arr items), stack⟩
        | stack, c => stepValue stack c
  | .member =>
      if isSpace c then some st
      else if c = '"' then some ⟨.string (.key []) [] .none, st.stack⟩
      else if c = '}' then some ⟨.after (.obj []), st.stack⟩
      else none
  | .key members =>
      if isSpace c then some st
      else if c = '"' then some ⟨.string (.key members) [] .none, st.stack⟩
      else none
  | .colon members key =>
      if isSpace c then some st
      else if c = ':' then some ⟨.value, .obj members key :: st.stack⟩
      else none
  | .string role chars escape => stepString role chars st.stack escape c
  | .word chars =>
      if isWordChar c then some ⟨.word (chars ++ [c]), st.stack⟩
      else (readWord chars).bind fun v => stepAfter v st.stack c
  | .after v => stepAfter v st.stack c

/-- The value that was read, at the end of the text. -/
def finish : State → Option Json
  | ⟨.after v, []⟩ => some v
  | ⟨.word chars, []⟩ => readWord chars
  | _ => none

def loads (text : String) : Option Json := (feed step start text).bind finish

/-! ## Strings and numbers -/

/-- A character that stands for itself in a string. -/
def isPlain (c : Char) : Bool := c != '"' && c != '\\' && decide (0x20 ≤ c.toNat)

abbrev PlainText (s : String) : Prop := s.toList.all isPlain = true

variable {st st₁ st' : State} {stack : List Frame} {s : String} {pieces : List String}

theorem foldlM_plain (role : Role) (chars : List Char) {cs : List Char} (hcs : ∀ c ∈ cs, isPlain c) :
    cs.foldlM step ⟨.string role chars .none, stack⟩ = some ⟨.string role (chars ++ cs) .none, stack⟩ := by
  induction cs generalizing chars with
  | nil => rw [List.append_nil]; rfl
  | cons c cs ih =>
      have hplain := hcs c (.head cs)
      rw [isPlain, Bool.and_eq_true, Bool.and_eq_true, bne_iff_ne, bne_iff_ne, decide_eq_true_iff] at hplain
      obtain ⟨⟨hquote, hbackslash⟩, hcontrol⟩ := hplain
      have hstep : step ⟨.string role chars .none, stack⟩ c = some ⟨.string role (chars ++ [c]) .none, stack⟩ := by
        simp only [step, stepString, if_neg hquote, if_neg hbackslash, if_neg (Nat.not_lt.mpr hcontrol)]
      rw [List.foldlM_cons, hstep, Option.bind_eq_bind, Option.bind_some,
        ih (chars ++ [c]) fun c' hc' => hcs c' (.tail c hc'), List.append_assoc]
      rfl

/-- A piece of a string. -/
theorem feeds_text {role : Role} {chars : List Char} (hs : PlainText s)
    (h : Feeds step ⟨.string role (chars ++ s.toList) .none, stack⟩ pieces st') :
    Feeds step ⟨.string role chars .none, stack⟩ (s :: pieces) st' :=
  ⟨_, foldlM_plain role chars (List.all_eq_true.mp hs), h⟩

theorem foldlM_word (chars : List Char) {cs : List Char} (hcs : ∀ c ∈ cs, isWordChar c) :
    cs.foldlM step ⟨.word chars, stack⟩ = some ⟨.word (chars ++ cs), stack⟩ := by
  induction cs generalizing chars with
  | nil => rw [List.append_nil]; rfl
  | cons c cs ih =>
      have hstep : step ⟨.word chars, stack⟩ c = some ⟨.word (chars ++ [c]), stack⟩ := by
        simp only [step, if_pos (hcs c (.head cs))]
      rw [List.foldlM_cons, hstep, Option.bind_eq_bind, Option.bind_some,
        ih (chars ++ [c]) fun c' hc' => hcs c' (.tail c hc'), List.append_assoc]
      rfl

/-- A text that is read as the value `v` once something that is no part of a word follows. -/
structure Word (s : String) (v : Json) : Prop where
  ne_nil : s.toList ≠ []
  chars : ∀ c ∈ s.toList, isWordChar c
  value : readWord s.toList = some v

theorem isSpace_iff {c : Char} : isSpace c ↔ c = ' ' ∨ c = '\n' ∨ c = '\t' ∨ c = '\r' := by
  simp only [isSpace, Bool.or_eq_true, beq_iff_eq, or_assoc]

theorem not_special_of_isWordChar {c : Char} (h : isWordChar c) : isSpace c = false ∧ c ≠ '"' ∧ c ≠ '[' ∧ c ≠ '{' := by
  refine ⟨?_, ?_, ?_, ?_⟩
  · by_contra hspace
    rw [Bool.not_eq_false] at hspace
    rcases isSpace_iff.mp hspace with rfl | rfl | rfl | rfl <;> exact absurd h (by decide)
  all_goals rintro rfl; exact absurd h (by decide)

theorem feed_word {v : Json} (hs : Word s v) : feed step ⟨.value, stack⟩ s = some ⟨.word s.toList, stack⟩ := by
  rw [feed]
  have hne := hs.ne_nil
  have hchars := hs.chars
  cases hlist : s.toList with
  | nil => exact absurd hlist hne
  | cons c cs =>
      rw [hlist] at hchars
      obtain ⟨hspace, hquote, hbracket, hbrace⟩ := not_special_of_isWordChar (hchars c (.head cs))
      have hstep : step ⟨.value, stack⟩ c = some ⟨.word [c], stack⟩ := by
        simp only [step, hspace, stepValue, if_neg hquote, if_neg hbracket, if_neg hbrace, if_pos (hchars c (.head cs))]
        rfl
      rw [List.foldlM_cons, hstep, Option.bind_eq_bind, Option.bind_some,
        foldlM_word [c] fun c' hc' => hchars c' (.tail c hc')]
      rfl

/-- A word, where a value is expected. -/
theorem feeds_word {v : Json} (hs : Word s v) (h : Feeds step ⟨.word s.toList, stack⟩ pieces st') :
    Feeds step ⟨.value, stack⟩ (s :: pieces) st' :=
  ⟨_, feed_word hs, h⟩

/-- What follows a word begins with a character `c` that is no part of it. -/
theorem feeds_delimiter {v : Json} {t : String} {c : Char} (hs : Word s v) (ht : t.toList.head? = some c)
    (hc : isWordChar c = false) (h : feed step ⟨.after v, stack⟩ t = some st₁) (h' : Feeds step st₁ pieces st') :
    Feeds step ⟨.word s.toList, stack⟩ (t :: pieces) st' := by
  refine ⟨st₁, ?_, h'⟩
  rw [feed] at h ⊢
  cases hlist : t.toList with
  | nil => rw [hlist] at ht; cases ht
  | cons c' cs =>
      rw [hlist] at ht h
      cases ht
      have hstep : step ⟨.word s.toList, stack⟩ c = step ⟨.after v, stack⟩ c := by
        simp only [step, hc, hs.value, Option.bind_some]
        rfl
      rw [List.foldlM_cons, hstep]
      exact h

theorem head_toDigits {b n : Nat} (hb : 1 < b) (hb16 : b ≤ 16) (hn : 0 < n) :
    ∃ c cs, Nat.toDigits b n = c :: cs ∧ c ≠ '0' := by
  induction n using Nat.strongRecOn with
  | ind n ih =>
      rw [Nat.toDigits_eq_if hb]
      split
      next hlt =>
        refine ⟨n.digitChar, [], rfl, ?_⟩
        have hdigits : ∀ d < 16, 0 < d → d.digitChar ≠ '0' := by decide
        exact hdigits n (by omega) hn
      next hge =>
        obtain ⟨c, cs, heq, hc⟩ := ih (n / b) (Nat.div_lt_self hn hb) (Nat.div_pos (by omega) (by omega))
        exact ⟨c, cs ++ [(n % b).digitChar], by rw [heq]; rfl, hc⟩

theorem isDigit_of_mem_toDigits {n : Nat} {c : Char} (hc : c ∈ Nat.toDigits 10 n) : c.isDigit :=
  Nat.isDigit_of_mem_toDigits (by decide) (by decide) hc

theorem readNat_toDigits (n : Nat) : readNat (Nat.toDigits 10 n) = some n := by
  obtain rfl | hn := Nat.eq_zero_or_pos n
  · rfl
  · obtain ⟨c, cs, heq, hc⟩ := head_toDigits (b := 10) (by decide) (by decide) hn
    have hall : (Nat.toDigits 10 n).all Char.isDigit := List.all_eq_true.mpr fun _ => isDigit_of_mem_toDigits
    have hvalue : Nat.ofDigitChars 10 (Nat.toDigits 10 n) 0 = n := Nat.ofDigitChars_toDigits (by decide) (by decide)
    rw [heq] at hall hvalue ⊢
    unfold readNat
    split
    next h => cases h
    next h => cases h; exact absurd rfl hc
    next h => cases h; exact absurd rfl hc
    next => rw [if_pos hall, hvalue]

/-- A decimal number is a word. -/
theorem word_nat (n : Nat) : Word (toString n) (.int n) := by
  have hlist : (toString n).toList = Nat.toDigits 10 n := by simp
  refine ⟨?_, fun c hc => ?_, ?_⟩
  · rw [hlist]
    exact Nat.toDigits_ne_nil
  · rw [hlist] at hc
    have hdigit := isDigit_of_mem_toDigits hc
    simp [isWordChar, Char.isAlphanum, hdigit]
  · rw [hlist]
    have hread := readNat_toDigits n
    have hdigits := @isDigit_of_mem_toDigits n
    generalize Nat.toDigits 10 n = cs at hread hdigits
    unfold readWord
    split
    next => exact absurd (hdigits (.head _)) (by decide)
    next => exact absurd (hdigits (.head _)) (by decide)
    next => exact absurd (hdigits (.head _)) (by decide)
    next => exact absurd (hdigits (.head _)) (by decide)
    next => rw [hread]; rfl

theorem word_int (n : Int) : Word (toString n) (.int n) := by
  cases n with
  | ofNat n => exact word_nat n
  | negSucc n =>
      have hlist : (toString (Int.negSucc n)).toList = '-' :: Nat.toDigits 10 (n + 1) := by
        change ("-" ++ Nat.repr (n + 1)).toList = _
        simp
      refine ⟨by rw [hlist]; exact List.cons_ne_nil _ _, fun c hc => ?_, ?_⟩
      · rw [hlist] at hc
        cases hc with
        | head => rfl
        | tail _ hc =>
            have hdigit := isDigit_of_mem_toDigits hc
            simp [isWordChar, Char.isAlphanum, hdigit]
      · rw [hlist]
        simp only [readWord, readNat_toDigits]
        rfl

theorem word_bool (b : Bool) : Word (if b then "true" else "false") (.bool b) := by
  cases b
  · exact ⟨List.cons_ne_nil _ _, List.all_eq_true.mp rfl, rfl⟩
  · exact ⟨List.cons_ne_nil _ _, List.all_eq_true.mp rfl, rfl⟩

/-! ## Arrays -/

/-- The items of an open array have been read; what comes next is a comma or the end. -/
def itemsRead : List Json → List Frame → State
  | [], stack => ⟨.element, .arr [] :: stack⟩
  | v :: vs, stack => ⟨.after ((v :: vs).getLast (List.cons_ne_nil v vs)), .arr (v :: vs).dropLast :: stack⟩

/-- The items of an open array have been read, and a comma after them. -/
def nextItem : List Json → List Frame → State
  | [], stack => ⟨.element, .arr [] :: stack⟩
  | v :: vs, stack => ⟨.value, .arr (v :: vs) :: stack⟩

variable {vs : List Json}

theorem itemsRead_concat (vs : List Json) (v : Json) : itemsRead (vs ++ [v]) stack = ⟨.after v, .arr vs :: stack⟩ := by
  cases vs with
  | nil => rfl
  | cons u vs =>
      have hlast : (u :: (vs ++ [v])).getLast (List.cons_ne_nil u (vs ++ [v])) = v := by simp
      have hinit : (u :: (vs ++ [v])).dropLast = u :: vs := by rw [← List.cons_append, List.dropLast_concat]
      rw [List.cons_append, itemsRead, hlast, hinit]

/-- The separator that is printed before every item but the first. -/
theorem feeds_separator {i : Nat} {sep : String} (hi : vs.length = i)
    (hsep : ∀ v items, feed step ⟨.after v, .arr items :: stack⟩ sep = some ⟨.value, .arr (items ++ [v]) :: stack⟩)
    (h : Feeds step (nextItem vs stack) pieces st') :
    Feeds step (itemsRead vs stack) ((if i = 0 then "" else sep) :: pieces) st' := by
  refine ⟨_, ?_, h⟩
  cases vs with
  | nil => rw [if_pos (by simpa using hi.symm)]; rfl
  | cons v vs =>
      rw [if_neg (by simp at hi; omega)]
      exact (hsep _ _).trans (by rw [List.dropLast_append_getLast]; rfl)

/-- The first piece of an item. -/
theorem feeds_item (h₀ : feed step ⟨.element, .arr vs :: stack⟩ s = some st₁)
    (h₁ : feed step ⟨.value, .arr vs :: stack⟩ s = some st₁) (h : Feeds step st₁ pieces st') :
    Feeds step (nextItem vs stack) (s :: pieces) st' := by
  refine ⟨st₁, ?_, h⟩
  cases vs with
  | nil => exact h₀
  | cons v vs => exact h₁

theorem feeds_close (h : Feeds step ⟨.after (.arr vs), stack⟩ pieces st') :
    Feeds step (itemsRead vs stack) ("]" :: pieces) st' := by
  refine ⟨_, ?_, h⟩
  cases vs with
  | nil => rfl
  | cons v vs =>
      refine Eq.trans (b := some ⟨.after (.arr (_ ++ [_])), stack⟩) rfl ?_
      rw [List.dropLast_append_getLast]

theorem stepAfter_space {v : Json} {c : Char} (hc : isSpace c) : stepAfter v stack c = some ⟨.after v, stack⟩ := by
  rcases isSpace_iff.mp hc with rfl | rfl | rfl | rfl
  all_goals
    cases stack with
    | nil => rfl
    | cons frame stack => cases frame <;> rfl

/-- White space before the end of an array. -/
theorem feed_itemsRead_space (hs : s.toList.all isSpace = true) :
    feed step (itemsRead vs stack) s = some (itemsRead vs stack) := by
  rw [feed]
  rw [List.all_eq_true] at hs
  generalize s.toList = cs at hs
  induction cs with
  | nil => rfl
  | cons c cs ih =>
      have hspace := hs c (.head cs)
      have hstep : step (itemsRead vs stack) c = some (itemsRead vs stack) := by
        cases vs with
        | nil => simp only [itemsRead, step, if_pos hspace]
        | cons v vs => exact stepAfter_space hspace
      rw [List.foldlM_cons, hstep]
      exact ih fun c' hc' => hs c' (.tail c hc')

/-- A loop that prints the items of an array. -/
theorem wp_items (vs : List Json) (stack : List Frame) (body : Nat → Print PUnit)
    (hbody : ∀ i (hi : i < vs.length) (us : List Json), us.length = i →
      Print.wp step (body i) (fun _ st => st = itemsRead (us ++ [vs[i]]) stack) (itemsRead us stack)) :
    Print.wp step (Print.forRange vs.length body) (fun _ st => st = itemsRead vs stack) (itemsRead [] stack) := by
  refine (Print.wp_forRange (fun i st => st = itemsRead (vs.take i) stack) ?_ rfl).mono ?_
  · rintro i hi st rfl
    have hat := hbody i hi (vs.take i) (by simp; omega)
    rwa [List.take_append_getElem] at hat
  · rintro _ st rfl
    rw [List.take_length]

end Json

end Cmp50Unlock.Lib
