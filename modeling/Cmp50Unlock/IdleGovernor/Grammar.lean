import Cmp50Unlock.IdleGovernor.Settings

/-!
# What the load clock and the core offset may look like

The texts that `parseClock` and `parseCoreOffset` accept, as a grammar with the numbers written in them.
-/

namespace Cmp50Unlock.IdleGovernor

open Lib

/-! ## The grammar -/

/-- A text with white space around it. -/
def Padded (P : List Char → Prop) (s : List Char) : Prop :=
  ∃ l m r, s = l ++ m ++ r ∧ (∀ c ∈ l, isSpace c) ∧ (∀ c ∈ r, isSpace c) ∧ P m

def Blank (s : List Char) : Prop := ∀ c ∈ s, isSpace c

/-- A load clock, with the two numbers it gives. -/
inductive ClockText : List Char → Option (Nat × Nat) → Prop where
  | blank {s : List Char} (h : Blank s) : ClockText s none
  | one {s : List Char} {n : Nat} (h : Padded (Decimal · n) s) (hlo : 100 ≤ n) (hhi : n ≤ 5000) :
      ClockText s (some (n, n))
  | range {s t : List Char} {lo hi : Nat} (hs : Padded (Decimal · lo) s) (ht : Padded (Decimal · hi) t)
      (hlo : 100 ≤ lo) (hle : lo ≤ hi) (hhi : hi ≤ 5000) : ClockText (s ++ ',' :: t) (some (lo, hi))

/-- A core offset, with the number it gives. -/
inductive OffsetText : List Char → Option Int → Prop where
  | blank {s : List Char} (h : Blank s) : OffsetText s none
  | number {s : List Char} {z : Int} (h : Padded (Signed · z) s) (hlo : -2000 ≤ z) (hhi : z ≤ 2000) :
      OffsetText s (some z)

/-- A result of `parseClock` stands for the two numbers, or for none. -/
def ClockMeans (r : BitVec 32 × BitVec 32 × Bool) : Option (Nat × Nat) → Prop
  | none => r = (0, 0, false)
  | some (lo, hi) => r.1.toNat = lo ∧ r.2.1.toNat = hi ∧ r.2.2 = true

/-- A result of `parseCoreOffset` stands for the number, or for none. -/
def OffsetMeans (r : BitVec 32 × Bool) : Option Int → Prop
  | none => r = (0, false)
  | some z => r.1.toInt = z ∧ r.2 = true

/-- A result of `parseClock` as a text: `MIN,MAX`, or nothing. -/
def renderClock (r : BitVec 32 × BitVec 32 × Bool) : String :=
  if r.2.2 then toString r.1.toNat ++ "," ++ toString r.2.1.toNat else ""

/-- A result of `parseCoreOffset` as a text. -/
def renderCoreOffset (r : BitVec 32 × Bool) : String := if r.2 then toString r.1.toInt else ""

/-! ## White space -/

variable {s t : List Char} {n : Nat} {z : Int}

theorem isSpace_of_isDigit {c : Char} (h : c.isDigit) : isSpace c = false := by
  rw [Char.isDigit_iff_toNat] at h
  change 48 ≤ c.toNat ∧ c.toNat ≤ 57 at h
  simp only [isSpace, Bool.or_eq_false_iff, Bool.and_eq_false_iff, beq_eq_false_iff_ne, decide_eq_false_iff_not]
  omega

theorem tight_of_decimal (h : Decimal s n) : Tight isSpace s := .of_all fun c hc => isSpace_of_isDigit (h.digits c hc)

theorem tight_of_signed (h : Signed s z) : Tight isSpace s := by
  cases h with
  | plain h => exact tight_of_decimal h
  | plus h =>
      apply Tight.of_all
      intro c hc
      cases hc with
      | head => rfl
      | tail _ hc => exact isSpace_of_isDigit (h.digits c hc)
  | minus h =>
      apply Tight.of_all
      intro c hc
      cases hc with
      | head => rfl
      | tail _ hc => exact isSpace_of_isDigit (h.digits c hc)

theorem toList_trimSpace (s : String) : (trimSpace s).toList = trim isSpace s.toList := String.toList_ofList

theorem trimSpace_eq_empty {s : String} : trimSpace s = "" ↔ Blank s.toList := by
  rw [← String.toList_inj, toList_trimSpace]
  exact trim_eq_nil

/-- What is left after trimming has the property, if the text has it with white space around. -/
theorem padded_iff {P : List Char → Prop} (hne : ∀ m, P m → m ≠ []) (htight : ∀ m, P m → Tight isSpace m) :
    Padded P s ↔ P (trim isSpace s) := by
  constructor
  · rintro ⟨l, m, r, rfl, hl, hr, hm⟩
    rwa [trim_of_tight hl hr (htight m hm) (hne m hm)]
  · intro h
    obtain ⟨l, r, hs, hl, hr⟩ := exists_ends isSpace s
    exact ⟨l, _, r, hs, hl, hr, h⟩

theorem padded_decimal : Padded (Decimal · n) s ↔ Decimal (trim isSpace s) n :=
  padded_iff (fun _ h => h.ne_nil) fun _ h => tight_of_decimal h

theorem padded_signed : Padded (Signed · z) s ↔ Signed (trim isSpace s) z :=
  padded_iff (fun _ h => h.ne_nil) fun _ h => tight_of_signed h

theorem Padded.append_left {P : List Char → Prop} {l : List Char} (hl : Blank l) (h : Padded P s) :
    Padded P (l ++ s) := by
  obtain ⟨l', m, r, rfl, hl', hr, hm⟩ := h
  refine ⟨l ++ l', m, r, by simp, ?_, hr, hm⟩
  intro c hc
  rcases List.mem_append.mp hc with hc | hc
  · exact hl c hc
  · exact hl' c hc

theorem Padded.append_right {P : List Char → Prop} {r : List Char} (hr : Blank r) (h : Padded P s) :
    Padded P (s ++ r) := by
  obtain ⟨l, m, r', rfl, hl, hr', hm⟩ := h
  refine ⟨l, m, r' ++ r, by simp, hl, ?_, hm⟩
  intro c hc
  rcases List.mem_append.mp hc with hc | hc
  · exact hr' c hc
  · exact hr c hc

/-! ## The core offset -/

theorem parseInt_32 : parseInt 32 s = some z ↔ Signed s z ∧ -2 ^ 31 ≤ z ∧ z < 2 ^ 31 := parseInt_eq_some (by decide)

theorem toInt_ofInt_32 (hlo : -2000 ≤ z) (hhi : z ≤ 2000) : (BitVec.ofInt 32 z).toInt = z :=
  BitVec.toInt_ofInt_eq_self (by decide) (by omega) (by omega)

theorem parseCoreOffset_iff {s : String} {r : BitVec 32 × Bool} :
    parseCoreOffset s = .ok r ↔ ∃ g, OffsetText s.toList g ∧ OffsetMeans r g := by
  constructor
  · intro h
    simp only [parseCoreOffset] at h
    split at h
    next hblank =>
      cases h
      exact ⟨none, .blank (trimSpace_eq_empty.mp hblank), rfl⟩
    next =>
      split at h
      next => cases h
      next z hz =>
        split at h
        next => cases h
        next hrange =>
          cases h
          rw [toList_trimSpace] at hz
          exact ⟨some z, .number (padded_signed.mpr (parseInt_32.mp hz).1) (by omega) (by omega),
            toInt_ofInt_32 (by omega) (by omega), rfl⟩
  · rintro ⟨g, hg, hr⟩
    simp only [parseCoreOffset]
    cases hg with
    | blank hblank => rw [if_pos (trimSpace_eq_empty.mpr hblank), hr]
    | @number z hnumber hlo hhi =>
        have hsigned := padded_signed.mp hnumber
        have hblank : trimSpace s ≠ "" := by
          intro hempty
          rw [← toList_trimSpace, hempty] at hsigned
          exact hsigned.ne_nil rfl
        have hparse : parseInt 32 (trimSpace s).toList = some z := by
          rw [toList_trimSpace]
          exact parseInt_32.mpr ⟨hsigned, by omega, by omega⟩
        have hbits : r.1 = BitVec.ofInt 32 z := BitVec.eq_of_toInt_eq (by rw [hr.1, toInt_ofInt_32 hlo hhi])
        rw [if_neg hblank, hparse]
        simp only [if_neg (show ¬(z < -2000 ∨ z > 2000) by omega), ← hbits, ← hr.2]

theorem OffsetText.blank_of_none (h : OffsetText s none) : Blank s := by
  cases h with
  | blank h => exact h

/-- What `parseCoreOffset` accepts is within the bounds. -/
theorem OffsetText.bounds (h : OffsetText s (some z)) : -2000 ≤ z ∧ z ≤ 2000 := by
  cases h with
  | number _ hlo hhi => exact ⟨hlo, hhi⟩

theorem parseCoreOffset_render {s : String} {r : BitVec 32 × Bool} (h : parseCoreOffset s = .ok r) :
    parseCoreOffset (renderCoreOffset r) = .ok r := by
  obtain ⟨g, hg, hr⟩ := parseCoreOffset_iff.mp h
  cases hg with
  | blank hblank =>
      rw [show r = (0, false) from hr]
      rfl
  | @number z hnumber hlo hhi =>
      have hrender : renderCoreOffset r = toString z := by rw [renderCoreOffset, if_pos hr.2, hr.1]
      rw [hrender, parseCoreOffset_iff]
      exact ⟨some z, .number ⟨[], _, [], by simp, by simp, by simp, signed_toString z⟩ hlo hhi, hr⟩

/-! ## The load clock -/

theorem parseClockPart_iff : parseClockPart s = .ok n ↔ Padded (Decimal · n) s ∧ 100 ≤ n ∧ n ≤ 5000 := by
  rw [padded_decimal, parseClockPart]
  constructor
  · intro h
    split at h
    next => cases h
    next n' hn =>
      split at h
      next => cases h
      next hrange =>
        cases h
        exact ⟨(parseUint_eq_some.mp hn).1, by omega, by omega⟩
  · rintro ⟨hn, hlo, hhi⟩
    rw [parseUint_eq_some.mpr ⟨hn, by omega⟩]
    simp only [if_neg (show ¬(n < 100 ∨ n > 5000) by omega)]

/-- A text without a comma has one part, and a text with one comma has two. -/
theorem parts_cases {parts : List (List Char)} (h : s.splitOn ',' = parts) (hlen : parts.length ≤ 2) :
    parts = [s] ∨ ∃ a b, parts = [a, b] ∧ s = a ++ ',' :: b := by
  have hjoin := @List.intercalate_splitOn _ s _ _ ','
  rw [h] at hjoin
  cases parts with
  | nil => exact absurd h (List.splitOn_ne_nil ',' s)
  | cons a parts =>
      cases parts with
      | nil => left; rw [← hjoin]; simp
      | cons b parts =>
          cases parts with
          | nil => right; exact ⟨a, b, rfl, by rw [← hjoin]; simp⟩
          | cons c parts => simp at hlen

theorem not_comma_of_padded (h : Padded (Decimal · n) s) : ',' ∉ s := by
  obtain ⟨l, m, r, rfl, hl, hr, hm⟩ := h
  intro hc
  rcases List.mem_append.mp hc with hc | hc
  · rcases List.mem_append.mp hc with hc | hc
    · exact absurd (hl _ hc) (by decide)
    · exact absurd (hm.digits _ hc) (by decide)
  · exact absurd (hr _ hc) (by decide)

/-- Two numbers with a comma between them are found as two parts. -/
theorem parts_of_range {lo hi : Nat} (hs : Padded (Decimal · lo) s) (ht : Padded (Decimal · hi) t) :
    ∃ a b, (trim isSpace (s ++ ',' :: t)).splitOn ',' = [a, b] ∧ Padded (Decimal · lo) a ∧ Padded (Decimal · hi) b := by
  obtain ⟨l, m, r, rfl, hl, hr, hm⟩ := hs
  obtain ⟨l', m', r', rfl, hl', hr', hm'⟩ := ht
  have ha : Padded (Decimal · lo) (m ++ r) := ⟨[], m, r, rfl, by simp, hr, hm⟩
  have hb : Padded (Decimal · hi) (l' ++ m') := ⟨l', m', [], by simp, hl', by simp, hm'⟩
  have htight := (tight_of_decimal hm).append (r ++ ',' :: l') hm.ne_nil (tight_of_decimal hm') hm'.ne_nil
  have htext : l ++ m ++ r ++ ',' :: (l' ++ m' ++ r') = l ++ (m ++ (r ++ ',' :: l' ++ m')) ++ r' := by simp
  have htrim := trim_of_tight hl hr' htight (List.append_ne_nil_of_left_ne_nil hm.ne_nil _)
  refine ⟨m ++ r, l' ++ m', ?_, ha, hb⟩
  calc (trim isSpace (l ++ m ++ r ++ ',' :: (l' ++ m' ++ r'))).splitOn ','
      = ((m ++ r) ++ ',' :: (l' ++ m')).splitOn ',' := by rw [htext, htrim]; simp
    _ = (m ++ r) :: (l' ++ m').splitOn ',' := List.splitOn_append_cons_self_of_not_mem (not_comma_of_padded ha) _
    _ = [m ++ r, l' ++ m'] := by rw [List.splitOn_eq_singleton (not_comma_of_padded hb)]

theorem toNat_ofNat_32 (hn : n ≤ 5000) : (BitVec.ofNat 32 n).toNat = n := by
  rw [BitVec.toNat_ofNat]
  omega

theorem mapM_parts_one {a : List Char} {values : List Nat} (h : [a].mapM parseClockPart = .ok values) :
    ∃ n, values = [n] ∧ parseClockPart a = .ok n := by
  cases hn : parseClockPart a with
  | error err => simp [hn, bind, Except.bind] at h
  | ok n =>
      simp [hn, bind, Except.bind, pure, Except.pure] at h
      exact ⟨n, h.symm, rfl⟩

theorem mapM_parts_two {a b : List Char} {values : List Nat} (h : [a, b].mapM parseClockPart = .ok values) :
    ∃ lo hi, values = [lo, hi] ∧ parseClockPart a = .ok lo ∧ parseClockPart b = .ok hi := by
  cases hlo : parseClockPart a with
  | error err => simp [hlo, bind, Except.bind] at h
  | ok lo =>
      cases hhi : parseClockPart b with
      | error err => simp [hlo, hhi, bind, Except.bind] at h
      | ok hi =>
          simp [hlo, hhi, bind, Except.bind, pure, Except.pure] at h
          exact ⟨lo, hi, h.symm, rfl, rfl⟩

theorem parseClock_sound {s : String} {r : BitVec 32 × BitVec 32 × Bool} (h : parseClock s = .ok r) :
    ∃ g, ClockText s.toList g ∧ ClockMeans r g := by
  simp only [parseClock] at h
  split at h
  next hblank =>
    cases h
    exact ⟨none, .blank (trimSpace_eq_empty.mp hblank), rfl⟩
  next =>
    split at h
    next => cases h
    next hlen =>
      split at h
      next => cases h
      next values hvalues =>
        obtain ⟨l, r', hs, hl, hr⟩ := exists_ends isSpace s.toList
        rw [toList_trimSpace] at hvalues hlen
        rcases parts_cases rfl (Nat.not_lt.mp hlen) with hone | ⟨a, b, htwo, hsplit⟩
        · rw [hone] at hvalues
          obtain ⟨n, rfl, hn⟩ := mapM_parts_one hvalues
          obtain ⟨hpad, hlo, hhi⟩ := parseClockPart_iff.mp hn
          cases h
          have htext : Padded (Decimal · n) s.toList := by rw [hs]; exact (hpad.append_left hl).append_right hr
          exact ⟨some (n, n), .one htext hlo hhi, toNat_ofNat_32 hhi, toNat_ofNat_32 hhi, rfl⟩
        · rw [htwo] at hvalues
          obtain ⟨lo, hi, rfl, hlo, hhi⟩ := mapM_parts_two hvalues
          obtain ⟨hpadlo, hlo, hlo'⟩ := parseClockPart_iff.mp hlo
          obtain ⟨hpadhi, hhi, hhi'⟩ := parseClockPart_iff.mp hhi
          rw [if_neg (show ¬[lo, hi].length = 1 by simp)] at h
          split at h
          next => cases h
          next hle =>
            cases h
            have htext : ClockText s.toList (some (lo, hi)) := by
              rw [hs, hsplit, show l ++ (a ++ ',' :: b) ++ r' = (l ++ a) ++ ',' :: (b ++ r') by simp]
              exact .range (hpadlo.append_left hl) (hpadhi.append_right hr) hlo (Nat.not_lt.mp hle) hhi'
            exact ⟨some (lo, hi), htext, toNat_ofNat_32 hlo', toNat_ofNat_32 hhi', rfl⟩

theorem ClockMeans.eq {r : BitVec 32 × BitVec 32 × Bool} {lo hi : Nat} (h : ClockMeans r (some (lo, hi))) :
    r = (BitVec.ofNat 32 lo, BitVec.ofNat 32 hi, true) := by
  obtain ⟨lo', hi', present⟩ := r
  obtain ⟨rfl, rfl, rfl⟩ := h
  simp

theorem parseClock_complete {s : String} {r : BitVec 32 × BitVec 32 × Bool} {g : Option (Nat × Nat)}
    (hg : ClockText s.toList g) (hr : ClockMeans r g) : parseClock s = .ok r := by
  generalize htext : s.toList = text at hg
  simp only [parseClock]
  cases hg with
  | blank hblank => rw [if_pos (trimSpace_eq_empty.mpr (htext ▸ hblank)), hr]
  | @one _ n hpad hlo hhi =>
      have hdecimal := padded_decimal.mp hpad
      have hne : trimSpace s ≠ "" := by
        intro hempty
        rw [← htext, ← toList_trimSpace, hempty] at hdecimal
        exact hdecimal.ne_nil rfl
      have hpart : parseClockPart (trim isSpace text) = .ok n :=
        parseClockPart_iff.mpr ⟨⟨[], _, [], by simp, by simp, by simp, hdecimal⟩, hlo, hhi⟩
      have hsplit : (trim isSpace text).splitOn ',' = [trim isSpace text] :=
        List.splitOn_eq_singleton (not_comma_of_padded ⟨[], _, [], by simp, by simp, by simp, hdecimal⟩)
      rw [if_neg hne, toList_trimSpace, htext, hsplit, hr.eq]
      simp [hpart, bind, Except.bind, pure, Except.pure]
  | @range a b lo hi hs ht hlo hle hhi =>
      obtain ⟨a', b', hsplit, ha, hb⟩ := parts_of_range hs ht
      have hne : trimSpace s ≠ "" := by
        intro hempty
        rw [← htext, ← toList_trimSpace, hempty] at hsplit
        cases hsplit
      have hpartlo := parseClockPart_iff.mpr ⟨ha, hlo, by omega⟩
      have hparthi := parseClockPart_iff.mpr ⟨hb, by omega, hhi⟩
      rw [if_neg hne, toList_trimSpace, htext, hsplit, hr.eq]
      simp [hpartlo, hparthi, bind, Except.bind, pure, Except.pure, hle]

theorem parseClock_iff {s : String} {r : BitVec 32 × BitVec 32 × Bool} :
    parseClock s = .ok r ↔ ∃ g, ClockText s.toList g ∧ ClockMeans r g :=
  ⟨parseClock_sound, fun ⟨_, hg, hr⟩ => parseClock_complete hg hr⟩

/-- What `parseClock` accepts is a range within the bounds. -/
theorem ClockText.bounds {s : List Char} {lo hi : Nat} (h : ClockText s (some (lo, hi))) :
    100 ≤ lo ∧ lo ≤ hi ∧ hi ≤ 5000 := by
  cases h with
  | one _ hlo hhi => exact ⟨hlo, Nat.le_refl _, hhi⟩
  | range _ _ hlo hle hhi => exact ⟨hlo, hle, hhi⟩

theorem ClockText.blank_of_none {s : List Char} (h : ClockText s none) : Blank s := by
  cases h with
  | blank h => exact h

theorem padded_toString (n : Nat) : Padded (Decimal · n) (toString n).toList :=
  ⟨[], _, [], by simp, by simp, by simp, decimal_toString n⟩

theorem parseClock_render {s : String} {r : BitVec 32 × BitVec 32 × Bool} (h : parseClock s = .ok r) :
    parseClock (renderClock r) = .ok r := by
  obtain ⟨g, hg, hr⟩ := parseClock_iff.mp h
  rcases g with _ | ⟨lo, hi⟩
  · rw [show r = (0, 0, false) from hr]
    rfl
  · obtain ⟨hlo, hle, hhi⟩ := hg.bounds
    have hrender : renderClock r = toString lo ++ "," ++ toString hi := by rw [renderClock, if_pos hr.2.2, hr.1, hr.2.1]
    have htext : (toString lo ++ "," ++ toString hi).toList = (toString lo).toList ++ ',' :: (toString hi).toList := by
      simp
    refine parseClock_complete ?_ hr
    rw [hrender, htext]
    exact .range (padded_toString lo) (padded_toString hi) hlo hle hhi

end Cmp50Unlock.IdleGovernor
