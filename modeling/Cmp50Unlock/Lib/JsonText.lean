import Cmp50Unlock.Lib.Json

/-!
# The grammar of JSON

What the decoder accepts is a JSON text: the values, with the texts that stand for them, and what the state of the
decoder says of the text that it has read.
-/

namespace Cmp50Unlock.Lib

namespace Json

/-! ## The grammar -/

/-- White space. -/
def Blank (src : List Char) : Prop := ∀ c ∈ src, isSpace c

/-- What stands between the quotes of a string. -/
inductive Body : List Char → List Char → Prop where
  | nil : Body [] []
  | plain {src s : List Char} {c : Char} (h : Body src s) (hc : isPlain c) : Body (src ++ [c]) (s ++ [c])
  | escape {src s : List Char} {c e : Char} (h : Body src s) (hc : escaped c = some e) :
      Body (src ++ ['\\', c]) (s ++ [e])
  | unicode {src s digits : List Char} {e : Char} (h : Body src s) (hlen : digits.length = 4)
      (hc : unicodeChar digits = some e) : Body (src ++ '\\' :: 'u' :: digits) (s ++ [e])

mutual
/-- A text that stands for a value, without white space around it. -/
inductive Value : List Char → Json → Prop where
  | word {src : List Char} {v : Json} (h : readWord src = some v) : Value src v
  | string {src s : List Char} (h : Body src s) : Value ('"' :: src ++ ['"']) (.str s)
  | emptyArray {src : List Char} (h : Blank src) : Value ('[' :: src ++ [']']) (.arr [])
  | array {src : List Char} {vs : List Json} (h : Items src vs) : Value ('[' :: src ++ [']']) (.arr vs)
  | emptyObject {src : List Char} (h : Blank src) : Value ('{' :: src ++ ['}']) (.obj [])
  | object {src : List Char} {members : List (List Char × Json)} (h : Members src members) :
      Value ('{' :: src ++ ['}']) (.obj members)

/-- Values with commas between them. -/
inductive Items : List Char → List Json → Prop where
  | one {l src r : List Char} {v : Json} (hl : Blank l) (h : Value src v) (hr : Blank r) : Items (l ++ src ++ r) [v]
  | more {items l src r : List Char} {vs : List Json} {v : Json} (hs : Items items vs) (hl : Blank l) (h : Value src v)
      (hr : Blank r) : Items (items ++ ',' :: (l ++ src ++ r)) (vs ++ [v])

/-- Keys and values with commas between them. -/
inductive Members : List Char → List (List Char × Json) → Prop where
  | one {l src : List Char} {m : List Char × Json} (hl : Blank l) (h : Member src m) : Members (l ++ src) [m]
  | more {text l src : List Char} {members : List (List Char × Json)} {m : List Char × Json} (hs : Members text members)
      (hl : Blank l) (h : Member src m) : Members (text ++ ',' :: (l ++ src)) (members ++ [m])

/-- A key and its value, with white space around the value. -/
inductive Member : List Char → List Char × Json → Prop where
  | intro {key s w l src r : List Char} {v : Json} (hkey : Body key s) (hw : Blank w) (hl : Blank l) (h : Value src v)
      (hr : Blank r) : Member ('"' :: key ++ '"' :: w ++ ':' :: (l ++ src ++ r)) (s, v)
end

/-- A JSON text: a value with white space around it. -/
def Text (src : List Char) (v : Json) : Prop := ∃ l cs r, src = l ++ cs ++ r ∧ Blank l ∧ Value cs v ∧ Blank r

/-! ## What the decoder has read -/

/-- What stands between the bracket and the next item. -/
def BeforeItem : List Json → List Char → Prop
  | [], src => Blank src
  | v :: vs, src => ∃ items l, src = items ++ ',' :: l ∧ Items items (v :: vs) ∧ Blank l

/-- What stands between the brace and the next key. -/
def BeforeKey : List (List Char × Json) → List Char → Prop
  | [], src => Blank src
  | m :: ms, src => ∃ text l, src = text ++ ',' :: l ∧ Members text (m :: ms) ∧ Blank l

/-- What stands before a value. -/
def Opened : List Frame → List Char → Prop
  | [], src => Blank src
  | .arr vs :: stack, src => ∃ outer inner, src = outer ++ '[' :: inner ∧ Opened stack outer ∧ BeforeItem vs inner
  | .obj members s :: stack, src => ∃ outer before key w l,
      src = outer ++ '{' :: (before ++ ('"' :: key ++ '"' :: w ++ ':' :: l)) ∧ Opened stack outer ∧
        BeforeKey members before ∧ Body key s ∧ Blank w ∧ Blank l

/-- What stands before a string. -/
def OpenedFor (stack : List Frame) : Role → List Char → Prop
  | .value, src => Opened stack src
  | .key members, src => ∃ outer before, src = outer ++ '{' :: before ∧ Opened stack outer ∧ BeforeKey members before

/-- What has been read of an escape. -/
def escapeText : Escape → List Char
  | .none => []
  | .backslash => ['\\']
  | .unicode digits => '\\' :: 'u' :: digits

/-- An escape has four digits at most. -/
def Unfinished : Escape → Prop
  | .unicode digits => digits.length ≤ 3
  | _ => True

/-- The text that has been read in a state. -/
def Reads : State → List Char → Prop
  | ⟨.value, stack⟩, src => Opened stack src
  | ⟨.element, stack⟩, src => Opened stack src ∧ ∃ rest, stack = .arr [] :: rest
  | ⟨.member, stack⟩, src => OpenedFor stack (.key []) src
  | ⟨.key members, stack⟩, src => OpenedFor stack (.key members) src
  | ⟨.colon members s, stack⟩, src => ∃ before key w, src = before ++ ('"' :: key ++ '"' :: w) ∧
      OpenedFor stack (.key members) before ∧ Body key s ∧ Blank w
  | ⟨.string role chars escape, stack⟩, src => ∃ before body, src = before ++ '"' :: (body ++ escapeText escape) ∧
      OpenedFor stack role before ∧ Body body chars ∧ Unfinished escape
  | ⟨.word chars, stack⟩, src => ∃ before, src = before ++ chars ∧ Opened stack before
  | ⟨.after v, stack⟩, src => ∃ before cs w, src = before ++ cs ++ w ∧ Opened stack before ∧ Value cs v ∧ Blank w

variable {src l w : List Char} {c : Char} {stack : List Frame} {v : Json} {vs : List Json}
  {members : List (List Char × Json)}

theorem Blank.concat (h : Blank src) (hc : isSpace c) : Blank (src ++ [c]) := by
  intro c' hc'
  rcases List.mem_append.mp hc' with hc' | hc'
  · exact h c' hc'
  · obtain rfl := List.mem_singleton.mp hc'
    exact hc

theorem BeforeItem.concat (h : BeforeItem vs src) (hc : isSpace c) : BeforeItem vs (src ++ [c]) := by
  cases vs with
  | nil => exact Blank.concat h hc
  | cons v vs =>
      obtain ⟨items, l, rfl, hitems, hl⟩ := h
      exact ⟨items, l ++ [c], by simp, hitems, hl.concat hc⟩

theorem BeforeKey.concat (h : BeforeKey members src) (hc : isSpace c) : BeforeKey members (src ++ [c]) := by
  cases members with
  | nil => exact Blank.concat h hc
  | cons m ms =>
      obtain ⟨text, l, rfl, htext, hl⟩ := h
      exact ⟨text, l ++ [c], by simp, htext, hl.concat hc⟩

theorem Opened.concat (h : Opened stack src) (hc : isSpace c) : Opened stack (src ++ [c]) := by
  cases stack with
  | nil => exact Blank.concat h hc
  | cons frame stack =>
      cases frame with
      | arr vs =>
          obtain ⟨outer, inner, rfl, houter, hinner⟩ := h
          exact ⟨outer, inner ++ [c], by simp, houter, hinner.concat hc⟩
      | obj members s =>
          obtain ⟨outer, before, key, w, l, rfl, houter, hbefore, hkey, hw, hl⟩ := h
          exact ⟨outer, before, key, w, l ++ [c], by simp, houter, hbefore, hkey, hw, hl.concat hc⟩

theorem OpenedFor.concat (h : OpenedFor stack (.key members) src) (hc : isSpace c) :
    OpenedFor stack (.key members) (src ++ [c]) := by
  obtain ⟨outer, before, rfl, houter, hbefore⟩ := h
  exact ⟨outer, before ++ [c], by simp, houter, hbefore.concat hc⟩

/-- The items of an array, after one more. -/
theorem BeforeItem.next {cs : List Char} (h : BeforeItem vs src) (hv : Value cs v) (hw : Blank w) :
    Items (src ++ cs ++ w) (vs ++ [v]) := by
  cases vs with
  | nil => exact .one h hv hw
  | cons u vs =>
      obtain ⟨items, l, rfl, hitems, hl⟩ := h
      have hmore := Items.more hitems hl hv hw
      rwa [show items ++ ',' :: l ++ cs ++ w = items ++ ',' :: (l ++ cs ++ w) by simp]

/-- The members of an object, after one more. -/
theorem BeforeKey.next {text : List Char} {m : List Char × Json} (h : BeforeKey members src) (hm : Member text m) :
    Members (src ++ text) (members ++ [m]) := by
  cases members with
  | nil => exact .one h hm
  | cons m' ms =>
      obtain ⟨text', l, rfl, htext, hl⟩ := h
      have hmore := Members.more htext hl hm
      rwa [show text' ++ ',' :: l ++ text = text' ++ ',' :: (l ++ text) by simp]

/-! ## One character -/

variable {st st' : State}

theorem reads_value (h : Opened stack src) (hstep : stepValue stack c = some st') : Reads st' (src ++ [c]) := by
  unfold stepValue at hstep
  split at hstep
  next hquote =>
    cases hstep
    exact ⟨src, [], by rw [hquote]; rfl, h, .nil, trivial⟩
  next =>
    split at hstep
    next hbracket =>
      cases hstep
      exact ⟨⟨src, [], by rw [hbracket], h, fun _ hc => by cases hc⟩, stack, rfl⟩
    next =>
      split at hstep
      next hbrace =>
        cases hstep
        exact ⟨src, [], by rw [hbrace], h, fun _ hc => by cases hc⟩
      next =>
        split at hstep
        next => cases hstep; exact ⟨src, rfl, h⟩
        next => cases hstep

/-- A value that is complete. -/
theorem reads_after_value {before cs : List Char} (h : Opened stack before) (hv : Value cs v) :
    Reads ⟨.after v, stack⟩ (before ++ cs) :=
  ⟨before, cs, [], by simp, h, hv, fun _ hc => by cases hc⟩

theorem reads_after_space {before cs : List Char} (h : Opened stack before) (hv : Value cs v) (hw : Blank w)
    (hstep : (if isSpace c then some ⟨.after v, stack⟩ else none) = some st') :
    Reads st' (before ++ cs ++ w ++ [c]) := by
  split at hstep
  next hc => cases hstep; exact ⟨before, cs, w ++ [c], by simp, h, hv, hw.concat hc⟩
  next => cases hstep

theorem Items.ne_nil (h : Items src vs) : vs ≠ [] := by
  cases h with
  | one => exact List.cons_ne_nil _ _
  | more => exact List.append_ne_nil_of_right_ne_nil _ (List.cons_ne_nil _ _)

theorem Members.ne_nil (h : Members src members) : members ≠ [] := by
  cases h with
  | one => exact List.cons_ne_nil _ _
  | more => exact List.append_ne_nil_of_right_ne_nil _ (List.cons_ne_nil _ _)

theorem beforeItem_concat {items : List Char} (h : Items items vs) : BeforeItem vs (items ++ [',']) := by
  cases vs with
  | nil => exact absurd rfl h.ne_nil
  | cons v vs => exact ⟨items, [], rfl, h, fun _ hc => by cases hc⟩

theorem beforeKey_concat {text : List Char} (h : Members text members) : BeforeKey members (text ++ [',']) := by
  cases members with
  | nil => exact absurd rfl h.ne_nil
  | cons m ms => exact ⟨text, [], rfl, h, fun _ hc => by cases hc⟩

theorem reads_after {before cs : List Char} (h : Opened stack before) (hv : Value cs v) (hw : Blank w)
    (hstep : stepAfter v stack c = some st') : Reads st' (before ++ cs ++ w ++ [c]) := by
  unfold stepAfter at hstep
  split at hstep
  next vs stack =>
    cases hstep
    obtain ⟨outer, inner, rfl, houter, hinner⟩ := h
    exact ⟨outer, inner ++ cs ++ w ++ [','], by simp, houter, beforeItem_concat (hinner.next hv hw)⟩
  next vs stack =>
    cases hstep
    obtain ⟨outer, inner, rfl, houter, hinner⟩ := h
    rw [show outer ++ '[' :: inner ++ cs ++ w ++ [']'] = outer ++ ('[' :: (inner ++ cs ++ w) ++ [']']) by simp]
    exact reads_after_value houter (.array (hinner.next hv hw))
  next ms s stack =>
    cases hstep
    obtain ⟨outer, text, key, w', l, rfl, houter, htext, hkey, hw', hl⟩ := h
    refine ⟨outer, text ++ ('"' :: key ++ '"' :: w' ++ ':' :: (l ++ cs ++ w)) ++ [','], by simp, houter, ?_⟩
    exact beforeKey_concat (htext.next (.intro hkey hw' hl hv hw))
  next ms s stack =>
    cases hstep
    obtain ⟨outer, text, key, w', l, rfl, houter, htext, hkey, hw', hl⟩ := h
    rw [show outer ++ '{' :: (text ++ ('"' :: key ++ '"' :: w' ++ ':' :: l)) ++ cs ++ w ++ ['}'] =
      outer ++ ('{' :: (text ++ ('"' :: key ++ '"' :: w' ++ ':' :: (l ++ cs ++ w))) ++ ['}']) by simp]
    exact reads_after_value houter (.object (htext.next (.intro hkey hw' hl hv hw)))
  next => exact reads_after_space h hv hw hstep

/-- A string that is closed. -/
theorem reads_close {role : Role} {before body s : List Char} (h : OpenedFor stack role before) (hbody : Body body s) :
    Reads (closeString stack s role) (before ++ '"' :: body ++ ['"']) := by
  cases role with
  | value =>
      have hread := reads_after_value h (.string hbody)
      rwa [show before ++ ('"' :: body ++ ['"']) = before ++ '"' :: body ++ ['"'] by simp] at hread
  | key members => exact ⟨before, body, [], by simp, h, hbody, fun _ hc => by cases hc⟩

theorem reads_string {role : Role} {escape : Escape} {before body s : List Char} (h : OpenedFor stack role before)
    (hbody : Body body s) (hescape : Unfinished escape)
    (hstep : stepString role s stack escape c = some st') :
    Reads st' (before ++ '"' :: (body ++ escapeText escape) ++ [c]) := by
  cases escape with
  | none =>
      simp only [stepString] at hstep
      split at hstep
      next hquote =>
        cases hstep
        have hclose := reads_close h hbody
        rwa [hquote, show before ++ '"' :: (body ++ escapeText .none) ++ ['"'] = before ++ '"' :: body ++ ['"'] by
          simp [escapeText]]
      next hquote =>
        split at hstep
        next hbackslash =>
          cases hstep
          exact ⟨before, body, by simp [escapeText, hbackslash], h, hbody, trivial⟩
        next hbackslash =>
          split at hstep
          next => cases hstep
          next hcontrol =>
            cases hstep
            have hplain : isPlain c := by
              simp only [isPlain, Bool.and_eq_true, bne_iff_ne, decide_eq_true_eq]
              exact ⟨⟨hquote, hbackslash⟩, Nat.not_lt.mp hcontrol⟩
            exact ⟨before, body ++ [c], by simp [escapeText], h, hbody.plain hplain, trivial⟩
  | backslash =>
      simp only [stepString] at hstep
      split at hstep
      next hu =>
        cases hstep
        exact ⟨before, body, by simp [escapeText, hu], h, hbody, Nat.zero_le 3⟩
      next =>
        obtain ⟨e, he, hst⟩ := Option.map_eq_some_iff.mp hstep
        cases hst
        exact ⟨before, body ++ ['\\', c], by simp [escapeText], h, hbody.escape he, trivial⟩
  | unicode digits =>
      simp only [stepString] at hstep
      split at hstep
      next hshort =>
        cases hstep
        exact ⟨before, body, by simp [escapeText], h, hbody, by simp [Unfinished]; omega⟩
      next hfull =>
        obtain ⟨e, he, hst⟩ := Option.map_eq_some_iff.mp hstep
        cases hst
        have hlen : (digits ++ [c]).length = 4 := by simp [Unfinished] at hescape ⊢; omega
        exact ⟨before, body ++ '\\' :: 'u' :: (digits ++ [c]), by simp [escapeText], h, hbody.unicode hlen he, trivial⟩

theorem reads_key (h : OpenedFor stack (.key members) src) :
    Reads ⟨.string (.key members) [] .none, stack⟩ (src ++ ['"']) :=
  ⟨src, [], rfl, h, .nil, trivial⟩

/-- What a step reads. -/
theorem reads_step (h : Reads st src) (hstep : step st c = some st') : Reads st' (src ++ [c]) := by
  obtain ⟨mode, stack⟩ := st
  cases mode with
  | value =>
      simp only [step] at hstep
      split at hstep
      next hc => cases hstep; exact Opened.concat h hc
      next => exact reads_value h hstep
  | element =>
      obtain ⟨hopened, rest, rfl⟩ := h
      simp only [step] at hstep
      split at hstep
      next hc => cases hstep; exact ⟨hopened.concat hc, rest, rfl⟩
      next =>
        split at hstep
        next vs stack heq _ =>
          cases heq
          cases hstep
          obtain ⟨outer, inner, rfl, houter, hinner⟩ := hopened
          have hread := reads_after_value houter (.emptyArray hinner)
          rwa [show outer ++ '[' :: inner ++ [']'] = outer ++ ('[' :: inner ++ [']']) by simp]
        next => exact reads_value hopened hstep
  | member =>
      simp only [step] at hstep
      split at hstep
      next hc => cases hstep; exact OpenedFor.concat h hc
      next =>
        split at hstep
        next hc => cases hstep; rw [hc]; exact reads_key h
        next =>
          split at hstep
          next hc =>
            cases hstep
            obtain ⟨outer, before, rfl, houter, hbefore⟩ := h
            have hread := reads_after_value houter (.emptyObject hbefore)
            rwa [hc, show outer ++ '{' :: before ++ ['}'] = outer ++ ('{' :: before ++ ['}']) by simp]
          next => cases hstep
  | key members =>
      simp only [step] at hstep
      split at hstep
      next hc => cases hstep; exact OpenedFor.concat h hc
      next =>
        split at hstep
        next hc => cases hstep; rw [hc]; exact reads_key h
        next => cases hstep
  | colon members s =>
      simp only [step] at hstep
      obtain ⟨before, key, w, rfl, hbefore, hkey, hw⟩ := h
      split at hstep
      next hc =>
        cases hstep
        exact ⟨before, key, w ++ [c], by simp, hbefore, hkey, hw.concat hc⟩
      next =>
        split at hstep
        next hc =>
          cases hstep
          obtain ⟨outer, text, rfl, houter, htext⟩ := hbefore
          exact ⟨outer, text, key, w, [], by simp [hc], houter, htext, hkey, hw, fun _ hc => by cases hc⟩
        next => cases hstep
  | string role chars escape =>
      obtain ⟨before, body, rfl, hbefore, hbody, hescape⟩ := h
      exact reads_string hbefore hbody hescape hstep
  | word chars =>
      obtain ⟨before, rfl, hbefore⟩ := h
      simp only [step] at hstep
      split at hstep
      next =>
        cases hstep
        exact ⟨before, by simp, hbefore⟩
      next =>
        obtain ⟨v, hv, hafter⟩ := Option.bind_eq_some_iff.mp hstep
        have hread := @reads_after [] _ _ _ _ before chars hbefore (.word hv) (fun _ hc => by cases hc) hafter
        rwa [List.append_nil] at hread
  | after v =>
      obtain ⟨before, cs, w, rfl, hbefore, hv, hw⟩ := h
      exact reads_after hbefore hv hw hstep

theorem reads_feed {text : List Char} (h : Reads st src) (hfeed : text.foldlM step st = some st') :
    Reads st' (src ++ text) := by
  induction text generalizing st src with
  | nil =>
      cases hfeed
      rwa [List.append_nil]
  | cons c text ih =>
      rw [List.foldlM_cons] at hfeed
      obtain ⟨st₁, hstep, hrest⟩ := Option.bind_eq_some_iff.mp hfeed
      have hread := ih (reads_step h hstep) hrest
      rwa [List.append_assoc, List.singleton_append] at hread

theorem text_of_finish (h : Reads st src) (hfinish : finish st = some v) : Text src v := by
  unfold finish at hfinish
  split at hfinish
  next =>
    cases hfinish
    obtain ⟨l, cs, w, rfl, hl, hv, hw⟩ := h
    exact ⟨l, cs, w, rfl, hl, hv, hw⟩
  next chars =>
    obtain ⟨l, rfl, hl⟩ := h
    exact ⟨l, chars, [], by simp, hl, .word hfinish, fun _ hc => by cases hc⟩
  next => cases hfinish

/-- What the decoder accepts is a JSON text for the value that it returns. -/
theorem text_of_loads {text : String} (h : loads text = some v) : Text text.toList v := by
  obtain ⟨st, hfeed, hfinish⟩ := Option.bind_eq_some_iff.mp h
  have hstart : Reads start [] := fun _ hc => by cases hc
  exact text_of_finish (reads_feed hstart hfeed) hfinish

/-! ## Distinct keys -/

/-- No object of the value has a key twice. -/
inductive Distinct : Json → Prop where
  | null : Distinct .null
  | bool {b : Bool} : Distinct (.bool b)
  | int {n : Int} : Distinct (.int n)
  | str {s : List Char} : Distinct (.str s)
  | arr {vs : List Json} (h : ∀ v ∈ vs, Distinct v) : Distinct (.arr vs)
  | obj {members : List (List Char × Json)} (hkeys : (members.map Prod.fst).Nodup)
      (h : ∀ m ∈ members, Distinct m.2) : Distinct (.obj members)

end Json

end Cmp50Unlock.Lib
