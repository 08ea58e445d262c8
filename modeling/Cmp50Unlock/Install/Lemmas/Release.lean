import Cmp50Unlock.Install.Rollback

/-!
# The kernel of a backup
-/

namespace Cmp50Unlock.Install

variable {u : Uname}

def Uname.words (u : Uname) : List (List Char) := u.sysname :: u.nodename :: u.release :: u.rest

/-- Words on one line. -/
structure Uname.WellFormed (u : Uname) : Prop where
  blank : ∀ word ∈ u.words, ' ' ∉ word
  line : ∀ word ∈ u.words, '\n' ∉ word
  rest : u.rest ≠ []

theorem not_mem_intercalate {c x : Char} {ls : List (List Char)} (hne : c ≠ x) (hls : ∀ l ∈ ls, c ∉ l) :
    c ∉ [x].intercalate ls := by
  induction ls with
  | nil => exact List.not_mem_nil
  | cons l ls ih =>
      have hrest := ih fun l' hl' => hls l' (.tail l hl')
      cases ls with
      | nil =>
          simp only [List.intercalate, List.intersperse_singleton, List.flatten_cons, List.flatten_nil, List.append_nil]
          exact hls l (.head [])
      | cons l' ls =>
          simp only [List.intercalate, List.intersperse_cons_cons, List.flatten_cons,
            List.mem_append, List.mem_singleton]
          rintro (hc | hc | hc)
          · exact hls l (.head _) hc
          · exact hne hc
          · exact hrest hc

theorem splitOn_text (hu : u.WellFormed) : u.text.splitOn '\n' = [[' '].intercalate u.words, []] := by
  have htext : u.text = ['\n'].intercalate [[' '].intercalate u.words, []] := by
    simp [Uname.text, Uname.words, List.intercalate]
  rw [htext]
  refine List.splitOn_intercalate _ (fun l hl => ?_) (List.cons_ne_nil _ _)
  simp only [List.mem_cons, List.not_mem_nil, or_false] at hl
  rcases hl with rfl | rfl
  · exact not_mem_intercalate (by decide) hu.line
  · exact List.not_mem_nil

/-- The last word of the form with a blank on both sides. -/
theorem genericRelease_text (hu : u.WellFormed) (hrest : ∀ word ∈ u.rest.dropLast, isGenericRelease word = false) :
    genericRelease u.text = ([u.release, u.nodename].find? isGenericRelease).getD [] := by
  have hsplit : ([' '].intercalate u.words).splitOn ' ' = u.words :=
    List.splitOn_intercalate ' ' hu.blank (List.cons_ne_nil _ _)
  have hdrop : u.words.dropLast.tail = u.nodename :: u.release :: u.rest.dropLast := by
    rw [Uname.words, List.dropLast_cons_of_ne_nil (by simp), List.tail_cons, List.dropLast_cons_of_ne_nil (by simp),
      List.dropLast_cons_of_ne_nil hu.rest]
  have hnone : u.rest.dropLast.reverse.find? isGenericRelease = none := by
    rw [List.find?_eq_none]
    intro word hword
    rw [hrest word (List.mem_reverse.mp hword)]
    exact Bool.false_ne_true
  have hline : genericWord ([' '].intercalate u.words) = [u.release, u.nodename].find? isGenericRelease := by
    rw [genericWord, hsplit, hdrop, List.reverse_cons, List.reverse_cons, List.append_assoc, List.find?_append, hnone,
      Option.none_or]
    rfl
  have hempty : genericWord [] = none := rfl
  rw [genericRelease, splitOn_text hu, List.findSome?_cons, hline]
  cases [u.release, u.nodename].find? isGenericRelease with
  | none => simp [hempty]
  | some word => rfl

end Cmp50Unlock.Install
