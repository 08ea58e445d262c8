import Cmp50Unlock.Lib.Trace
import Cmp50Unlock.Scripts.Lemmas.SecondPass

/-!
# What a second pass has learned
-/

namespace Cmp50Unlock.Scripts

open Lib
open Lib.Script (Traces traces_pure traces_throw traces_attempt traces_sh traces_ite traces_forM)
open Shell (die orDie)

variable {α β : Type} {p : Pass α} {o : PassOp} {l l' : List PassEvent} {P : Done Signal o.Out → Prop}
  {S T : PassOp → Bool}

/-! ## Answers -/

/-- A command has come to its end with such an answer. -/
def Answered (log : List PassEvent) (o : PassOp) (P : Done Signal o.Out → Prop) : Prop :=
  ∃ d, ⟨o, d⟩ ∈ log ∧ d.signal = none ∧ P d

theorem Answered.mono {P' : Done Signal o.Out → Prop} (h : Answered l o P) (hP : ∀ d, P d → P' d) :
    Answered l o P' := by
  obtain ⟨d, hmem, hsignal, hd⟩ := h
  exact ⟨d, hmem, hsignal, hP d hd⟩

theorem Answered.sub (h : Answered l o P) (hsub : l ⊆ l') : Answered l' o P := by
  obtain ⟨d, hmem, hd⟩ := h
  exact ⟨d, hsub hmem, hd⟩

theorem Answered.later (h : Answered l' o P) : Answered (l' ++ l) o P := h.sub (List.subset_append_left l' l)

theorem Answered.earlier (h : Answered l o P) : Answered (l' ++ l) o P := h.sub (List.subset_append_right l' l)

/-- All commands are of a kind. -/
def Only (S : PassOp → Bool) (log : List PassEvent) : Prop := ∀ event ∈ log, S event.1 = true

theorem only_nil : Only S [] := fun _ hmem => absurd hmem List.not_mem_nil

theorem Only.append (hl : Only S l) (hl' : Only S l') : Only S (l' ++ l) := by
  intro event hmem
  rcases List.mem_append.mp hmem with hmem | hmem
  · exact hl' event hmem
  · exact hl event hmem

theorem only_singleton {d : Done Signal o.Out} (ho : S o = true) : Only S [⟨o, d⟩] :=
  List.forall_mem_cons.mpr ⟨ho, only_nil⟩

/-! ## Rules -/

/-- What a part of the script with commands of a kind has learned when it returns. It does not exit with success. -/
abbrev Learns (S : PassOp → Bool) (p : Pass α) (Q : α → List PassEvent → Prop) : Prop :=
  Traces p (fun a l => Q a l ∧ Only S l) fun n l => n ≠ 0 ∧ Only S l

variable {Q Q' : α → List PassEvent → Prop}

theorem Learns.mono (h : Learns S p Q) (hQ : ∀ a l, Q a l → Q' a l) : Learns S p Q' :=
  Traces.mono h (fun a l hl => ⟨hQ a l hl.1, hl.2⟩) fun _ _ => id

theorem Learns.widen (h : Learns S p Q) (hST : ∀ o, S o = true → T o = true) : Learns T p Q :=
  Traces.mono h (fun _ _ hl => ⟨hl.1, fun event hmem => hST _ (hl.2 event hmem)⟩)
    fun _ _ hl => ⟨hl.1, fun event hmem => hST _ (hl.2 event hmem)⟩

theorem learns_pure {a : α} (h : Q a []) : Learns S (pure a) Q := traces_pure ⟨h, only_nil⟩

theorem Learns.bind {f : α → Pass β} {Q' : β → List PassEvent → Prop} (h : Learns S p Q)
    (hf : ∀ a l, Q a l → Learns S (f a) fun b l' => Q' b (l' ++ l)) : Learns S (p >>= f) Q' := by
  refine Traces.bind h (fun a l hl => ?_) fun _ _ => id
  exact Traces.mono (hf a l hl.1) (fun b l' hl' => ⟨hl'.1, hl.2.append hl'.2⟩)
    fun n l' hl' => ⟨hl'.1, hl.2.append hl'.2⟩

/-- What follows may exit with success. -/
theorem Learns.andThen {f : α → Pass β} {Q' : β → List PassEvent → Prop} {E : Nat → List PassEvent → Prop}
    (h : Learns S p Q) (hf : ∀ a l, Q a l → Only S l →
      Traces (f a) (fun b l' => Q' b (l' ++ l)) fun n l' => E n (l' ++ l))
    (hE : ∀ n l, n ≠ 0 → Only S l → E n l) : Traces (p >>= f) Q' E :=
  Traces.bind h (fun a l hl => hf a l hl.1 hl.2) fun n l hl => hE n l hl.1 hl.2

theorem learns_attempt (ho : S o = true) : Learns S (attempt o) fun d l => Answered l o fun d' => d' = d :=
  traces_attempt exitStatus_ne_zero (fun d hsignal => ⟨⟨d, .head _, hsignal, rfl⟩, only_singleton ho⟩)
    fun _ _ hn => ⟨hn, only_singleton ho⟩

theorem learns_sh (ho : S o = true) : Learns S (sh o) fun out l => Answered l o fun d => d.status = 0 ∧ d.out = out :=
  traces_sh exitStatus_ne_zero (fun d hsignal hstatus => ⟨⟨d, .head _, hsignal, hstatus, rfl⟩, only_singleton ho⟩)
    fun _ _ hn => ⟨hn, only_singleton ho⟩

theorem learns_ite {c : Prop} [Decidable c] {q : Pass α} (hp : c → Learns S p Q) (hq : ¬c → Learns S q Q) :
    Learns S (if c then p else q) Q := traces_ite hp hq

theorem learns_forM {f : β → Pass PUnit} {bs : List β} {F : β → List PassEvent → Prop}
    (hf : ∀ b ∈ bs, Learns S (f b) fun _ => F b) (hF : ∀ b l l', F b l → l ⊆ l' → F b l') :
    Learns S (bs.forM f) fun _ l => ∀ b ∈ bs, F b l := by
  refine traces_forM hf (fun b l₁ l l₂ h => hF b l _ h fun event hmem => ?_) only_nil (fun _ _ => Only.append)
    fun _ _ _ hl hl' => ⟨hl'.1, hl.append hl'.2⟩
  simp [hmem]

/-- A kind that contains the commands of `die`. -/
def Speaks (S : PassOp → Bool) : Prop := ∀ line, S (.logError line) = true

theorem learns_die {message : String} (hS : Speaks S) : Learns S (die message : Pass α) Q :=
  (learns_sh (hS _)).bind fun _ _ _ => traces_throw ⟨Nat.one_ne_zero, only_nil⟩

theorem learns_orDie {holds : Bool} {message : String} (hS : Speaks S) :
    Learns S (orDie holds message) fun _ _ => holds = true := by
  cases holds with
  | true => exact learns_pure rfl
  | false => exact learns_die hS

/-- `command || die message` -/
theorem learns_test {f : Done Signal o.Out → Bool} {message : String} (ho : S o = true) (hS : Speaks S) :
    Learns S (do let d ← attempt o; orDie (f d) message) fun _ l => Answered l o fun d => f d = true := by
  refine (learns_attempt ho).bind fun d l hd => (learns_orDie hS).mono fun _ l' hf => hd.earlier.mono ?_
  rintro _ rfl
  exact hf

end Cmp50Unlock.Scripts
