import Cmp50Unlock.IdleGovernor.Files
import Cmp50Unlock.Lib.Json
import Mathlib.Algebra.Group.Int.Defs

/-!
# How a request is decoded

`encoding/json` as `LoadControl` uses it on `control.json`, and the file system while that file holds a given text. What
the decoder makes of a text that is not a JSON document is left open: some error, or a value and what follows it.
-/

namespace Cmp50Unlock.IdleGovernor

open Lib

/-- A key without its case. The names of the fields have no letter that a character outside ASCII is folded to. -/
def foldKey (key : List Char) : List Char := key.map Char.toLower

/-- A value for a field; `null` leaves the field as it is. -/
def decodeEnabled (control : Control) : Json → Option Control
  | .null => some control
  | .bool enabled => some { control with enabled := enabled }
  | _ => none

def decodeProfile (control : Control) : Json → Option Control
  | .null => some control
  | .str profile => some { control with profile := String.ofList profile }
  | _ => none

/-- `int` has 64 bits. -/
def decodeIdleFanPercent (control : Control) : Json → Option Control
  | .null => some control
  | .int percent => if -2 ^ 63 ≤ percent ∧
      percent < 2 ^ 63 then some { control with idleFanPercent := percent } else none
  | _ => none

/-- A member of the document, with `DisallowUnknownFields`. -/
def decodeMember (control : Control) (member : List Char × Json) : Option Control :=
  if foldKey member.1 = "enabled".toList then decodeEnabled control member.2
  else if foldKey member.1 = "profile".toList then decodeProfile control member.2
  else if foldKey member.1 = "idle_fan_percent".toList then decodeIdleFanPercent control member.2
  else none

/-- `Decode(&control)` on a document; `none` is an error. -/
def decodeDocument : Json → Option Control
  | .null => some ⟨false, "", 0⟩
  | .obj members => members.foldlM decodeMember ⟨false, "", 0⟩
  | _ => none

/-- What the decoder answers for a document. -/
def Decoded (v : Json) (answer : Except GoError Control) : Prop :=
  match decodeDocument v with
  | some control => answer = .ok control
  | none => ∃ err, answer = .error err

/-- The calls of `LoadControl` while `control.json` is a regular file with the content `text`. -/
def RequestStep (text : String) : (o : FileOp) → Unit → o.Ans → Unit → Prop
  | .openDirectory, _, err, _ => err = none
  | .openControl, _, err, _ => err = none
  | .stat, _, info, _ => info = .ok ⟨true, (bytesOf text).length⟩
  | .readAll, _, data, _ => data = .ok ((bytesOf text).take (maxControlSize + 1))
  | .decode data, _, answer, _ => data = bytesOf text → ∀ v, Json.loads text = some v → Decoded v answer
  | .decodeNext data, _, atEnd, _ => data = bytesOf text → (Json.loads text).isSome → atEnd = true
  | _, _, _, _ => True

/-! ## The request is loaded -/

theorem length_toList_loop (bytes : ByteArray) (i : Nat) (r : List UInt8) :
    (ByteArray.toList.loop bytes i r).length = (bytes.size - i) + r.length := by
  fun_induction ByteArray.toList.loop bytes i r with
  | case1 i r hi ih =>
      rw [ih, List.length_cons]
      omega
  | case2 i r hi =>
      rw [List.length_reverse]
      omega

theorem length_bytesOf (s : String) : (bytesOf s).length = s.utf8ByteSize := length_toList_loop s.toUTF8 0 []

variable {text : String} {control : Control}

/-- A document of a request, which is not too large. -/
structure Holds (text : String) (control : Control) : Prop where
  size : (bytesOf text).length ≤ maxControlSize
  document : ∃ v, Json.loads text = some v ∧ decodeDocument v = some control

/-- A call with one possible answer. -/
theorem exec_request {α : Type} {o : FileOp} {answer : o.Ans} {f : o.Ans → Files α} {r : α}
    (h : ∀ a, RequestStep text o () a () ↔ a = answer) :
    (Prog.lift o >>= f).Exec (RequestStep text) () r () ↔ (f answer).Exec (RequestStep text) () r () := by
  simp only [Prog.exec_bind, Prog.exec_lift]
  constructor
  · rintro ⟨a, ⟨⟩, ha, hf⟩
    rw [(h a).mp ha] at hf
    exact hf
  · intro hf
    exact ⟨answer, ⟨⟩, (h answer).mpr rfl, hf⟩

theorem exec_decodeControl (h : Holds text control) (r : Except GoError Control) :
    (decodeControl (bytesOf text)).Exec (RequestStep text) () r () ↔ r = acceptControl control := by
  obtain ⟨v, hloads, hdecode⟩ := h.document
  have hanswer : ∀ answer, RequestStep text (.decode (bytesOf text)) () answer () ↔ answer = .ok control := by
    intro answer
    simp only [RequestStep, hloads, forall_const, Option.some.injEq, forall_eq', Decoded, hdecode]
  have hend : ∀ atEnd, RequestStep text (.decodeNext (bytesOf text)) () atEnd () ↔ atEnd = true := by
    intro atEnd
    simp only [RequestStep, hloads, Option.isSome_some, forall_const]
  rw [decodeControl, decode, exec_request hanswer]
  dsimp only
  rw [decodeNext, exec_request hend]
  simp

theorem exec_readControl (h : Holds text control) (r : Except GoError Control) :
    readControl.Exec (RequestStep text) () r () ↔ r = acceptControl control := by
  have hsize := h.size
  have htake : (bytesOf text).take (maxControlSize + 1) = bytesOf text := List.take_of_length_le (by omega)
  have hlarge : ¬((bytesOf text).length : Int) > maxControlSize := by omega
  have hread : ∀ data, RequestStep text .readAll () data () ↔ data = .ok (bytesOf text) := by
    intro data
    rw [RequestStep, htake]
  rw [readControl, stat, exec_request fun _ => Iff.rfl]
  simp only [not_true_eq_false, ↓reduceIte, if_neg hlarge]
  rw [readAll, exec_request hread]
  simp only [if_neg (Nat.not_lt.mpr hsize)]
  exact exec_decodeControl h r

/-- `LoadControl` makes its checks on the request that the file holds, and nothing else can go wrong. -/
theorem loadControl_iff (h : Holds text control) (r : Except GoError Control) :
    loadControl.Exec (RequestStep text) () r () ↔ r = acceptControl control := by
  rw [loadControl, openDirectory, exec_request fun _ => Iff.rfl]
  dsimp only
  rw [openControl, exec_request fun _ => Iff.rfl]
  exact exec_readControl h r

end Cmp50Unlock.IdleGovernor
