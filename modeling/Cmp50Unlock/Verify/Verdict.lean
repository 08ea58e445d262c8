import Cmp50Unlock.Lib.Json

/-!
# The verdict

`verify.py`, which reads the report of the probe.
-/

namespace Cmp50Unlock.Verify

open Lib

/-- How a Python program ends early. The arguments of the message of `SystemExit` are kept apart from it. -/
inductive PyError where
  | systemExit (message : String) (args : List Json)
  | keyError (key : String)
  | typeError
  | jsonDecodeError

/-- `if condition: raise error` -/
def raiseIf (condition : Bool) (error : PyError) : Except PyError PUnit := if condition then .error error else .ok ⟨⟩

/-! ## Values in Python -/

/-- `v[key]` with a string -/
def subscript (v : Json) (key : String) : Except PyError Json :=
  match v with
  | .obj members => (Json.get? members key).elim (.error (.keyError key)) .ok
  | _ => .error .typeError

/-- The keys of a dictionary. -/
def keys (members : List (List Char × Json)) : List (List Char) := (members.map (·.1)).eraseDups

/-- What a loop over `v` visits. -/
def iterate (v : Json) : Except PyError (List Json) :=
  match v with
  | .arr items => .ok items
  | .obj members => .ok ((keys members).map .str)
  | .str chars => .ok (chars.map fun c => .str [c])
  | _ => .error .typeError

/-- `len(v)` -/
def len (v : Json) : Except PyError Nat := (iterate v).map List.length

/-- `v == n` with an integer -/
def eqInt (v : Json) (n : Int) : Bool :=
  match v with
  | .int m => m == n
  | .bool b => (if b then 1 else 0) == n
  | _ => false

/-- `v == s` with a string -/
def eqStr (v : Json) (s : String) : Bool :=
  match v with
  | .str chars => chars == s.toList
  | _ => false

def hashable : Json → Bool
  | .arr _ | .obj _ => false
  | _ => true

/-! ## The program -/

/-- The loop of `values_by_name`. -/
def valuesOf : List Json → Except PyError (List (Json × Json))
  | [] => return []
  | item :: items => do
      let name ← subscript item "name"
      let raw ← subscript item "raw"
      raiseIf (!hashable name) .typeError
      return (name, raw) :: (← valuesOf items)

def valuesByName (control : Json) : Except PyError (List (Json × Json)) := do
  valuesOf (← iterate (← subscript control "values"))

/-- `values.get(name)` -/
def getName (values : List (Json × Json)) (name : String) : Json :=
  ((values.reverse.find? fun entry => eqStr entry.1 name).map (·.2)).getD .null

/-- `any(item["raw"] != 0 for item in items)` -/
def anyRaw : List Json → Except PyError Bool
  | [] => return false
  | item :: items => do
      let raw ← subscript item "raw"
      if eqInt raw 0 then anyRaw items else return true

def checkStatus (control : Json) (message : String) : Except PyError PUnit := do
  let status ← subscript control "rm_status"
  raiseIf (!eqStr status "0x00000000") (.systemExit message [status])

/-- The issue rates: there are `n` of them, and all are zero. -/
def checkRates (control : Json) (n : Nat) (message : String) : Except PyError PUnit := do
  let values ← subscript control "values"
  raiseIf ((← len values) != n) (.systemExit message [])
  raiseIf (← anyRaw (← iterate values)) (.systemExit message [])

def checkNames (values : List (Json × Json)) : List (String × Int) → Except PyError PUnit
  | [] => return
  | (name, expected) :: rest => do
      raiseIf (!eqInt (getName values name) expected)
        (.systemExit "%s is %s, expected %s" [.str name.toList, getName values name, .int expected])
      checkNames values rest

def expectedGpu : List (String × Int) := [("CMP_SKU", 1), ("DISPLAY_ENABLED", 0)]

def expectedGr : List (String × Int) :=
  [("GPU_CORE_COUNT", 3584), ("RT_CORE_COUNT", 56), ("TENSOR_CORE_COUNT", 448)]

def passed : String := "PASS_CMP50HX_ISSUE_RATE_AND_COUNTS"

/-- The checks of `main`. -/
def checkReport (report : Json) : Except PyError PUnit := do
  let controls ← subscript report "controls"
  let v1 ← subscript controls "v1"
  let v2 ← subscript controls "v2"
  checkStatus v1 "v1 RM status is %s"
  checkStatus v2 "v2 RM status is %s"
  checkRates v1 9 "the nine v1 issue-rate values are not all full speed"
  checkRates v2 8 "the eight v2 issue-rate values are not all full speed"
  let gpu ← valuesByName (← subscript controls "gpu_info")
  let gr ← valuesByName (← subscript controls "gr_info")
  checkNames gpu expectedGpu
  checkNames gr expectedGr

/-- `main` on the text of the file, with what it prints. -/
def verify (source : String) : Except PyError String := do
  checkReport (← (Json.loads source).elim (.error .jsonDecodeError) .ok)
  return passed

end Cmp50Unlock.Verify
