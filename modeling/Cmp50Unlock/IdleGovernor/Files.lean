import Cmp50Unlock.Lib.Wp
import Cmp50Unlock.IdleGovernor.Basic

/-!
# The control directory

The request that the panel leaves in `control.json`, and the status files that the governor writes beside it. A
program of this level issues system calls. Any of them may fail; what an answer says of the status files is true
of them, and the content of the request is whatever the panel wrote.
-/

namespace Cmp50Unlock.IdleGovernor

open Lib

/-! ## Text -/

def hexDigits (width n : Nat) : String := String.ofList (List.leftpad width '0' (Nat.toDigits 16 n))

/-- `unicode.IsSpace` -/
def isSpace (ch : Char) : Bool :=
  let n := ch.toNat
  (9 ≤ n && n ≤ 13) || n == 0x20 || n == 0x85 || n == 0xA0 || n == 0x1680 || (0x2000 ≤ n && n ≤ 0x200A) ||
    n == 0x2028 || n == 0x2029 || n == 0x202F || n == 0x205F || n == 0x3000

/-- `strings.TrimSpace` -/
def trimSpace (s : String) : String :=
  String.ofList ((s.toList.dropWhile isSpace).reverse.dropWhile isSpace).reverse

/-- The bytes of a string, which is what Go indexes and writes. -/
def bytesOf (s : String) : List UInt8 := s.toUTF8.toList

/-! ## System calls -/

structure FileInfo where
  isRegular : Bool
  size : Int

/-- The calls that go out of the process. `openControl`, `stat` and `readAll` are about the request;
`decode` and `decodeNext` are the two calls of the JSON decoder on what was read. -/
inductive FileOp where
  | openDirectory
  | openControl
  | stat
  | readAll
  | decode (data : List UInt8)
  | decodeNext (data : List UInt8)
  | randRead
  | create (name : String)
  | writeString (name : String) (content : List UInt8)
  | sync (name : String)
  | close (name : String)
  | renameat (name newName : String)
  | unlinkat (name : String)

/-- The answer to a call. `decodeNext` answers whether it found the end of the data. -/
@[reducible] def FileOp.Ans : FileOp → Type
  | .stat => Except GoError FileInfo
  | .readAll | .randRead => Except GoError (List UInt8)
  | .decode _ => Except GoError Control
  | .decodeNext _ => Bool
  | _ => Option GoError

abbrev Files := Prog FileOp FileOp.Ans

/-- The content of the files in the directory, by name. -/
abbrev Dir := String → Option (List UInt8)

def Dir.set (d : Dir) (name : String) (content : Option (List UInt8)) : Dir :=
  fun n => if n = name then content else d n

/-- A call on the status files. A failing write may have written a part. -/
def FileStep : (o : FileOp) → Dir → o.Ans → Dir → Prop
  | .create name, d, none, d' => d name = none ∧ d' = d.set name (some [])
  | .writeString name content, d, none, d' => d' = d.set name ((d name).map (· ++ content))
  | .writeString name content, d, some _, d' => ∃ n, d' = d.set name ((d name).map (· ++ content.take n))
  | .renameat name newName, d, none, d' => (d name).isSome ∧ d' = (d.set newName (d name)).set name none
  | .unlinkat name, d, none, d' => (d name).isSome ∧ d' = d.set name none
  | .unlinkat name, d, some err, d' => (err.isNotExist → d name = none) ∧ d' = d
  | _, d, _, d' => d' = d

def openDirectory : Files (Option GoError) := Prog.lift FileOp.openDirectory

def openControl : Files (Option GoError) := Prog.lift FileOp.openControl

def stat : Files (Except GoError FileInfo) := Prog.lift FileOp.stat

def readAll : Files (Except GoError (List UInt8)) := Prog.lift FileOp.readAll

def decode (data : List UInt8) : Files (Except GoError Control) := Prog.lift (FileOp.decode data)

def decodeNext (data : List UInt8) : Files Bool := Prog.lift (FileOp.decodeNext data)

def randRead : Files (Except GoError (List UInt8)) := Prog.lift FileOp.randRead

def create (name : String) : Files (Option GoError) := Prog.lift (FileOp.create name)

def writeString (name : String) (content : List UInt8) : Files (Option GoError) :=
  Prog.lift (FileOp.writeString name content)

def sync (name : String) : Files (Option GoError) := Prog.lift (FileOp.sync name)

def close (name : String) : Files (Option GoError) := Prog.lift (FileOp.close name)

def renameat (name newName : String) : Files (Option GoError) := Prog.lift (FileOp.renameat name newName)

def unlinkat (name : String) : Files (Option GoError) := Prog.lift (FileOp.unlinkat name)

section
variable {S : FileOp → Prop}

@[simp] theorem within_openDirectory {Q : Option GoError → Prop} :
    openDirectory.Within S Q ↔ S .openDirectory ∧ ∀ a, Q a := Prog.within_lift

@[simp] theorem within_openControl {Q : Option GoError → Prop} :
    openControl.Within S Q ↔ S .openControl ∧ ∀ a, Q a := Prog.within_lift

@[simp] theorem within_stat {Q : Except GoError FileInfo → Prop} :
    stat.Within S Q ↔ S .stat ∧ ∀ a, Q a := Prog.within_lift

@[simp] theorem within_readAll {Q : Except GoError (List UInt8) → Prop} :
    readAll.Within S Q ↔ S .readAll ∧ ∀ a, Q a := Prog.within_lift

@[simp] theorem within_decode {data} {Q : Except GoError Control → Prop} :
    (decode data).Within S Q ↔ S (.decode data) ∧ ∀ a, Q a := Prog.within_lift

@[simp] theorem within_decodeNext {data} {Q : Bool → Prop} :
    (decodeNext data).Within S Q ↔ S (.decodeNext data) ∧ ∀ a, Q a := Prog.within_lift

end

/-! ## The request -/

def maxControlSize : Nat := 4096

/-- The checks on a decoded request. -/
def acceptControl (control : Control) : Except GoError Control :=
  if profiles.lookup control.profile = none then .error (.new "unsupported CMP50 profile")
  else if control.idleFanPercent ≠ 0 ∧ (control.idleFanPercent < 15 ∨ control.idleFanPercent > 100) then
    .error (.new "idle fan must be automatic (0) or 15..100 percent")
  else .ok control

/-- The part of `LoadControl` that decodes what was read. -/
def decodeControl (data : List UInt8) : Files (Except GoError Control) := do
  match ← decode data with
  | .error err => return .error (.wrap "decode control request" err)
  | .ok control =>
      if ← decodeNext data then return acceptControl control
      else return .error (.new "control request contains trailing JSON")

/-- The part of `LoadControl` that reads the open file. -/
def readControl : Files (Except GoError Control) := do
  match ← stat with
  | .error _ => return .error (.new "control request must be a regular file")
  | .ok info =>
      if ¬ info.isRegular then return .error (.new "control request must be a regular file")
      else if info.size > maxControlSize then return .error (.new "control request is too large")
      else
        match ← readAll with
        | .error err => return .error err
        | .ok data =>
            if data.length > maxControlSize then return .error (.new "control request is too large")
            else decodeControl data

def loadControl : Files (Except GoError Control) := do
  match ← openDirectory with
  | some err => return .error err
  | none =>
      match ← openControl with
      | some err => return .error err
      | none => readControl

/-! ## The status files -/

/-- The name that `writeAtomic` writes to first. -/
def temporaryName (name : String) (random : List UInt8) : String :=
  "." ++ name ++ "-" ++ String.join (random.map fun b => hexDigits 2 b.toNat) ++ ".tmp"

/-- Fill the temporary file and give it its name. -/
def writeTemporary (temporary name : String) (content : List UInt8) : Files (Option GoError) := do
  match ← writeString temporary content with
  | some err =>
      let _ ← close temporary
      return some err
  | none =>
      match ← sync temporary with
      | some err =>
          let _ ← close temporary
          return some err
      | none =>
          match ← close temporary with
          | some err => return some err
          | none => renameat temporary name

def writeAtomic (name : String) (content : List UInt8) : Files (Option GoError) := do
  match ← openDirectory with
  | some err => return some err
  | none =>
      match ← randRead with
      | .error err => return some err
      | .ok random =>
          match ← create (temporaryName name random) with
          | some err => return some err
          | none => do
              let result ← writeTemporary (temporaryName name random) name content
              let _ ← unlinkat (temporaryName name random)
              return result

def remove (name : String) : Files (Option GoError) := do
  match ← openDirectory with
  | some err => return if err.isNotExist then none else some err
  | none =>
      match ← unlinkat name with
      | some err => return if err.isNotExist then none else some err
      | none => return none

/-- `StatusWriter.Active` -/
def statusActive (control : Control) : Files (Option GoError) := do
  match ← writeAtomic "active-profile" (bytesOf (control.profile ++ "\n")) with
  | some err => return some err
  | none =>
      match ← writeAtomic "active-fan-percent" (bytesOf (toString control.idleFanPercent ++ "\n")) with
      | some err => return some err
      | none => remove "last-error"

/-- `StatusWriter.Inactive` -/
def statusInactive : Files (Option GoError) := do
  match ← remove "active-profile" with
  | some err => return some err
  | none => remove "active-fan-percent"

/-- `StatusWriter.Error` -/
def statusError (err : GoError) : Files Unit := do
  let _ ← statusInactive
  let _ ← writeAtomic "last-error" ((bytesOf (trimSpace err.text)).take 1000 ++ bytesOf "\n")

/-! ## What `LoadControl` accepts -/

/-- A request that passes the checks of `LoadControl`. -/
structure Control.Loadable (control : Control) : Prop where
  profile : control.profile ∈ profiles.map Prod.fst
  fan : control.idleFanPercent = 0 ∨ 15 ≤ control.idleFanPercent ∧ control.idleFanPercent ≤ 100

theorem mem_profiles {name : String} {n : Nat} (h : profiles.lookup name = some n) :
    name ∈ profiles.map Prod.fst := by
  obtain ⟨l₁, l₂, hl, -⟩ := List.lookup_eq_some_iff.mp h
  exact List.mem_map.mpr ⟨(name, n), hl ▸ List.mem_append_right l₁ (.head l₂), rfl⟩

theorem acceptControl_loadable {control control' : Control} (h : acceptControl control = .ok control') :
    control'.Loadable := by
  unfold acceptControl at h
  split at h
  · cases h
  next hprofile =>
    split at h
    · cases h
    next hfan =>
      cases h
      obtain ⟨n, hn⟩ := Option.ne_none_iff_exists'.mp hprofile
      exact ⟨mem_profiles hn, by omega⟩

/-- The answer of `LoadControl`: an error, or a request that passes the checks. -/
def Loads (r : Except GoError Control) : Prop := ∀ control, r = .ok control → control.Loadable

@[simp] theorem loads_error {err : GoError} : Loads (.error err) := fun _ h => by cases h

@[simp] theorem loads_acceptControl {control : Control} : Loads (acceptControl control) :=
  fun _ h => acceptControl_loadable h

theorem decodeControl_loads (data : List UInt8) : (decodeControl data).Within (fun _ => True) Loads := by
  simp only [decodeControl, Prog.within_bind, within_decode, true_and]
  rintro (err | control)
  · exact loads_error
  · simp only [Prog.within_bind, within_decodeNext, true_and]
    rintro (_ | _)
    · exact loads_error
    · exact loads_acceptControl

theorem readControl_loads : readControl.Within (fun _ => True) Loads := by
  simp only [readControl, Prog.within_bind, within_stat, true_and]
  rintro (err | info)
  · exact loads_error
  · simp only [Prog.within_ite, Prog.within_bind, within_readAll, true_and]
    refine ⟨fun _ => loads_error, fun _ => ⟨fun _ => loads_error, fun _ => ?_⟩⟩
    rintro (err | data)
    · exact loads_error
    · simp only [Prog.within_ite]
      exact ⟨fun _ => loads_error, fun _ => decodeControl_loads data⟩

theorem loadControl_loads : loadControl.Within (fun _ => True) Loads := by
  simp only [loadControl, Prog.within_bind, within_openDirectory, true_and]
  rintro (_ | err)
  · simp only [Prog.within_bind, within_openControl, true_and]
    rintro (_ | err)
    · exact readControl_loads
    · exact loads_error
  · exact loads_error

end Cmp50Unlock.IdleGovernor
