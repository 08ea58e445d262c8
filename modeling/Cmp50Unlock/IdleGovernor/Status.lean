import Cmp50Unlock.IdleGovernor.Run

/-!
# What the status files tell

The panel reads the status files, not the memory of the governor. Runs in which the calls on them succeed, and what
the files should say in such a run.
-/

namespace Cmp50Unlock.IdleGovernor

open Lib

/-! ## Calls that succeed -/

/-- A call on the status files succeeds. Removing a file that is not there counts as a success. -/
def Succeeds : (o : FileOp) → o.Ans → Prop
  | .openDirectory, err | .create _, err | .writeString _ _, err | .sync _, err | .close _, err
  | .renameat _ _, err => err = none
  | .randRead, r => ∃ random : List UInt8, r = .ok random
  | .unlinkat _, err => ∀ e : GoError, err = some e → e.isNotExist
  | _, _ => True

/-- A call on the status files, which succeeds. -/
def FileOk (o : FileOp) (d : Dir) (a : o.Ans) (d' : Dir) : Prop := FileStep o d a d' ∧ Succeeds o a

/-- Every call of an operation on the status files succeeds. -/
def Reliable (d d' : Dir) : (o : Op) → o.Ans → Prop
  | .statusActive control, err => (statusActive control).Exec FileOk d err d'
  | .statusInactive, err => statusInactive.Exec FileOk d err d'
  | .statusError e, _ => (statusError e).Exec FileOk d () d'
  | _, _ => True

/-- One operation of a governor whose calls on the status files succeed. -/
def StatusStep (o : Op) (w : World) (a : o.Ans) (w' : World) : Prop :=
  Step anyAnswer o w a w' ∧ Reliable w.dir w'.dir o a

/-- A run in which the calls on the status files succeed comes to `l` in `w`. -/
abbrev StatusComesTo (c : Config) (cards : Int → Card) (dir : Dir) (l : Label) (w : World) : Prop :=
  Goto.Reaches StatusStep (run c) .entry (start c cards dir) l w

/-- A run in which the calls on the status files succeed ends in `w`. -/
abbrev StatusEnds (c : Config) (cards : Int → Card) (dir : Dir) (w : World) : Prop :=
  Goto.Call StatusStep (run c) .entry (start c cards dir) () w

/-! ## What a log says of the status files -/

/-- `fail` was called, and no request was published since. -/
def failed : List Event → Bool
  | [] => false
  | ⟨.statusError _, _⟩ :: _ => true
  | ⟨.statusActive _, none⟩ :: _ => false
  | _ :: log => failed log

/-- The answers to the looks at the request, the newest first. -/
def looks : List Event → List (Except GoError Control)
  | [] => []
  | ⟨.loadControl, r⟩ :: log => r :: looks log
  | _ :: log => looks log

/-- There was one look at the request so far, the first one, and it found no file. -/
def FoundNothing (log : List Event) : Prop := ∃ err, looks log = [.error err] ∧ err.isNotExist

/-! ## The files -/

/-- A status file of an active governor was there. -/
def Stale (dir : Dir) : Prop := dir "active-profile" ≠ none ∨ dir "active-fan-percent" ≠ none

/-- The files show the request. -/
structure Shows (dir : Dir) (control : Control) : Prop where
  profile : dir "active-profile" = some (bytesOf (control.profile ++ "\n"))
  fan : dir "active-fan-percent" = some (bytesOf (toString control.idleFanPercent ++ "\n"))

/-- The status files say what the governor does. -/
structure Told (running : Prop) (w : World) : Prop where
  profile : w.dir "active-profile" ≠ none ↔ running ∧ w.gov.active
  fan : w.dir "active-fan-percent" ≠ none ↔ running ∧ w.gov.active
  shows : running ∧ w.gov.active → Shows w.dir w.gov.control
  noError : running ∧ w.gov.active → w.dir "last-error" = none
  error : failed w.log → w.dir "last-error" ≠ none

end Cmp50Unlock.IdleGovernor
