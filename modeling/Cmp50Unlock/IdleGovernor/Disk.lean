import Cmp50Unlock.IdleGovernor.Files

/-!
# The control directory on disk

The names in the directory and the files behind them: a file that is open is written whatever its name is by then. What
the calls of the status files do to it is what POSIX says of them. Any call may fail, and a write that fails may have
written a part.
-/

namespace Cmp50Unlock.IdleGovernor

open Lib

/-- What a name stands for. -/
inductive Entry where
  | file (inode : Nat)
  | link (target : String)
  | directory
  deriving DecidableEq

/-- Two names of one file. -/
def sameFile : Option Entry → Option Entry → Bool
  | some (.file i), some (.file j) => i == j
  | _, _ => false

/-- The directory, with the content of the files and the file that the writer has open. `live` are the files that exist
anywhere; every file of the directory is one of them. -/
structure Disk where
  entries : String → Option Entry
  data : Nat → List UInt8
  live : Nat → Prop
  fd : Option Nat
  entry_live : ∀ {name inode}, entries name = some (.file inode) → live inode

/-- What a reader finds that opens a name. -/
inductive Seen where
  | file (content : List UInt8)
  | link (target : String)
  | directory

namespace Disk

variable (d : Disk)

def see (name : String) : Option Seen :=
  match d.entries name with
  | none => none
  | some (.file inode) => some (.file (d.data inode))
  | some (.link target) => some (.link target)
  | some .directory => some .directory

/-- A new file, which is open. -/
def create (name : String) (inode : Nat) : Disk where
  entries n := if n = name then some (.file inode) else d.entries n
  data i := if i = inode then [] else d.data i
  live i := i = inode ∨ d.live i
  fd := some inode
  entry_live {n i} h := by
    split at h
    · cases h; exact .inl rfl
    · exact .inr (d.entry_live h)

/-- Bytes are added to the file that is open. -/
def append (content : List UInt8) : Disk :=
  { d with data := fun i => if d.fd = some i then d.data i ++ content else d.data i }

def closeFd : Disk := { d with fd := none }

/-- Of two names of one file, neither is changed. -/
def rename (name newName : String) : Disk where
  entries n :=
    if sameFile (d.entries name) (d.entries newName) then d.entries n
    else if n = newName then d.entries name
    else if n = name then none
    else d.entries n
  data := d.data
  live := d.live
  fd := d.fd
  entry_live {n i} h := by
    split at h
    · exact d.entry_live h
    · split at h
      · exact d.entry_live h
      · split at h
        · cases h
        · exact d.entry_live h

def unlink (name : String) : Disk where
  entries n := if n = name then none else d.entries n
  data := d.data
  live := d.live
  fd := d.fd
  entry_live {n i} h := by
    split at h
    · cases h
    · exact d.entry_live h

end Disk

/-- A call on the directory. Where `U` holds, the name of a file that exists can be removed. -/
def DiskStep (U : Prop) : (o : FileOp) → Disk → o.Ans → Disk → Prop
  | .create name, d, none, d' => d.entries name = none ∧ ∃ inode, ¬d.live inode ∧ d' = d.create name inode
  | .writeString _ content, d, none, d' => d' = d.append content
  | .writeString _ content, d, some _, d' => ∃ n, d' = d.append (content.take n)
  | .close _, d, _, d' => d' = d.closeFd
  | .renameat name newName, d, none, d' => (d.entries name).isSome ∧ d' = d.rename name newName
  | .unlinkat name, d, none, d' => (d.entries name).isSome ∧ d' = d.unlink name
  | .unlinkat name, d, some err, d' => (err.isNotExist ∨ U → d.entries name = none) ∧ d' = d
  | _, d, _, d' => d' = d

/-- A moment in the middle of a call: a write that has written a part. -/
def Amid : FileOp → Disk → Disk → Prop
  | .writeString _ content, d, m => ∃ n, m = d.append (content.take n)
  | _, _, _ => False

/-- The program is in the state `m` at some moment of a run from `d`: before a call, in the middle of it, or at the end.
A process that is killed leaves the state of that moment. -/
def Moment {α : Type} (p : Files α) (d m : Disk) : Prop :=
  (∃ o, p.Issued (DiskStep False) d o m) ∨ (∃ o d₁, p.Issued (DiskStep False) d o d₁ ∧ Amid o d₁ m) ∨
    ∃ r, p.Exec (DiskStep False) d r m

end Cmp50Unlock.IdleGovernor
