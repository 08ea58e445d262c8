import Cmp50Unlock.Stockflow.World

/-!
# What a call takes and gives back

The log of a call says what the call created, allocated and mapped, and what it released. An allocator fixes
which of these requests succeed in a call that makes each of them once.
-/

namespace Cmp50Unlock.Stockflow

open Lib

/-! ## Resources -/

/-- What a call can take: a descriptor, the memory behind one, a mapping of it, the copy of the stock
signature. -/
inductive Resource where
  | memdesc (m : Memdesc)
  | memory (m : Memdesc)
  | mapping (m : Memdesc)
  | stockCopy
  deriving DecidableEq

/-- The descriptor that a resource belongs to. -/
def Resource.owner : Resource → Option Memdesc
  | .memdesc m | .memory m | .mapping m => some m
  | .stockCopy => none

/-- What the operation took. -/
def Event.takes : Event → Option Resource
  | ⟨.hal (.memdescCreate m _), .ok⟩ => some (.memdesc m)
  | ⟨.tagAlloc m, (.ok, _)⟩ => some (.memory m)
  | ⟨.test (.memdescMapInternal m), true⟩ => some (.mapping m)
  | ⟨.test (.portMemAllocStock _), true⟩ => some .stockCopy
  | _ => none

/-- What the operation released. -/
def Event.releases : Event → Option Resource
  | ⟨.act (.memdescDestroy m), _⟩ => some (.memdesc m)
  | ⟨.act (.memdescFree m), _⟩ => some (.memory m)
  | ⟨.act (.memdescUnmapInternal m), _⟩ => some (.mapping m)
  | ⟨.act .portMemFreeStock, _⟩ => some .stockCopy
  | _ => none

/-- How often `r` was taken. -/
def taken (r : Resource) (log : List Event) : Nat := log.countP fun e => e.takes = some r

/-- How often `r` was released. -/
def released (r : Resource) (log : List Event) : Nat := log.countP fun e => e.releases = some r

/-- How many of `r` are held; a release when none is held has no effect. -/
def held (r : Resource) : List Event → Nat
  | [] => 0
  | e :: log => if e.takes = some r then held r log + 1 else if e.releases = some r then held r log - 1 else held r log

section
variable {r : Resource} {e : Event} {log : List Event}

@[simp] theorem taken_nil : taken r [] = 0 := rfl

@[simp] theorem released_nil : released r [] = 0 := rfl

@[simp] theorem taken_cons : taken r (e :: log) = taken r log + if e.takes = some r then 1 else 0 := by
  simp [taken, List.countP_cons]

@[simp] theorem released_cons : released r (e :: log) = released r log + if e.releases = some r then 1 else 0 := by
  simp [released, List.countP_cons]

end

/-! ## Allocators -/

/-- The answers of the allocator in one call. -/
structure Allocator where
  memdescCreate : NvStatus
  memdescTagAlloc : NvStatus × Backing
  memdescMapInternal : Bool
  portMemAllocNonPaged : Bool

/-- The answer is that of the allocator. -/
def Allocator.Admits (al : Allocator) : (o : Op) → o.Ans → Prop
  | .hal (.memdescCreate _ _), a => a = al.memdescCreate
  | .tagAlloc _, a => a = al.memdescTagAlloc
  | .test (.memdescMapInternal _), a => a = al.memdescMapInternal
  | .test (.portMemAllocStock _), a => a = al.portMemAllocNonPaged
  | _, _ => True

/-- One operation of the driver with this allocator. -/
abbrev Allocator.Step (al : Allocator) := StepWith fun _ => al.Admits

section
variable {al : Allocator}

@[simp] theorem admits_memdescCreate {m size} {a : NvStatus} :
    al.Admits (.hal (.memdescCreate m size)) a ↔ a = al.memdescCreate := Iff.rfl

@[simp] theorem admits_tagAlloc {m} {a : NvStatus × Backing} :
    al.Admits (.tagAlloc m) a ↔ a = al.memdescTagAlloc := Iff.rfl

@[simp] theorem admits_memdescMapInternal {m} {a : Bool} :
    al.Admits (.test (.memdescMapInternal m)) a ↔ a = al.memdescMapInternal := Iff.rfl

@[simp] theorem admits_portMemAllocStock {size} {a : Bool} :
    al.Admits (.test (.portMemAllocStock size)) a ↔ a = al.portMemAllocNonPaged := Iff.rfl

@[simp] theorem admits_act {c : Act} {a} : al.Admits (.act c) a ↔ True := Iff.rfl

@[simp] theorem admits_getGsp {g : KernelGsp} : al.Admits .getGsp g ↔ True := Iff.rfl

end

end Cmp50Unlock.Stockflow
