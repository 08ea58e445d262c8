import Cmp50Unlock.Lib.Ptx
import Mathlib.Data.Fintype.Prod

/-!
# The kernel `vector_add`

The code in `PTX`, and what it does to the memory whatever the launch is and in whatever order its threads take their
steps.
-/

namespace Cmp50Unlock.CudaSmoke

open Lib Ptx

/-- The parameters of `vector_add`. -/
inductive Param where
  | a
  | b
  | out
  | count

/-- `.visible .entry vector_add`. The predicate `p` has the number 0, and the label `done` is that of `ret`. -/
def vectorAdd : List (Instr Param) :=
  [.ldParamU64 1 .a,
   .ldParamU64 2 .b,
   .ldParamU64 3 .out,
   .ldParamU32 1 .count,
   .movU32 2 .ctaid,
   .movU32 3 .ntid,
   .movU32 4 .tid,
   .madLoS32 2 2 3 4,
   .setpGeU32 0 2 1,
   .bra 0 18,
   .mulWideU32 4 2 4,
   .addS64 5 1 4,
   .addS64 6 2 4,
   .addS64 7 3 4,
   .ldGlobalF32 1 5,
   .ldGlobalF32 2 6,
   .addF32 3 1 2,
   .stGlobalF32 7 3,
   .ret]

/-- A launch of the kernel: the blocks of the grid, the threads of a block, the arguments, and the adder of the card. -/
structure Launch (F : Type) where
  grid : Nat
  block : Nat
  a : BitVec 64
  b : BitVec 64
  out : BitVec 64
  count : BitVec 32
  add : F → F → F

variable {F : Type}

namespace Launch

variable (l : Launch F)

/-- A thread, by its block and its place there. -/
abbrev Id := Fin l.grid × Fin l.block

def env (t : l.Id) : Env Param F where
  param
    | .a => l.a
    | .b => l.b
    | .out => l.out
    | .count => l.count.setWidth 64
  special
    | .ctaid => BitVec.ofNat 32 t.1
    | .ntid => BitVec.ofNat 32 l.block
    | .tid => BitVec.ofNat 32 t.2
  add := l.add

/-- The index that a thread computes. -/
def index (t : l.Id) : BitVec 32 := BitVec.ofNat 32 t.1 * BitVec.ofNat 32 l.block + BitVec.ofNat 32 t.2

end Launch

/-- The address of element `i` of a vector. -/
def element (base : BitVec 64) (i : BitVec 32) : BitVec 64 := base + i.setWidth 64 * 4

/-- The threads take their steps. -/
abbrev Runs (l : Launch F) : Pool l.Id (Memory F) (Thread F) → Pool l.Id (Memory F) (Thread F) → Prop :=
  Pool.Runs (Ptx.Step vectorAdd l.env)

/-- No thread can go on. -/
def Ended (l : Launch F) (s : Pool l.Id (Memory F) (Thread F)) : Prop :=
  ∀ s', ¬Pool.Step (Ptx.Step vectorAdd l.env) s s'

/-- The sum that belongs to index `i`. -/
def Launch.sum (l : Launch F) (m : Memory F) (i : BitVec 32) : Option F := do
  let x ← m (element l.a i)
  let y ← m (element l.b i)
  return l.add x y

/-- The vectors are mapped, and the result is apart from the others. -/
structure Launch.Buffers (l : Launch F) (m : Memory F) : Prop where
  mapped_a : ∀ i < l.count, ∃ x, m (element l.a i) = some x
  mapped_b : ∀ i < l.count, ∃ y, m (element l.b i) = some y
  mapped_out : ∀ i < l.count, ∃ z, m (element l.out i) = some z
  apart_a : ∀ i < l.count, ∀ j < l.count, element l.out i ≠ element l.a j
  apart_b : ∀ i < l.count, ∀ j < l.count, element l.out i ≠ element l.b j

/-- Nothing but the result has changed, and every element of it is as before or done. -/
structure Launch.Between (l : Launch F) (m h : Memory F) : Prop where
  frame : ∀ x, (∀ i < l.count, x ≠ element l.out i) → h x = m x
  result : ∀ i < l.count, h (element l.out i) = m (element l.out i) ∨ h (element l.out i) = l.sum m i

end Cmp50Unlock.CudaSmoke
