import Cmp50Unlock.Lib.Parallel

/-!
# Kernels in PTX

Some instructions of PTX for a thread with registers of its own and a memory of words that it shares. An instruction
changes registers, stores a word and says where to go on; an access to a word that is not mapped is a fault. The values
of `.f32` are of any type, and how they are added is left open.
-/

namespace Cmp50Unlock.Lib.Ptx

/-- The registers that tell the threads apart, in their first dimension. -/
inductive Special where
  | ctaid
  | ntid
  | tid

/-- Instructions over the kernel parameters `Param`. A register is its number, a label the number of its instruction. -/
inductive Instr (Param : Type) where
  | ldParamU64 (d : Nat) (x : Param)
  | ldParamU32 (r : Nat) (x : Param)
  | movU32 (r : Nat) (s : Special)
  | madLoS32 (r a b c : Nat)
  | setpGeU32 (p a b : Nat)
  | bra (p label : Nat)
  | mulWideU32 (d a : Nat) (n : BitVec 32)
  | addS64 (d a b : Nat)
  | ldGlobalF32 (f d : Nat)
  | addF32 (f a b : Nat)
  | stGlobalF32 (d f : Nat)
  | ret

/-- What a thread finds: the parameters as they are stored, the special registers, and the adder. -/
structure Env (Param F : Type) where
  param : Param → BitVec 64
  special : Special → BitVec 32
  add : F → F → F

structure Regs (F : Type) where
  pred : Nat → Bool
  b32 : Nat → BitVec 32
  b64 : Nat → BitVec 64
  f32 : Nat → F

/-- The words at their addresses, as far as they are mapped. -/
abbrev Memory (F : Type) := BitVec 64 → Option F

inductive Thread (F : Type) where
  | running (pc : Nat) (r : Regs F)
  | exited
  | faulted

variable {Param F : Type}

def Regs.setPred (r : Regs F) (p : Nat) (x : Bool) : Regs F := { r with pred := Function.update r.pred p x }

def Regs.set32 (r : Regs F) (d : Nat) (x : BitVec 32) : Regs F := { r with b32 := Function.update r.b32 d x }

def Regs.set64 (r : Regs F) (d : Nat) (x : BitVec 64) : Regs F := { r with b64 := Function.update r.b64 d x }

def Regs.setF32 (r : Regs F) (f : Nat) (x : F) : Regs F := { r with f32 := Function.update r.f32 f x }

/-! ## Instructions -/

/-- The registers after an instruction that is no fault. -/
def Instr.regs (env : Env Param F) (m : Memory F) (r : Regs F) : Instr Param → Option (Regs F)
  | .ldParamU64 d x => some (r.set64 d (env.param x))
  | .ldParamU32 d x => some (r.set32 d ((env.param x).setWidth 32))
  | .movU32 d s => some (r.set32 d (env.special s))
  | .madLoS32 d a b c => some (r.set32 d (r.b32 a * r.b32 b + r.b32 c))
  | .setpGeU32 p a b => some (r.setPred p (decide (r.b32 b ≤ r.b32 a)))
  | .bra _ _ => some r
  | .mulWideU32 d a n => some (r.set64 d ((r.b32 a).setWidth 64 * n.setWidth 64))
  | .addS64 d a b => some (r.set64 d (r.b64 a + r.b64 b))
  | .ldGlobalF32 f d => (m (r.b64 d)).map (r.setF32 f)
  | .addF32 f a b => some (r.setF32 f (env.add (r.f32 a) (r.f32 b)))
  | .stGlobalF32 d _ => (m (r.b64 d)).map fun _ => r
  | .ret => some r

def Instr.store (m : Memory F) (r : Regs F) : Instr Param → Memory F
  | .stGlobalF32 d f => Function.update m (r.b64 d) (some (r.f32 f))
  | _ => m

/-- Where the thread goes on, unless it exits. -/
def Instr.jump (pc : Nat) (r : Regs F) : Instr Param → Option Nat
  | .bra p label => some (if r.pred p then label else pc + 1)
  | .ret => none
  | _ => some (pc + 1)

/-- One step of a thread that is running. -/
def step (code : List (Instr Param)) (env : Env Param F) : Memory F × Thread F → Option (Memory F × Thread F)
  | (m, .running pc r) =>
      match code[pc]? with
      | none => some (m, .faulted)
      | some i =>
          match i.regs env m r, i.jump pc r with
          | none, _ => some (m, .faulted)
          | some _, none => some (i.store m r, .exited)
          | some r', some pc' => some (i.store m r, .running pc' r')
  | _ => none

/-- The threads of a kernel take steps in any order. -/
def Step {ι : Type} (code : List (Instr Param)) (env : ι → Env Param F) (t : ι) (c c' : Memory F × Thread F) : Prop :=
  step code (env t) c = some c'

/-- The threads at the start of a kernel. -/
def start {ι : Type} (r₀ : ι → Regs F) (m : Memory F) : Pool ι (Memory F) (Thread F) := ⟨m, fun t => .running 0 (r₀ t)⟩

/-! ## Steps -/

section
variable {code : List (Instr Param)} {env : Env Param F} {m m' : Memory F} {r : Regs F} {p : Thread F} {pc : Nat}
  {i : Instr Param} {p' : Thread F}

/-- A thread that has come to an instruction and can go on there. -/
structure At (code : List (Instr Param)) (env : Env Param F) (m : Memory F) (pc : Nat) (r : Regs F) (i : Instr Param)
    (r' : Regs F) : Prop where
  fetched : code[pc]? = some i
  regs : i.regs env m r = some r'

theorem step_cases (h : step code env (m, p) = some (m', p')) : ∃ pc r, p = .running pc r ∧
    ((∃ i r', At code env m pc r i r' ∧ m' = i.store m r ∧
      ((i.jump pc r = none ∧ p' = .exited) ∨ ∃ pc', i.jump pc r = some pc' ∧ p' = .running pc' r')) ∨
    (m' = m ∧ p' = .faulted ∧ ∀ i, code[pc]? = some i → i.regs env m r = none)) := by
  cases p with
  | exited => cases h
  | faulted => cases h
  | running pc r =>
      refine ⟨pc, r, rfl, ?_⟩
      rw [step] at h
      cases hi : code[pc]? with
      | none =>
          rw [hi] at h
          cases h
          exact .inr ⟨rfl, rfl, fun i hi' => by cases hi'⟩
      | some i =>
          simp only [hi] at h
          cases hregs : i.regs env m r with
          | none =>
              simp only [hregs] at h
              cases h
              refine .inr ⟨rfl, rfl, fun i' hi' => ?_⟩
              cases hi'
              exact hregs
          | some r' =>
              left
              cases hjump : i.jump pc r with
              | none =>
                  simp only [hregs, hjump] at h
                  cases h
                  exact ⟨i, r', ⟨hi, hregs⟩, rfl, .inl ⟨hjump, rfl⟩⟩
              | some pc' =>
                  simp only [hregs, hjump] at h
                  cases h
                  exact ⟨i, r', ⟨hi, hregs⟩, rfl, .inr ⟨pc', hjump, rfl⟩⟩

theorem step_next {r' : Regs F} {pc' : Nat} (hi : code[pc]? = some i) (hregs : i.regs env m r = some r')
    (hjump : i.jump pc r = some pc') : step code env (m, .running pc r) = some (i.store m r, .running pc' r') := by
  simp only [step, hi, hregs, hjump]

theorem step_exit {r' : Regs F} (hi : code[pc]? = some i) (hregs : i.regs env m r = some r')
    (hjump : i.jump pc r = none) :
    step code env (m, .running pc r) = some (i.store m r, .exited) := by
  simp only [step, hi, hregs, hjump]

/-- A thread that is running can go on. -/
theorem step_running : ∃ c', step code env (m, .running pc r) = some c' := by
  rw [step]
  split
  · exact ⟨_, rfl⟩
  · split <;> exact ⟨_, rfl⟩

/-- An instruction that changes registers only, and goes on with the next one. -/
def Instr.plain : Instr Param → Bool
  | .bra _ _ | .ldGlobalF32 _ _ | .stGlobalF32 _ _ | .ret => false
  | _ => true

theorem regs_plain (hi : i.plain = true) : ∃ r' : Regs F, ∀ m : Memory F, i.regs env m r = some r' := by
  cases i with
  | bra p label => cases hi
  | ldGlobalF32 f d => cases hi
  | stGlobalF32 d f => cases hi
  | ret => cases hi
  | _ => exact ⟨_, fun _ => rfl⟩

theorem step_plain (hi : code[pc]? = some i) (hplain : i.plain = true) :
    ∃ r' : Regs F, (∀ m' : Memory F, i.regs env m' r = some r') ∧
      step code env (m, .running pc r) = some (m, .running (pc + 1) r') := by
  obtain ⟨r', hregs⟩ : ∃ r' : Regs F, ∀ m' : Memory F, i.regs env m' r = some r' := regs_plain hplain
  refine ⟨r', hregs, ?_⟩
  cases i with
  | bra p label => cases hplain
  | ldGlobalF32 f d => cases hplain
  | stGlobalF32 d f => cases hplain
  | ret => cases hplain
  | _ => exact step_next hi (hregs m) rfl

/-! ## The memory -/

/-- The registers after the first `n` instructions, one after the other. -/
def after (code : List (Instr Param)) (env : Env Param F) (m : Memory F) (r₀ : Regs F) (n : Nat) : Option (Regs F) :=
  (code.take n).foldlM (fun r i => i.regs env m r) r₀

theorem after_succ {r₀ : Regs F} {n : Nat} (hi : code[n]? = some i) :
    after code env m r₀ (n + 1) = after code env m r₀ n >>= i.regs env m := by
  rw [after, after, List.take_add_one, hi, Option.toList_some, List.foldlM_append]
  simp

theorem after_next {r₀ r' : Regs F} {n : Nat} (h : after code env m r₀ n = some r) (hi : code[n]? = some i)
    (hregs : i.regs env m r = some r') : after code env m r₀ (n + 1) = some r' := by
  rw [after_succ hi, h]
  exact hregs

/-! ## Termination -/

/-- The code has no jump back. -/
def Forward (code : List (Instr Param)) : Prop :=
  ∀ (pc : Nat) (p label : Nat), code[pc]? = some (.bra p label) → pc < label

theorem Forward.jump {pc' : Nat} (hforward : Forward code) (hi : code[pc]? = some i) (h : i.jump pc r = some pc') :
    pc < pc' := by
  cases i with
  | bra p label =>
      have hlabel := hforward pc p label hi
      rw [Instr.jump, Option.some.injEq] at h
      split at h <;> omega
  | ret => cases h
  | _ =>
      obtain rfl : pc + 1 = pc' := Option.some.inj h
      exact Nat.lt_succ_self pc

/-- How many steps a thread has left at most. -/
def Thread.size (code : List (Instr Param)) : Thread F → Nat
  | .running pc _ => code.length - pc + 1
  | _ => 0

theorem Forward.size (hforward : Forward code) (h : step code env (m, p) = some (m', p')) :
    p'.size code < p.size code := by
  obtain ⟨pc, r, rfl, ⟨i, r', hat, -, ⟨-, rfl⟩ | ⟨pc', hjump, rfl⟩⟩ | ⟨-, rfl, -⟩⟩ := step_cases h
  · exact Nat.succ_pos _
  · have hlt := hforward.jump hat.fetched hjump
    have hlength := (List.getElem?_eq_some_iff.mp hat.fetched).1
    simp only [Thread.size]
    omega
  · exact Nat.succ_pos _

end

end Cmp50Unlock.Lib.Ptx
