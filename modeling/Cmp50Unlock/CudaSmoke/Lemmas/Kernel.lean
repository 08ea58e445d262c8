import Cmp50Unlock.CudaSmoke.Kernel

/-!
# The threads of `vector_add`

What one step of a thread does, at each instruction, and what the threads know of the memory that they share.
-/

namespace Cmp50Unlock.CudaSmoke

open Lib Ptx

variable {F : Type} {l : Launch F} {m h : Memory F} {t : l.Id} {r₀ r : Regs F}

/-! ## The registers -/

theorem after_index (hr : after vectorAdd (l.env t) m r₀ 8 = some r) : r.b32 1 = l.count ∧ r.b32 2 = l.index t := by
  cases hr
  refine ⟨?_, rfl⟩
  change (l.count.setWidth 64).setWidth 32 = l.count
  simp

theorem after_setp (hr : after vectorAdd (l.env t) m r₀ 9 = some r) : r.pred 0 = true ↔ l.count ≤ l.index t := by
  rw [after_succ rfl] at hr
  obtain ⟨r₁, hr₁, hsetp⟩ := Option.bind_eq_some_iff.mp hr
  obtain ⟨hcount, hindex⟩ := after_index hr₁
  cases hsetp
  simp [Regs.setPred, hcount, hindex]

theorem after_address (hr : after vectorAdd (l.env t) m r₀ 14 = some r) : r.b64 5 = element l.a (l.index t) := by
  cases hr
  rfl

theorem after_load_a (hr : after vectorAdd (l.env t) m r₀ 15 = some r) : r.b64 6 = element l.b (l.index t) := by
  rw [after_succ rfl] at hr
  obtain ⟨r₁, hr₁, hload⟩ := Option.bind_eq_some_iff.mp hr
  cases hr₁
  obtain ⟨x, -, rfl⟩ := Option.map_eq_some_iff.mp hload
  rfl

theorem after_add (hr : after vectorAdd (l.env t) m r₀ 17 = some r) :
    r.b64 7 = element l.out (l.index t) ∧ some (r.f32 3) = l.sum m (l.index t) := by
  rw [after_succ rfl] at hr
  obtain ⟨r₃, hr₃, hadd⟩ := Option.bind_eq_some_iff.mp hr
  rw [after_succ rfl] at hr₃
  obtain ⟨r₂, hr₂, hload⟩ := Option.bind_eq_some_iff.mp hr₃
  obtain ⟨y, hy, rfl⟩ := Option.map_eq_some_iff.mp hload
  rw [after_load_a hr₂] at hy
  rw [after_succ rfl] at hr₂
  obtain ⟨r₁, hr₁, hload⟩ := Option.bind_eq_some_iff.mp hr₂
  obtain ⟨x, hx, rfl⟩ := Option.map_eq_some_iff.mp hload
  rw [after_address hr₁] at hx
  cases hr₁
  cases hadd
  refine ⟨rfl, ?_⟩
  rw [Launch.sum, hx, hy]
  rfl

/-! ## One thread -/

/-- The instructions of `vector_add`, those apart that look at the memory or jump. -/
theorem pc_cases {pc : Nat} (hpc : pc ≤ 18) : pc = 9 ∨ pc = 14 ∨ pc = 15 ∨ pc = 17 ∨ pc = 18 ∨
    pc < 18 ∧ pc ≠ 9 ∧ pc ≠ 17 ∧ vectorAdd[pc]?.any Instr.plain = true := by
  have hall : ∀ pc ≤ 18, pc = 9 ∨ pc = 14 ∨ pc = 15 ∨ pc = 17 ∨ pc = 18 ∨
      pc < 18 ∧ pc ≠ 9 ∧ pc ≠ 17 ∧ vectorAdd[pc]?.any Instr.plain = true := by decide
  exact hall pc hpc

theorem forward_vectorAdd : Forward vectorAdd := by
  intro pc p label h
  have hlt := (List.getElem?_eq_some_iff.mp h).1
  rcases pc_cases (Nat.le_of_lt_succ hlt) with rfl | rfl | rfl | rfl | rfl | ⟨-, -, -, hplain⟩
  · cases h
    decide
  · cases h
  · cases h
  · cases h
  · cases h
  · rw [h] at hplain
    cases hplain

/-- What a thread knows when it has come to an instruction, and at its end. -/
def Launch.Knows (l : Launch F) (m : Memory F) (r₀ : l.Id → Regs F) (t : l.Id) (h : Memory F) : Thread F → Prop
  | .running pc r => pc ≤ 18 ∧ (pc < 18 → after vectorAdd (l.env t) m (r₀ t) pc = some r) ∧
      (9 < pc → pc < 18 → l.index t < l.count) ∧
      (pc = 18 → l.index t < l.count → h (element l.out (l.index t)) = l.sum m (l.index t))
  | .exited => l.index t < l.count → h (element l.out (l.index t)) = l.sum m (l.index t)
  | .faulted => False

theorem Launch.Buffers.sum_eq_some {i : BitVec 32} (hb : l.Buffers m) (hi : i < l.count) : ∃ z, l.sum m i = some z := by
  obtain ⟨x, hx⟩ := hb.mapped_a i hi
  obtain ⟨y, hy⟩ := hb.mapped_b i hi
  exact ⟨l.add x y, by rw [Launch.sum, hx, hy]; rfl⟩

section
variable {r₀ : l.Id → Regs F} {h' : Memory F} {p p' : Thread F} (hb : l.Buffers m)

include hb

theorem Launch.Between.reads_a {i : BitVec 32} (hu : l.Between m h) (hi : i < l.count) :
    h (element l.a i) = m (element l.a i) :=
  hu.frame _ fun j hj => (hb.apart_a j hj i hi).symm

theorem Launch.Between.reads_b {i : BitVec 32} (hu : l.Between m h) (hi : i < l.count) :
    h (element l.b i) = m (element l.b i) :=
  hu.frame _ fun j hj => (hb.apart_b j hj i hi).symm

/-- A step leaves the memory alone, or stores the sum that the thread is there for. -/
def Launch.Writes (l : Launch F) (m : Memory F) (t : l.Id) (h h' : Memory F) : Prop :=
  h' = h ∨ l.index t < l.count ∧ h' = Function.update h (element l.out (l.index t)) (l.sum m (l.index t))

/-- The thread takes a step that is allowed, and knows what it has to know afterwards. -/
def Launch.Goes (l : Launch F) (m : Memory F) (r₀ : l.Id → Regs F) (t : l.Id) (h : Memory F) (p : Thread F) : Prop :=
  ∃ h' p', step vectorAdd (l.env t) (h, p) = some (h', p') ∧ l.Writes m t h h' ∧ l.Knows m r₀ t h' p'

omit hb in
theorem goes_bra (hr : after vectorAdd (l.env t) m (r₀ t) 9 = some r) : l.Goes m r₀ t h (.running 9 r) := by
  refine ⟨h, .running (if r.pred 0 then 18 else 10) r, step_next (i := .bra 0 18) rfl rfl rfl, .inl rfl, ?_⟩
  by_cases hge : l.count ≤ l.index t
  · rw [if_pos ((after_setp hr).mpr hge)]
    refine ⟨by decide, fun hlt => absurd hlt (by decide), fun _ hlt => absurd hlt (by decide), fun _ hlt => ?_⟩
    exact absurd hlt (BitVec.not_lt.mpr hge)
  · rw [if_neg fun htrue => hge ((after_setp hr).mp htrue)]
    refine ⟨by decide, fun _ => after_next hr rfl rfl, fun _ _ => BitVec.not_le.mp hge, fun heq => ?_⟩
    exact absurd heq (by decide)

theorem goes_load_a (hu : l.Between m h) (hr : after vectorAdd (l.env t) m (r₀ t) 14 = some r)
    (hi : l.index t < l.count) :
    l.Goes m r₀ t h (.running 14 r) := by
  obtain ⟨x, hx⟩ := hb.mapped_a _ hi
  have hload : h (r.b64 5) = some x := by
    rw [after_address hr, ← hx]
    exact hu.reads_a hb hi
  rw [← after_address hr] at hx
  have hregs := congrArg (Option.map (r.setF32 1)) hload
  refine ⟨h, .running 15 (r.setF32 1 x), step_next (i := .ldGlobalF32 1 5) rfl hregs rfl, .inl rfl, by decide, ?_⟩
  refine ⟨fun _ => ?_, fun _ _ => hi, fun heq => absurd heq (by decide)⟩
  exact after_next hr rfl (congrArg (Option.map (r.setF32 1)) hx)

theorem goes_load_b (hu : l.Between m h) (hr : after vectorAdd (l.env t) m (r₀ t) 15 = some r)
    (hi : l.index t < l.count) :
    l.Goes m r₀ t h (.running 15 r) := by
  obtain ⟨y, hy⟩ := hb.mapped_b _ hi
  have hload : h (r.b64 6) = some y := by
    rw [after_load_a hr, ← hy]
    exact hu.reads_b hb hi
  rw [← after_load_a hr] at hy
  have hregs := congrArg (Option.map (r.setF32 2)) hload
  refine ⟨h, .running 16 (r.setF32 2 y), step_next (i := .ldGlobalF32 2 6) rfl hregs rfl, .inl rfl, by decide, ?_⟩
  refine ⟨fun _ => ?_, fun _ _ => hi, fun heq => absurd heq (by decide)⟩
  exact after_next hr rfl (congrArg (Option.map (r.setF32 2)) hy)

theorem goes_store (hu : l.Between m h) (hr : after vectorAdd (l.env t) m (r₀ t) 17 = some r)
    (hi : l.index t < l.count) :
    l.Goes m r₀ t h (.running 17 r) := by
  obtain ⟨haddress, hvalue⟩ := after_add hr
  have hmapped : ∃ z, h (r.b64 7) = some z := by
    rw [haddress]
    rcases hu.result _ hi with heq | heq
    · rw [heq]
      exact hb.mapped_out _ hi
    · rw [heq]
      exact hb.sum_eq_some hi
  obtain ⟨z, hz⟩ := hmapped
  have hregs := congrArg (Option.map fun _ => r) hz
  refine ⟨_, _, step_next (i := .stGlobalF32 7 3) rfl hregs rfl, ?_⟩
  rw [Instr.store, haddress, hvalue]
  refine ⟨.inr ⟨hi, rfl⟩, by decide, fun hlt => absurd hlt (by decide), fun _ _ => hi, fun _ _ => ?_⟩
  exact Function.update_self ..

omit hb in
theorem goes_plain {pc : Nat} (hpc : pc < 18) (h9 : pc ≠ 9) (h17 : pc ≠ 17)
    (hplain : vectorAdd[pc]?.any Instr.plain = true)
    (hr : after vectorAdd (l.env t) m (r₀ t) pc = some r) (hrange : 9 < pc → l.index t < l.count) :
    l.Goes m r₀ t h (.running pc r) := by
  obtain ⟨i, hi, hplain⟩ := (Option.any_eq_true ..).mp hplain
  obtain ⟨r', hregs, hnext⟩ : ∃ r' : Regs F, (∀ m' : Memory F, i.regs (l.env t) m' r = some r') ∧
      step vectorAdd (l.env t) (h, .running pc r) = some (h, .running (pc + 1) r') := step_plain hi hplain
  refine ⟨h, _, hnext, .inl rfl, hpc, fun _ => after_next hr hi (hregs m), fun hgt _ => hrange ?_, fun heq => ?_⟩
    <;> omega

/-- Every step of a thread that knows where it is. -/
theorem step_spec (hu : l.Between m h) (hk : l.Knows m r₀ t h p) (hstep : Ptx.Step vectorAdd l.env t (h, p) (h', p')) :
    l.Writes m t h h' ∧ l.Knows m r₀ t h' p' := by
  have hgoes : l.Goes m r₀ t h p := by
    cases p with
    | faulted => exact hk.elim
    | exited => cases hstep
    | running pc r =>
        obtain ⟨hpc, hafter, hrange, hdone⟩ := hk
        rcases pc_cases hpc with rfl | rfl | rfl | rfl | rfl | ⟨hlt, h9, h17, hplain⟩
        · exact goes_bra (hafter (by decide))
        · exact goes_load_a hb hu (hafter (by decide)) (hrange (by decide) (by decide))
        · exact goes_load_b hb hu (hafter (by decide)) (hrange (by decide) (by decide))
        · exact goes_store hb hu (hafter (by decide)) (hrange (by decide) (by decide))
        · exact ⟨h, .exited, step_exit (i := .ret) rfl rfl rfl, .inl rfl, hdone rfl⟩
        · exact goes_plain hlt h9 h17 hplain (hafter hlt) fun hgt => hrange hgt hlt
  obtain ⟨h₁, p₁, hnext, hwrites, hknows⟩ := hgoes
  cases hnext.symm.trans hstep
  exact ⟨hwrites, hknows⟩

end

/-! ## All threads -/

theorem element_injective {base : BitVec 64} {i j : BitVec 32} (heq : element base i = element base j) : i = j := by
  simp only [element] at heq
  bv_omega

theorem Launch.Writes.keeps {i : BitVec 32} {h' : Memory F} (hw : l.Writes m t h h')
    (hi : h (element l.out i) = l.sum m i) :
    h' (element l.out i) = l.sum m i := by
  rcases hw with rfl | ⟨-, rfl⟩
  · exact hi
  · by_cases heq : i = l.index t
    · rw [heq]
      exact Function.update_self ..
    · rw [Function.update_of_ne fun hsame => heq (element_injective hsame)]
      exact hi

theorem Launch.Writes.between {h' : Memory F} (hw : l.Writes m t h h') (hu : l.Between m h) : l.Between m h' := by
  refine ⟨fun x hx => ?_, fun i hi => ?_⟩
  · rcases hw with rfl | ⟨ht, rfl⟩
    · exact hu.frame x hx
    · rw [Function.update_of_ne (hx _ ht)]
      exact hu.frame x hx
  · rcases hu.result i hi with hold | hdone
    · rcases hw with rfl | ⟨-, rfl⟩
      · exact .inl hold
      · by_cases heq : i = l.index t
        · subst heq
          exact .inr (Function.update_self ..)
        · left
          rw [Function.update_of_ne fun hsame => heq (element_injective hsame)]
          exact hold
    · exact .inr (hw.keeps hdone)

/-- What a thread knows is not disturbed by the others. -/
theorem Launch.Knows.stable {r₀ : l.Id → Regs F} {h' : Memory F} {t' : l.Id} {p : Thread F} (hk : l.Knows m r₀ t h p)
    (hw : l.Writes m t' h h') : l.Knows m r₀ t h' p := by
  cases p with
  | faulted => exact hk
  | exited => exact fun hi => hw.keeps (hk hi)
  | running pc r =>
      obtain ⟨hpc, hafter, hrange, hdone⟩ := hk
      exact ⟨hpc, hafter, hrange, fun heq hi => hw.keeps (hdone heq hi)⟩

theorem outline {r₀ : l.Id → Regs F} (hb : l.Buffers m) :
    Pool.Outline (Ptx.Step vectorAdd l.env) (l.Between m) (l.Knows m r₀) where
  shared := fun _ _ _ _ _ hu hk hstep => (step_spec hb hu hk hstep).1.between hu
  own := fun _ _ _ _ _ hu hk hstep => (step_spec hb hu hk hstep).2
  other := fun _ _ _ _ _ _ _ _ hu hk hstep hq => hq.stable (step_spec hb hu hk hstep).1

theorem runs_spec {r₀ : l.Id → Regs F} {s : Pool l.Id (Memory F) (Thread F)} (hb : l.Buffers m)
    (hr : Runs l (start r₀ m) s) : l.Between m s.shared ∧ ∀ t, l.Knows m r₀ t s.shared (s.own t) :=
  (outline hb).runs hr ⟨fun _ _ => rfl, fun _ _ => .inl rfl⟩ fun _ =>
    ⟨by decide, fun _ => rfl, fun hlt => absurd hlt (by decide), fun heq => absurd heq (by decide)⟩

/-- Every index below the number of threads is that of a thread. -/
theorem exists_index {i : BitVec 32} (hi : i.toNat < l.grid * l.block) : ∃ t : l.Id, l.index t = i := by
  have hblock : 0 < l.block := Nat.pos_of_ne_zero fun hzero => by simp [hzero] at hi
  refine ⟨⟨⟨i.toNat / l.block, Nat.div_lt_of_lt_mul (by rwa [Nat.mul_comm] at hi)⟩,
    ⟨i.toNat % l.block, Nat.mod_lt _ hblock⟩⟩, ?_⟩
  rw [Launch.index, ← BitVec.ofNat_mul, ← BitVec.ofNat_add, Nat.div_add_mod']
  exact BitVec.ofNat_toNat ..

/-- At the end all threads have exited. -/
theorem exited_of_ended {r₀ : l.Id → Regs F} {s : Pool l.Id (Memory F) (Thread F)} (hb : l.Buffers m)
    (hr : Runs l (start r₀ m) s) (hend : Ended l s) (t : l.Id) : s.own t = .exited := by
  have hknows := (runs_spec hb hr).2 t
  cases hown : s.own t with
  | exited => rfl
  | faulted =>
      rw [hown] at hknows
      exact hknows.elim
  | running pc r =>
      obtain ⟨⟨h', p'⟩, hstep⟩ : ∃ c', step vectorAdd (l.env t) (s.shared, .running pc r) = some c' := step_running
      rw [← hown] at hstep
      exact absurd hstep (Pool.stopped_of_end hend t h' p')

theorem result_of_ended {r₀ : l.Id → Regs F} {s : Pool l.Id (Memory F) (Thread F)} {i : BitVec 32} (hb : l.Buffers m)
    (hr : Runs l (start r₀ m) s) (hend : Ended l s) (hi : i < l.count) (hthread : i.toNat < l.grid * l.block) :
    s.shared (element l.out i) = l.sum m i := by
  obtain ⟨t, rfl⟩ := exists_index hthread
  have hknows := (runs_spec hb hr).2 t
  rw [exited_of_ended hb hr hend t] at hknows
  exact hknows hi

/-- Every launch comes to an end. -/
theorem exists_ended (s : Pool l.Id (Memory F) (Thread F)) : ∃ s', Runs l s s' ∧ Ended l s' :=
  Pool.exists_end (fun _ _ _ _ _ => forward_vectorAdd.size) s

end Cmp50Unlock.CudaSmoke
