import Mathlib.Logic.Function.Basic

/-!
# Registers with read-only bits

A write to such a register changes only the bits of its mask. The values on entry, written back, undo all writes
to a bank of them.
-/

namespace Cmp50Unlock.Lib

section
variable {n : Nat} {mask old v v' k : BitVec n}

/-- The register after `v` is written, if only the bits of `mask` can be written. -/
def masked (mask old v : BitVec n) : BitVec n := (old &&& ~~~mask) ||| (v &&& mask)

theorem getLsbD_masked (i : Nat) :
    (masked mask old v).getLsbD i = if mask.getLsbD i then v.getLsbD i else old.getLsbD i := by
  simp only [masked, BitVec.getLsbD_or, BitVec.getLsbD_and, BitVec.getLsbD_not]
  by_cases hi : i < n
  · cases mask.getLsbD i <;> simp [hi]
  · simp [BitVec.getLsbD_of_ge _ _ (Nat.le_of_not_lt hi)]

/-- Only the last of two writes counts. -/
@[simp] theorem masked_masked : masked mask (masked mask old v) v' = masked mask old v' := by
  apply BitVec.eq_of_getLsbD_eq
  intro i _
  simp only [getLsbD_masked]
  cases mask.getLsbD i <;> rfl

@[simp] theorem masked_self : masked mask old old = old := by
  apply BitVec.eq_of_getLsbD_eq
  intro i _
  simp only [getLsbD_masked, ite_self]

@[simp] theorem masked_zero : masked 0 old v = old := by
  apply BitVec.eq_of_getLsbD_eq
  intro i _
  simp [getLsbD_masked]

/-- The bits in which the new value agrees with the old one stay. -/
theorem masked_and (h : v &&& k = old &&& k) : masked mask old v &&& k = old &&& k := by
  apply BitVec.eq_of_getLsbD_eq
  intro i hi
  have hbit := congrArg (fun x => x.getLsbD i) h
  simp only [BitVec.getLsbD_and] at hbit
  simp only [BitVec.getLsbD_and, getLsbD_masked]
  cases mask.getLsbD i with
  | false => rfl
  | true => exact hbit

/-! ## Fields -/

/-- Setting and clearing bits of a field leaves the others. -/
theorem or_and_not_outside {x a b : BitVec n} (ha : a &&& ~~~k = 0) (hb : b &&& ~~~k = 0) :
    ((x ||| a) &&& ~~~b) &&& ~~~k = x &&& ~~~k := by
  apply BitVec.eq_of_getLsbD_eq
  intro i hi
  have hbit := congrArg (fun x => x.getLsbD i) ha
  have hbit' := congrArg (fun x => x.getLsbD i) hb
  simp only [BitVec.getLsbD_and, BitVec.getLsbD_or, BitVec.getLsbD_not, hi, decide_true,
    Bool.true_and] at hbit hbit' ⊢
  cases hk : k.getLsbD i <;> simp_all

/-- Clearing and setting bits of a field leaves the others. -/
theorem and_not_or_outside {x a b : BitVec n} (ha : a &&& ~~~k = 0) (hb : b &&& ~~~k = 0) :
    ((x &&& ~~~a) ||| b) &&& ~~~k = x &&& ~~~k := by
  apply BitVec.eq_of_getLsbD_eq
  intro i hi
  have hbit := congrArg (fun x => x.getLsbD i) ha
  have hbit' := congrArg (fun x => x.getLsbD i) hb
  simp only [BitVec.getLsbD_and, BitVec.getLsbD_or, BitVec.getLsbD_not, hi, decide_true,
    Bool.true_and] at hbit hbit' ⊢
  cases hk : k.getLsbD i <;> simp_all

/-- A field that is set already. -/
theorem or_and_not_eq_self {x a b : BitVec n} (ha : x &&& a = a) (hb : x &&& b = 0) : (x ||| a) &&& ~~~b = x := by
  apply BitVec.eq_of_getLsbD_eq
  intro i hi
  have hbit := congrArg (fun x => x.getLsbD i) ha
  have hbit' := congrArg (fun x => x.getLsbD i) hb
  simp only [BitVec.getLsbD_and, BitVec.getLsbD_or, BitVec.getLsbD_not, hi, decide_true,
    Bool.true_and] at hbit hbit' ⊢
  cases hx : x.getLsbD i <;> simp_all

/-- A field that has the value already. -/
theorem and_not_or_eq_self {x a b : BitVec n} (ha : x &&& a = b &&& a) (hb : x &&& b = b) : (x &&& ~~~a) ||| b = x := by
  apply BitVec.eq_of_getLsbD_eq
  intro i hi
  have hbit := congrArg (fun x => x.getLsbD i) ha
  have hbit' := congrArg (fun x => x.getLsbD i) hb
  simp only [BitVec.getLsbD_and, BitVec.getLsbD_or, BitVec.getLsbD_not, hi, decide_true, Bool.true_and]
    at hbit hbit' ⊢
  cases hx : x.getLsbD i <;> cases ha' : a.getLsbD i <;> simp_all

/-- The bits of a field and the others make up the register. -/
theorem eq_of_field {x y : BitVec n} (hin : x &&& k = y &&& k) (hout : x &&& ~~~k = y &&& ~~~k) : x = y := by
  apply BitVec.eq_of_getLsbD_eq
  intro i hi
  have hbit := congrArg (fun x => x.getLsbD i) hin
  have hbit' := congrArg (fun x => x.getLsbD i) hout
  simp only [BitVec.getLsbD_and, BitVec.getLsbD_not, hi, decide_true, Bool.true_and] at hbit hbit'
  cases hk : k.getLsbD i with
  | false => simpa [hk] using hbit'
  | true => simpa [hk] using hbit

/-- A field holds what was put into it. -/
theorem field_of_and_not_or {x b : BitVec n} (hb : b &&& ~~~k = 0) : ((x &&& ~~~k) ||| b) &&& k = b := by
  apply BitVec.eq_of_getLsbD_eq
  intro i hi
  have hbit := congrArg (fun x => x.getLsbD i) hb
  simp only [BitVec.getLsbD_and, BitVec.getLsbD_or, BitVec.getLsbD_not, hi, decide_true, Bool.true_and] at hbit ⊢
  cases hk : k.getLsbD i <;> cases hx : b.getLsbD i <;> simp_all

/-- A field that is written keeps the register if the bits that can be written have the value already. -/
theorem masked_field_eq_self_iff {b : BitVec n} (hb : b &&& ~~~k = 0) :
    masked mask old ((old &&& ~~~k) ||| b) = old ↔ old &&& k &&& mask = b &&& mask := by
  simp only [BitVec.eq_of_getLsbD_eq_iff, getLsbD_masked, BitVec.getLsbD_and, BitVec.getLsbD_or, BitVec.getLsbD_not]
  refine forall_congr' fun i => imp_congr_right fun hi => ?_
  have hout := congrArg (fun x => x.getLsbD i) hb
  simp only [BitVec.getLsbD_and, BitVec.getLsbD_not, hi, decide_true, Bool.true_and] at hout ⊢
  cases mask.getLsbD i <;> cases hk : k.getLsbD i <;> cases hset : b.getLsbD i <;> simp [hk, hset] at hout ⊢

end

/-! ## Banks -/

section
variable {R : Type} [DecidableEq R] {n : Nat}

/-- The values of some registers. -/
abbrev Bank (R : Type) (n : Nat) := R → BitVec n

namespace Bank

variable (f g mask : Bank R n) (r : R) (ws : List (R × BitVec n))

def write (v : BitVec n) : Bank R n := Function.update f r (masked (mask r) (f r) v)

/-- Several writes, one after another. -/
def writes : Bank R n := ws.foldl (fun f w => f.write mask w.1 w.2) f

variable {mask f g r ws}

@[simp] theorem writes_nil : f.writes mask [] = f := rfl

@[simp] theorem writes_cons {w : R × BitVec n} : f.writes mask (w :: ws) = (f.write mask w.1 w.2).writes mask ws := rfl

@[simp] theorem write_same {v : BitVec n} : f.write mask r v r = masked (mask r) (f r) v := Function.update_self ..

@[simp] theorem write_ne {r' : R} {v : BitVec n} (h : r' ≠ r) : f.write mask r v r' = f r' := Function.update_of_ne h ..

/-- A write of the value that is there. -/
@[simp] theorem write_eq_self : f.write mask r (f r) = f := by
  simp [write]

/-- `g` differs from `f` only in bits that can be written. -/
def Near (f g mask : Bank R n) : Prop := ∀ r v, masked (mask r) (g r) v = masked (mask r) (f r) v

omit [DecidableEq R] in
theorem Near.refl : f.Near f mask := fun _ _ => rfl

theorem Near.write (h : f.Near g mask) (r : R) (v : BitVec n) : f.Near (g.write mask r v) mask := by
  intro r' v'
  by_cases hr : r' = r
  · subst hr
    rw [write_same, masked_masked, h]
  · rw [write_ne hr, h]

theorem Near.writes (h : f.Near g mask) (ws : List (R × BitVec n)) : f.Near (g.writes mask ws) mask := by
  induction ws generalizing g with
  | nil => exact h
  | cons w ws ih => exact ih (h.write w.1 w.2)

/-- Registers that are not written keep their values. -/
theorem writes_apply_of_notMem (h : r ∉ ws.map Prod.fst) : f.writes mask ws r = f r := by
  induction ws generalizing f with
  | nil => rfl
  | cons w ws ih =>
      obtain ⟨hne, hrest⟩ := not_or.1 (mt List.mem_cons.2 h)
      rw [writes_cons, ih hrest, write_ne hne]

/-- Bits that no write changes stay. -/
theorem writes_and {k : Bank R n} (h : ∀ w ∈ ws, w.2 &&& k w.1 = f w.1 &&& k w.1) (r : R) :
    f.writes mask ws r &&& k r = f r &&& k r := by
  induction ws generalizing f with
  | nil => rfl
  | cons w ws ih =>
      obtain ⟨hw, hrest⟩ := List.forall_mem_cons.1 h
      have hone : ∀ r, f.write mask w.1 w.2 r &&& k r = f r &&& k r := by
        intro r
        by_cases hr : r = w.1
        · subst hr
          rw [write_same, masked_and hw]
        · rw [write_ne hr]
      rw [writes_cons, ih fun w' hw' => (hrest w' hw').trans (hone w'.1).symm, hone]

/-- The values of `f` written to the registers `rs`, among them all in which `g` differs, make `g` to `f`. -/
theorem Near.restore (h : f.Near g mask) {rs : List R} (hrs : ∀ r, r ∉ rs → g r = f r) :
    g.writes mask (rs.map fun r => (r, f r)) = f := by
  induction rs generalizing g with
  | nil => exact funext fun r => hrs r List.not_mem_nil
  | cons r rs ih =>
      have hwritten : ∀ r' ∉ rs, g.write mask r (f r) r' = f r' := by
        intro r' hr'
        by_cases hr : r' = r
        · subst hr
          rw [write_same, h, masked_self]
        · rw [write_ne hr]
          exact hrs r' fun h => (List.mem_cons.1 h).elim hr hr'
      exact ih (h.write r (f r)) hwritten

/-- Writing back the values on entry undoes writes. -/
theorem writes_restore {rs : List R} (hrs : ∀ r ∈ ws.map Prod.fst, r ∈ rs) :
    (f.writes mask ws).writes mask (rs.map fun r => (r, f r)) = f :=
  (Near.refl.writes ws).restore fun r hr => writes_apply_of_notMem fun h => hr (hrs r h)

end Bank

end

end Cmp50Unlock.Lib
