import Cmp50Unlock.Lib.Cost

/-!
# Shell scripts

A script runs under `set -e`, with a trap for each signal that exits. A command answers with its status, its output
and the signal that has arrived by its end; a pending signal ends the script before the next command.
-/

namespace Cmp50Unlock.Lib

/-- The end of a command. -/
structure Done (Sig α : Type) where
  status : Nat
  out : α
  signal : Option Sig

/-- A signal that is pending ends the script; `exits` says with which status its trap exits. -/
def Done.next {Sig α : Type} (exits : Sig → Nat) (d : Done Sig α) : Except Nat (Done Sig α) :=
  match d.signal with
  | some s => .error (exits s)
  | none => .ok d

theorem Done.next_some {Sig α : Type} {exits : Sig → Nat} {d : Done Sig α} {s : Sig} (h : d.signal = some s) :
    d.next exits = .error (exits s) := by
  rw [next, h]

theorem Done.next_none {Sig α : Type} {exits : Sig → Nat} {d : Done Sig α} (h : d.signal = none) :
    d.next exits = .ok d := by
  rw [next, h]

/-- A script returns or exits with a status. -/
abbrev Script (Op Sig : Type) (Out : Op → Type) (α : Type) := ExceptT Nat (Prog Op fun o => Done Sig (Out o)) α

namespace Script

variable {Op Sig : Type} {Out : Op → Type} {α β : Type}

/-- A command whose status is tested or ignored. -/
def attempt (exits : Sig → Nat) (o : Op) : Script Op Sig Out (Done Sig (Out o)) :=
  ExceptT.mk (Done.next exits <$> Prog.lift o)

/-- A command that ends the script if it fails. -/
def sh (exits : Sig → Nat) (o : Op) : Script Op Sig Out (Out o) := do
  let d ← attempt exits o
  if d.status = 0 then return d.out else throw d.status

/-- The commands of a script print messages on stderr. -/
class Stderr (Op : Type) where
  logError : String → Op

/-- A message on stderr, and `exit`. -/
def fail [Stderr Op] (exits : Sig → Nat) (status : Nat) (message : String) : Script Op Sig Out α := do
  let _ ← sh exits (Stderr.logError message)
  throw status

/-- A test, `|| fail` -/
def orFail [Stderr Op] (exits : Sig → Nat) (holds : Bool) (status : Nat) (message : String) : Script Op Sig Out Unit :=
  if holds then return else fail exits status message

/-- A loop of at most `n` turns that ends when its body says so. -/
def repeatUntil (body : Script Op Sig Out Bool) : Nat → Script Op Sig Out Unit
  | 0 => return
  | n + 1 => do
      if ← body then return else repeatUntil body n

/-- The script with a handler on exit, and its final status: that of the handler if the handler exits itself. -/
def withExit (p handler : Script Op Sig Out Unit) : Prog Op (fun o => Done Sig (Out o)) Nat := do
  let r ← p.run
  let r' ← handler.run
  return match r', r with
    | .error n, _ => n
    | .ok _, .error n => n
    | .ok _, .ok _ => 0

/-! ## Executions -/

section
variable {σ : Type} {step : (o : Op) → σ → Done Sig (Out o) → σ → Prop} {s s' : σ} {p : Script Op Sig Out α}
  {exits : Sig → Nat}

theorem exec_bind {f : α → Script Op Sig Out β} {r : Except Nat β} :
    (p >>= f).run.Exec step s r s' ↔
      (∃ a s₁, p.run.Exec step s (.ok a) s₁ ∧ (f a).run.Exec step s₁ r s') ∨
      ∃ n, p.run.Exec step s (.error n) s' ∧ r = .error n := by
  rw [ExceptT.run_bind, Prog.exec_bind]
  constructor
  · rintro ⟨x, s₁, hp, hf⟩
    cases x with
    | ok a => exact .inl ⟨a, s₁, hp, hf⟩
    | error n =>
        obtain ⟨rfl, rfl⟩ := hf
        exact .inr ⟨n, hp, rfl⟩
  · rintro (⟨a, s₁, hp, hf⟩ | ⟨n, hp, rfl⟩)
    · exact ⟨.ok a, s₁, hp, hf⟩
    · exact ⟨.error n, s', hp, rfl, rfl⟩

theorem exec_pure {a : α} {r : Except Nat α} :
    (pure a : Script Op Sig Out α).run.Exec step s r s' ↔ r = .ok a ∧ s' = s := Iff.rfl

theorem exec_attempt {o : Op} {r : Except Nat (Done Sig (Out o))} :
    (attempt exits o : Script Op Sig Out _).run.Exec step s r s' ↔ ∃ d, step o s d s' ∧ r = d.next exits := by
  simp only [attempt, ExceptT.run_mk, map_eq_pure_bind, Prog.exec_bind, Prog.exec_lift, Prog.exec_pure]
  constructor
  · rintro ⟨d, _, hstep, rfl, rfl⟩
    exact ⟨d, hstep, rfl⟩
  · rintro ⟨d, hstep, rfl⟩
    exact ⟨d, s', hstep, rfl, rfl⟩

/-- A command that ends the script if it fails has been run, whatever comes of it. -/
theorem exec_sh {o : Op} {r : Except Nat (Out o)} (h : (sh exits o : Script Op Sig Out _).run.Exec step s r s') :
    ∃ d, step o s d s' := by
  rw [sh, exec_bind] at h
  rcases h with ⟨d, s₁, hd, h⟩ | ⟨n, hd, -⟩
  · obtain ⟨d', hstep, -⟩ := exec_attempt.mp hd
    split at h
    all_goals
      obtain ⟨-, rfl⟩ := h
      exact ⟨d', hstep⟩
  · obtain ⟨d', hstep, -⟩ := exec_attempt.mp hd
    exact ⟨d', hstep⟩

end

/-! ## Careful scripts

What `c` counts are the answers that a script must not pass over: a failed command that no test looks at, a signal.
-/

/-- The commands of the script are in `S`, and it exits with a failure if one of them counts. -/
structure Careful (S : Op → Prop) (c : (o : Op) → Done Sig (Out o) → Nat) (p : Script Op Sig Out α) : Prop where
  uses : Prog.Uses S p.run
  loud : Prog.Counts c p.run fun r n => n = 0 ∨ ∃ e, e ≠ 0 ∧ r = .error e

section
variable {S : Op → Prop} {c : (o : Op) → Done Sig (Out o) → Nat} {p : Script Op Sig Out α} {exits : Sig → Nat}

theorem Careful.mono {T : Op → Prop} (h : Careful S c p) (hST : ∀ o, S o → T o) : Careful T c p where
  uses := h.uses.mono hST fun _ => id
  loud := h.loud

theorem careful_pure {a : α} : Careful S c (pure a : Script Op Sig Out α) := ⟨trivial, .inl rfl⟩

theorem careful_throw {n : Nat} : Careful S c (throw n : Script Op Sig Out α) := ⟨trivial, .inl rfl⟩

theorem Careful.bind {f : α → Script Op Sig Out β} (h : Careful S c p) (hf : ∀ a, Careful S c (f a)) :
    Careful S c (p >>= f) where
  uses := by
    rw [ExceptT.run_bind, Prog.Uses, Prog.within_bind]
    refine h.uses.within fun r => ?_
    cases r with
    | ok a => exact (hf a).uses
    | error n => trivial
  loud := by
    rw [ExceptT.run_bind, Prog.counts_bind]
    refine h.loud.mono fun r n hn => ?_
    cases r with
    | ok a =>
        have hzero : n = 0 := hn.resolve_right (by simp)
        refine (hf a).loud.mono fun r m hm => ?_
        rw [hzero, Nat.zero_add]
        exact hm
    | error e =>
        refine hn.imp_right fun hexit => ?_
        obtain ⟨e', he', heq⟩ := hexit
        cases heq
        exact ⟨_, he', rfl⟩

theorem careful_attempt {o : Op} (ho : S o) (hexits : ∀ s, exits s ≠ 0) (hc : ∀ d, d.signal = none → c o d = 0) :
    Careful S c (attempt exits o : Script Op Sig Out _) where
  uses := Prog.within_map.2 ⟨ho, fun _ => trivial⟩
  loud := by
    refine Prog.counts_map.2 fun d => ?_
    cases hsignal : d.signal with
    | none => exact .inl (hc d hsignal)
    | some s => exact .inr ⟨exits s, hexits s, Done.next_some hsignal⟩

theorem careful_sh {o : Op} (ho : S o) (hexits : ∀ s, exits s ≠ 0)
    (hc : ∀ d, d.signal = none → d.status = 0 → c o d = 0) : Careful S c (sh exits o : Script Op Sig Out _) where
  uses := by
    rw [sh, ExceptT.run_bind, Prog.Uses, Prog.within_bind]
    refine Prog.within_map.2 (Prog.within_lift.2 ⟨ho, fun d => ?_⟩)
    cases d.next exits with
    | error n => trivial
    | ok d => by_cases hstatus : d.status = 0 <;> simp [hstatus]
  loud := by
    rw [sh, ExceptT.run_bind, Prog.counts_bind]
    refine Prog.counts_map.2 (Prog.counts_lift.2 fun d => ?_)
    cases hsignal : d.signal with
    | some s =>
        rw [Done.next_some hsignal]
        exact .inr ⟨exits s, hexits s, rfl⟩
    | none =>
        rw [Done.next_none hsignal]
        by_cases hstatus : d.status = 0
        · simp only [hstatus, if_true]
          exact .inl (hc d hsignal hstatus)
        · simp only [hstatus, if_false]
          exact .inr ⟨d.status, hstatus, rfl⟩

theorem careful_ite {b : Prop} [Decidable b] {p q : Script Op Sig Out α} (hp : b → Careful S c p)
    (hq : ¬ b → Careful S c q) : Careful S c (if b then p else q) := by
  by_cases h : b
  · rw [if_pos h]
    exact hp h
  · rw [if_neg h]
    exact hq h

theorem careful_forM {f : α → Script Op Sig Out PUnit} (hf : ∀ a, Careful S c (f a)) (as : List α) :
    Careful S c (as.forM f) := by
  induction as with
  | nil => exact careful_pure
  | cons a as ih => exact (hf a).bind fun _ => ih

theorem careful_foldlM {f : β → α → Script Op Sig Out β} (hf : ∀ b a, Careful S c (f b a)) (as : List α) (b : β) :
    Careful S c (as.foldlM f b) := by
  induction as generalizing b with
  | nil => exact careful_pure
  | cons a as ih => exact (hf b a).bind fun b' => ih b'

theorem careful_repeatUntil {body : Script Op Sig Out Bool} (h : Careful S c body) (n : Nat) :
    Careful S c (repeatUntil body n) := by
  induction n with
  | zero => exact careful_pure
  | succ n ih => exact h.bind fun r => careful_ite (fun _ => careful_pure) fun _ => ih

end

end Script

end Cmp50Unlock.Lib
