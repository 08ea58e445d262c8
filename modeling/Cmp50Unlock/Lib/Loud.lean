import Cmp50Unlock.Lib.Triple

/-!
# Scripts that fail loudly

A caller sees of a script no more than its status. `Ends p P` says that a run of the script, whatever its commands
answer, returns a value with `P` or exits with a status other than zero; the status tells its caller which of both.
-/

namespace Cmp50Unlock.Lib

/-- The status of a script as its caller sees it. -/
def statusOfEnd {α : Type} : Except Nat α → Nat
  | .ok _ => 0
  | .error n => n

namespace Script

variable {Op Sig : Type} {Out : Op → Type} {α β : Type} {exits : Sig → Nat} {p : Script Op Sig Out α}
  {P Q : α → Prop} {o : Op}

def Ends (p : Script Op Sig Out α) (P : α → Prop) : Prop :=
  Meets (fun _ _ _ _ => True) p () (fun a _ => P a) fun n _ => n ≠ 0

abbrev Loud (p : Script Op Sig Out α) : Prop := Ends p fun _ => True

/-- What the status shows, with any commands. -/
theorem Ends.returned {σ : Type} {step : (o : Op) → σ → Done Sig (Out o) → σ → Prop} {s s' : σ} {r : Except Nat α}
    (hp : Ends p P) (he : p.run.Exec step s r s') (hstatus : statusOfEnd r = 0) : ∃ a, r = .ok a ∧ P a := by
  have hr := hp r () (exec_view (fun _ => ()) (fun _ _ _ _ _ => trivial) he)
  cases r with
  | ok a => exact ⟨a, rfl, hr⟩
  | error n => exact absurd hstatus hr

/-! ## Rules -/

theorem Ends.mono (hp : Ends p P) (hP : ∀ a, P a → Q a) : Ends p Q := Meets.mono hp (fun a _ => hP a) fun _ _ => id

@[simp] theorem ends_pure {a : α} : Ends (pure a : Script Op Sig Out α) P ↔ P a := meets_pure

@[simp] theorem ends_throw {n : Nat} : Ends (throw n : Script Op Sig Out α) P ↔ n ≠ 0 := meets_throw

/-- In a sequence of commands it does not matter what the earlier ones return. -/
theorem Loud.bind {f : α → Script Op Sig Out β} {Q : β → Prop} (hp : Loud p) (hf : ∀ a, Ends (f a) Q) :
    Ends (p >>= f) Q :=
  meets_bind.mpr (Meets.mono hp (fun a _ _ => hf a) fun _ _ => id)

theorem loud_attempt (hexits : ∀ s, exits s ≠ 0) : Loud (attempt exits o : Script Op Sig Out _) :=
  meets_attempt.mpr fun _ _ _ => ⟨fun _ => trivial, fun s _ => hexits s⟩

theorem loud_sh (hexits : ∀ s, exits s ≠ 0) : Loud (sh exits o : Script Op Sig Out _) :=
  meets_sh.mpr fun _ _ _ => ⟨fun _ _ => trivial, fun _ hstatus => hstatus, fun s _ => hexits s⟩

@[simp] theorem ends_ite {c : Prop} [Decidable c] {q : Script Op Sig Out α} :
    Ends (if c then p else q) P ↔ (c → Ends p P) ∧ (¬c → Ends q P) := meets_ite

section
variable [Stderr Op] {status : Nat} {message : String}

theorem ends_fail (hexits : ∀ s, exits s ≠ 0) (hstatus : status ≠ 0) :
    Ends (fail exits status message : Script Op Sig Out α) P := (loud_sh hexits).bind fun _ => ends_throw.mpr hstatus

theorem loud_orFail {holds : Bool} (hexits : ∀ s, exits s ≠ 0) (hstatus : status ≠ 0) :
    Loud (orFail exits holds status message : Script Op Sig Out Unit) :=
  ends_ite.mpr ⟨fun _ => ends_pure.mpr trivial, fun _ => ends_fail hexits hstatus⟩

end

theorem loud_when {c : Prop} [Decidable c] {p : Script Op Sig Out Unit} (hp : Loud p) : Loud (when c p) :=
  meets_when.mpr ⟨fun _ => hp, fun _ => trivial⟩

theorem loud_forM {f : β → Script Op Sig Out PUnit} (hf : ∀ b, Loud (f b)) (bs : List β) : Loud (bs.forM f) :=
  (meets_forM (I := fun _ => True) (fun b _ _ _ => (hf b).mono fun _ _ => trivial) trivial).mono
    (fun _ _ => id) fun _ _ => id

theorem loud_embed {Op' : Type} {Out' : Op' → Type} (e : Op → Op') {p : Script Op Sig (fun o => Out' (e o)) α}
    (hp : Loud p) :
    Loud (embed e p : Script Op' Sig Out' α) := meets_embed.mpr hp

theorem loud_onExit {handler : Script Op Sig Out Unit} (hp : Loud p) (hhandler : Loud handler) :
    Loud (onExit p handler) :=
  meets_onExit.mpr (Meets.mono hp
    (fun _ _ _ => Meets.mono hhandler (fun _ _ _ => trivial) fun _ _ => id)
    fun _ _ hn => Meets.mono hhandler (fun _ _ _ => hn) fun _ _ => id)

end Script

end Cmp50Unlock.Lib
