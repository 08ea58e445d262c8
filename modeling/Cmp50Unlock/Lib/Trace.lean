import Cmp50Unlock.Lib.Triple

/-!
# Traces of scripts

A script as the commands that it runs with their ends, the newest first, whatever the answers are. `Traces p Q E` says
that the events of a run are in `Q` if it returns, and in `E` if it exits.
-/

namespace Cmp50Unlock.Lib

/-- An element that is not in the first part of a list is in the second. -/
theorem split_of_not_mem {α : Type} {a : α} {l₁ l₂ later earlier : List α} (h : l₁ ++ l₂ = later ++ a :: earlier)
    (ha : a ∉ l₁) : ∃ later', l₂ = later' ++ a :: earlier := by
  rcases List.append_eq_append_iff.mp h with ⟨later', -, heq⟩ | ⟨rest, heq, hrest⟩
  · exact ⟨later', heq⟩
  · cases rest with
    | nil => exact ⟨[], hrest.symm⟩
    | cons b rest =>
        obtain rfl : a = b := (List.cons.inj hrest).1
        exact absurd (heq ▸ List.mem_append_right later (.head rest)) ha

namespace Script

variable {Op Sig : Type} {Out : Op → Type} {α β σ : Type}

/-- A command with its end. -/
abbrev Event (Op Sig : Type) (Out : Op → Type) := (o : Op) × Done Sig (Out o)

def LogStep (o : Op) (log : List (Event Op Sig Out)) (d : Done Sig (Out o)) (log' : List (Event Op Sig Out)) : Prop :=
  log' = ⟨o, d⟩ :: log

/-- The events of a run do not depend on the ones before it. -/
theorem exec_logStep {p : Prog Op (fun o => Done Sig (Out o)) α} {log log' : List (Event Op Sig Out)} {r : α} :
    p.Exec LogStep log r log' ↔ ∃ events, log' = events ++ log ∧ p.Exec LogStep [] r events := by
  induction p generalizing log log' with
  | ret a =>
      constructor
      · rintro ⟨rfl, rfl⟩
        exact ⟨[], rfl, rfl, rfl⟩
      · rintro ⟨_, rfl, rfl, rfl⟩
        exact ⟨rfl, rfl⟩
  | op o k ih =>
      constructor
      · rintro ⟨d, _, rfl, hk⟩
        obtain ⟨events, heq, hevents⟩ := (ih d).mp hk
        refine ⟨events ++ [⟨o, d⟩], ?_, d, _, rfl, (ih d).mpr ⟨events, rfl, hevents⟩⟩
        rw [heq, List.append_assoc]
        rfl
      · rintro ⟨events, rfl, d, _, rfl, hk⟩
        obtain ⟨later, heq, hlater⟩ := (ih d).mp hk
        refine ⟨d, _, rfl, (ih d).mpr ⟨later, ?_, hlater⟩⟩
        rw [heq, List.append_assoc]
        rfl

def Traces (p : Script Op Sig Out α) (Q : α → List (Event Op Sig Out) → Prop)
    (E : Nat → List (Event Op Sig Out) → Prop) : Prop :=
  Meets LogStep p [] Q E

variable {exits : Sig → Nat} {p q : Script Op Sig Out α} {Q Q' : α → List (Event Op Sig Out) → Prop}
  {E E' : Nat → List (Event Op Sig Out) → Prop} {o : Op}

/-- A run whose steps keep a log adds its events to it. -/
theorem Traces.exec {step : (o : Op) → σ → Done Sig (Out o) → σ → Prop} {log : σ → List (Event Op Sig Out)}
    (h : Traces p Q E) (hlog : ∀ o s d s', step o s d s' → log s' = ⟨o, d⟩ :: log s) {s s' : σ} {r : Except Nat α}
    (he : p.run.Exec step s r s') : ∃ events, log s' = events ++ log s ∧ Outcome Q E r events := by
  obtain ⟨events, heq, hrun⟩ := exec_logStep.mp (exec_view log hlog he)
  exact ⟨events, heq, h r events hrun⟩

theorem Traces.mono (h : Traces p Q E) (hQ : ∀ a l, Q a l → Q' a l) (hE : ∀ n l, E n l → E' n l) : Traces p Q' E' :=
  Meets.mono h hQ hE

theorem traces_pure {a : α} (h : Q a []) : Traces (pure a) Q E := meets_pure.mpr h

theorem traces_throw {n : Nat} (h : E n []) : Traces (throw n : Script Op Sig Out α) Q E := meets_throw.mpr h

theorem Traces.bind {f : α → Script Op Sig Out β} {Q' : β → List (Event Op Sig Out) → Prop} (h : Traces p Q E)
    (hf : ∀ a l, Q a l → Traces (f a) (fun b l' => Q' b (l' ++ l)) fun n l' => E' n (l' ++ l))
    (hE : ∀ n l, E n l → E' n l) : Traces (p >>= f) Q' E' := by
  refine meets_bind.mpr (Meets.mono h (fun a l hl => ?_) hE)
  intro r l' he
  obtain ⟨events, rfl, hrun⟩ := exec_logStep.mp he
  have houtcome := hf a l hl r events hrun
  cases r with
  | ok b => exact houtcome
  | error n => exact houtcome

theorem traces_attempt {Q : Done Sig (Out o) → List (Event Op Sig Out) → Prop} (hexits : ∀ sig, exits sig ≠ 0)
    (h : ∀ d, d.signal = none → Q d [⟨o, d⟩]) (hE : ∀ n d, n ≠ 0 → E n [⟨o, d⟩]) : Traces (attempt exits o) Q E := by
  refine meets_attempt.mpr ?_
  rintro d _ rfl
  exact ⟨h d, fun sig _ => hE (exits sig) d (hexits sig)⟩

theorem traces_sh {Q : Out o → List (Event Op Sig Out) → Prop} (hexits : ∀ sig, exits sig ≠ 0)
    (h : ∀ d, d.signal = none → d.status = 0 → Q d.out [⟨o, d⟩]) (hE : ∀ n d, n ≠ 0 → E n [⟨o, d⟩]) :
    Traces (sh exits o) Q E := by
  refine meets_sh.mpr ?_
  rintro d _ rfl
  exact ⟨h d, fun _ hstatus => hE d.status d hstatus, fun sig _ => hE (exits sig) d (hexits sig)⟩

theorem traces_ite {c : Prop} [Decidable c] (hp : c → Traces p Q E) (hq : ¬c → Traces q Q E) :
    Traces (if c then p else q) Q E := by
  split
  next hc => exact hp hc
  next hc => exact hq hc

/-- What each turn of a loop establishes and the other events leave alone. -/
theorem traces_forM {f : α → Script Op Sig Out PUnit} {as : List α} {F : α → List (Event Op Sig Out) → Prop}
    {C : List (Event Op Sig Out) → Prop} (hf : ∀ a ∈ as, Traces (f a) (fun _ l => F a l ∧ C l) E)
    (hF : ∀ a l₁ l l₂, F a l → F a (l₁ ++ l ++ l₂)) (hnil : C []) (hC : ∀ l l', C l → C l' → C (l' ++ l))
    (hE : ∀ n l l', C l → E n l' → E n (l' ++ l)) :
    Traces (as.forM f) (fun _ l => (∀ a ∈ as, F a l) ∧ C l) E := by
  induction as with
  | nil => exact traces_pure ⟨fun _ ha => absurd ha List.not_mem_nil, hnil⟩
  | cons a as ih =>
      refine (hf a (.head as)).bind (fun _ l hl => ?_) fun _ _ => id
      refine (ih fun a' ha' => hf a' (.tail a ha')).mono (fun _ l' hl' => ⟨?_, hC l l' hl.2 hl'.2⟩)
        fun n l' => hE n l l' hl.2
      intro a' ha'
      rcases List.mem_cons.mp ha' with rfl | ha'
      · have hown := hF a' l' l [] hl.1
        rwa [List.append_nil] at hown
      · exact hF a' [] l' l (hl'.1 a' ha')

end Script

end Cmp50Unlock.Lib
