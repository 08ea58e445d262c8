import Cmp50Unlock.Lib.Script

/-!
# Rules for scripts

`Meets step p s Q E` says that every execution of the script from `s` ends in `Q` if it returns, and in `E` if it exits.
The rules follow the text of the script. A script over some of the commands is a script over all of them.
-/

namespace Cmp50Unlock.Lib

/-! ## Some of the operations -/

/-- A program over some operations, as a program over all of them. -/
def Prog.embed {Op Op' : Type} {Ans : Op' → Type} {α : Type} (e : Op → Op') :
    Prog Op (fun o => Ans (e o)) α → Prog Op' Ans α
  | .ret a => .ret a
  | .op o k => .op (e o) fun a => (k a).embed e

theorem Prog.exec_embed {Op Op' : Type} {Ans : Op' → Type} {α σ : Type} {e : Op → Op'}
    {step : (o : Op') → σ → Ans o → σ → Prop} {p : Prog Op (fun o => Ans (e o)) α} {s s' : σ} {r : α} :
    (p.embed e).Exec step s r s' ↔ p.Exec (fun o => step (e o)) s r s' := by
  induction p generalizing s with
  | ret a => exact Iff.rfl
  | op o k ih =>
      constructor
      · intro h
        obtain ⟨a, s₁, hstep, hk⟩ := h
        exact ⟨a, s₁, hstep, (ih a).mp hk⟩
      · intro h
        obtain ⟨a, s₁, hstep, hk⟩ := h
        exact ⟨a, s₁, hstep, (ih a).mpr hk⟩

namespace Script

variable {Op Op' Sig : Type} {Out : Op → Type} {Out' : Op' → Type} {α β σ : Type}

def embed (e : Op → Op') (p : Script Op Sig (fun o => Out' (e o)) α) : Script Op' Sig Out' α :=
  ExceptT.mk (@Prog.embed Op Op' (fun o => Done Sig (Out' o)) (Except Nat α) e p.run)

theorem exec_embed {e : Op → Op'} {step : (o : Op') → σ → Done Sig (Out' o) → σ → Prop}
    {p : Script Op Sig (fun o => Out' (e o)) α} {s s' : σ} {r : Except Nat α} :
    (embed e p).run.Exec step s r s' ↔ p.run.Exec (fun o => step (e o)) s r s' := Prog.exec_embed

/-- A run, as seen by another step relation on a part of the state. -/
theorem exec_view {Ans : Op → Type} {τ : Type} {step : (o : Op) → σ → Ans o → σ → Prop}
    {step' : (o : Op) → τ → Ans o → τ → Prop}
    {p : Prog Op Ans α} {s s' : σ} {r : α} (view : σ → τ)
    (hview : ∀ o s a s', step o s a s' → step' o (view s) a (view s')) (he : p.Exec step s r s') :
    p.Exec step' (view s) r (view s') := by
  induction p generalizing s with
  | ret a =>
      obtain ⟨rfl, rfl⟩ := he
      exact ⟨rfl, rfl⟩
  | op o k ih =>
      obtain ⟨a, s₁, hstep, hk⟩ := he
      exact ⟨a, _, hview o s a s₁ hstep, ih a hk⟩

/-- `if ...; then ...; fi` -/
def when (c : Prop) [Decidable c] (p : Script Op Sig Out Unit) : Script Op Sig Out Unit := if c then p else pure ()

/-- The end of a script whose handler has ended: that of the handler if the handler exits itself. -/
def handled (r : Except Nat α) : Except Nat Unit → Except Nat α
  | .error n => .error n
  | .ok _ => r

/-- The rest of a script, with `trap handler EXIT` -/
def onExit (p : Script Op Sig Out α) (handler : Script Op Sig Out Unit) : Script Op Sig Out α :=
  ExceptT.mk do
    let r ← p.run
    let r' ← handler.run
    return handled r r'

/-! ## Outcomes -/

/-- A postcondition for the return and one for the exit. -/
def Outcome (Q : α → σ → Prop) (E : Nat → σ → Prop) : Except Nat α → σ → Prop
  | .ok a, s => Q a s
  | .error n, s => E n s

def Meets (step : (o : Op) → σ → Done Sig (Out o) → σ → Prop) (p : Script Op Sig Out α) (s : σ) (Q : α → σ → Prop)
    (E : Nat → σ → Prop) : Prop :=
  ∀ r s', p.run.Exec step s r s' → Outcome Q E r s'

variable {step : (o : Op) → σ → Done Sig (Out o) → σ → Prop} {exits : Sig → Nat} {p q : Script Op Sig Out α} {s s' : σ}
  {Q Q' : α → σ → Prop} {E E' : Nat → σ → Prop} {o : Op}

theorem Meets.mono (h : Meets step p s Q E) (hQ : ∀ a s, Q a s → Q' a s) (hE : ∀ n s, E n s → E' n s) :
    Meets step p s Q' E' := by
  intro r s' he
  have hr := h r s' he
  cases r with
  | ok a => exact hQ a s' hr
  | error n => exact hE n s' hr

/-- What every command keeps, every script keeps. -/
theorem meets_inv {I : σ → Prop} (hI : ∀ o s d s', step o s d s' → I s → I s') (hs : I s) :
    Meets step p s (fun _ => I) fun _ => I := by
  intro r s' he
  have hs' : I s' := he.inv hI hs
  cases r with
  | ok a => exact hs'
  | error n => exact hs'

@[simp] theorem meets_pure {a : α} : Meets step (pure a) s Q E ↔ Q a s := by
  constructor
  · intro h
    exact h (.ok a) s ⟨rfl, rfl⟩
  · intro h r s' he
    obtain ⟨rfl, rfl⟩ := exec_pure.mp he
    exact h

@[simp] theorem meets_throw {n : Nat} : Meets step (throw n : Script Op Sig Out α) s Q E ↔ E n s := by
  constructor
  · intro h
    exact h (.error n) s ⟨rfl, rfl⟩
  · intro h r s' he
    obtain ⟨rfl, rfl⟩ := he
    exact h

@[simp] theorem meets_bind {f : α → Script Op Sig Out β} {Q : β → σ → Prop} :
    Meets step (p >>= f) s Q E ↔ Meets step p s (fun a s' => Meets step (f a) s' Q E) E := by
  constructor
  · intro h r s₁ he
    cases r with
    | ok a => exact fun r' s' hf => h r' s' (exec_bind.mpr (.inl ⟨a, s₁, he, hf⟩))
    | error n => exact h (.error n) s₁ (exec_bind.mpr (.inr ⟨n, he, rfl⟩))
  · intro h r s' he
    rcases exec_bind.mp he with ⟨a, s₁, hp, hf⟩ | ⟨n, hp, rfl⟩
    · exact h (.ok a) s₁ hp r s' hf
    · exact h (.error n) s' hp

@[simp] theorem meets_ite {c : Prop} [Decidable c] :
    Meets step (if c then p else q) s Q E ↔ (c → Meets step p s Q E) ∧ (¬c → Meets step q s Q E) := by
  by_cases h : c <;> simp [h]

@[simp] theorem meets_when {c : Prop} [Decidable c] {p : Script Op Sig Out Unit} {Q : Unit → σ → Prop} :
    Meets step (when c p) s Q E ↔ (c → Meets step p s Q E) ∧ (¬c → Q () s) := by
  rw [when, meets_ite, meets_pure]

theorem exec_onExit {handler : Script Op Sig Out Unit} {r : Except Nat α} : (onExit p handler).run.Exec step s r s' ↔
    ∃ r₁ s₁ r₂, p.run.Exec step s r₁ s₁ ∧ handler.run.Exec step s₁ r₂ s' ∧ r = handled r₁ r₂ := by
  simp only [onExit, ExceptT.run_mk, Prog.exec_bind, Prog.exec_pure]
  constructor
  · rintro ⟨r₁, s₁, hp, r₂, s₂, hhandler, rfl, rfl⟩
    exact ⟨r₁, s₁, r₂, hp, hhandler, rfl⟩
  · rintro ⟨r₁, s₁, r₂, hp, hhandler, rfl⟩
    exact ⟨r₁, s₁, hp, r₂, s', hhandler, rfl, rfl⟩

@[simp] theorem meets_onExit {handler : Script Op Sig Out Unit} : Meets step (onExit p handler) s Q E ↔
    Meets step p s (fun a s' => Meets step handler s' (fun _ => Q a) E)
      fun n s' => Meets step handler s' (fun _ => E n) E := by
  constructor
  · intro h r₁ s₁ hp
    cases r₁
    all_goals
      intro r₂ s' hhandler
      have houtcome := h _ s' (exec_onExit.mpr ⟨_, s₁, r₂, hp, hhandler, rfl⟩)
      cases r₂ <;> exact houtcome
  · intro h r s' he
    obtain ⟨r₁, s₁, r₂, hp, hhandler, rfl⟩ := exec_onExit.mp he
    have hp' := h r₁ s₁ hp
    cases r₁
    all_goals
      have houtcome := hp' r₂ s' hhandler
      cases r₂ <;> exact houtcome

@[simp] theorem meets_attempt {Q : Done Sig (Out o) → σ → Prop} : Meets step (attempt exits o) s Q E ↔
    ∀ d s', step o s d s' → (d.signal = none → Q d s') ∧ ∀ sig, d.signal = some sig → E (exits sig) s' := by
  constructor
  · intro h d s' hstep
    have hr := h (d.next exits) s' (exec_attempt.mpr ⟨d, hstep, rfl⟩)
    constructor
    · intro hsignal
      rw [Done.next_none hsignal] at hr
      exact hr
    · intro sig hsignal
      rw [Done.next_some hsignal] at hr
      exact hr
  · intro h r s' he
    obtain ⟨d, hstep, rfl⟩ := exec_attempt.mp he
    cases hsignal : d.signal with
    | none =>
        rw [Done.next_none hsignal]
        exact (h d s' hstep).1 hsignal
    | some sig =>
        rw [Done.next_some hsignal]
        exact (h d s' hstep).2 sig hsignal

@[simp] theorem meets_sh {Q : Out o → σ → Prop} : Meets step (sh exits o) s Q E ↔
    ∀ d s', step o s d s' → (d.signal = none → d.status = 0 → Q d.out s') ∧
      (d.signal = none → d.status ≠ 0 → E d.status s') ∧ ∀ sig, d.signal = some sig → E (exits sig) s' := by
  rw [sh, meets_bind, meets_attempt]
  refine forall_congr' fun d => forall_congr' fun s' => forall_congr' fun _ => ?_
  rw [← and_assoc]
  refine and_congr_left fun _ => ?_
  rw [meets_ite, meets_pure, meets_throw]
  exact imp_and

/-- Where it does not matter with which status the script exits. -/
theorem meets_attempt_of {Q : Done Sig (Out o) → σ → Prop} {I : σ → Prop} (hI : ∀ d s', step o s d s' → I s')
    (hQ : ∀ d s', step o s d s' → d.signal = none → Q d s') : Meets step (attempt exits o) s Q fun _ => I :=
  meets_attempt.mpr fun d s' hstep => ⟨hQ d s' hstep, fun _ _ => hI d s' hstep⟩

theorem meets_sh_of {Q : Out o → σ → Prop} {I : σ → Prop} (hI : ∀ d s', step o s d s' → I s')
    (hQ : ∀ d s', step o s d s' → d.signal = none → d.status = 0 → Q d.out s') :
    Meets step (sh exits o) s Q fun _ => I :=
  meets_sh.mpr fun d s' hstep => ⟨hQ d s' hstep, fun _ _ => hI d s' hstep, fun _ _ => hI d s' hstep⟩

/-- What holds if the test succeeds, and wherever the message leaves the state. -/
theorem meets_orFail_of [Stderr Op] {holds : Bool} {status : Nat} {message : String} {Q : Unit → σ → Prop}
    {I : σ → Prop}
    (hI : ∀ d s', step (Stderr.logError message) s d s' → I s') (hQ : holds = true → Q () s) :
    Meets step (orFail exits holds status message) s Q fun _ => I := by
  cases holds with
  | true => exact meets_pure.mpr (hQ rfl)
  | false => exact meets_bind.mpr (meets_sh_of hI fun d s' hstep _ _ => meets_throw.mpr (hI d s' hstep))

@[simp] theorem meets_embed {Op' : Type} {Out' : Op' → Type} {e : Op → Op'}
    {step : (o : Op') → σ → Done Sig (Out' o) → σ → Prop} {p : Script Op Sig (fun o => Out' (e o)) α} :
    Meets step (embed e p) s Q E ↔ Meets (fun o => step (e o)) p s Q E := by
  simp only [Meets, exec_embed]

/-- A loop keeps the invariant of its body. -/
theorem meets_forM {f : α → Script Op Sig Out PUnit} {as : List α} {I : σ → Prop}
    (h : ∀ a ∈ as, ∀ s, I s → Meets step (f a) s (fun _ => I) E) (hs : I s) :
    Meets step (as.forM f) s (fun _ => I) E := by
  induction as generalizing s with
  | nil => exact meets_pure.mpr hs
  | cons a as ih =>
      rw [List.forM, meets_bind]
      exact (h a (.head as) s hs).mono (fun _ s₁ hs₁ => ih (fun a' ha => h a' (.tail a ha)) hs₁) fun _ _ => id

/-- A loop establishes for each element what its body establishes for it and keeps for the others. -/
theorem meets_forM_all {f : α → Script Op Sig Out PUnit} {as : List α} {I : σ → Prop} {D : α → σ → Prop}
    (h : ∀ a ∈ as, ∀ s, I s → Meets step (f a) s (fun _ s' => D a s' ∧ I s' ∧ ∀ b ∈ as, D b s → D b s') E)
    (hs : I s) : Meets step (as.forM f) s (fun _ s' => (∀ a ∈ as, D a s') ∧ I s') E := by
  have hall : ∀ done rest, as = done ++ rest → ∀ s, I s → (∀ a ∈ done, D a s) →
      Meets step (rest.forM f) s (fun _ s' => (∀ a ∈ as, D a s') ∧ I s') E := by
    intro done rest
    induction rest generalizing done with
    | nil =>
        intro heq s hs hdone
        rw [List.append_nil] at heq
        subst heq
        exact meets_pure.mpr ⟨hdone, hs⟩
    | cons a rest ih =>
        intro heq s hs hdone
        have hmem : a ∈ as := by rw [heq]; exact List.mem_append_right done (.head rest)
        rw [List.forM, meets_bind]
        refine (h a hmem s hs).mono ?_ fun _ _ => id
        intro _ s₁ hs₁
        obtain ⟨ha, hI, hkeep⟩ := hs₁
        refine ih (done ++ [a]) (by rw [heq, List.append_assoc]; rfl) s₁ hI ?_
        intro b hb
        rcases List.mem_append.mp hb with hb | hb
        · exact hkeep b (by rw [heq]; exact List.mem_append_left _ hb) (hdone b hb)
        · rw [List.mem_singleton.mp hb]
          exact ha
  exact hall [] as rfl s hs fun _ h => by cases h

end Script

end Cmp50Unlock.Lib
