import Cmp50Unlock.IdleGovernor.Lemmas.Gate
import Cmp50Unlock.IdleGovernor.Lemmas.Rule

/-!
# Counting idle polls

`idlePolls` is the number of idle polls of a card in a row. Applying or giving up a request releases only the cards
that are held, so the count of any other card goes on.
-/

namespace Cmp50Unlock.IdleGovernor

open Lib

/-! ## Rows of idle polls -/

section
variable {c : Config} {i : Int} {e : Event} {log : List Event}

theorem switches_neutral (h : switches e = true) : endsRow c i e = false ∧ isPoll i e = false := by
  obtain ⟨o, a⟩ := e
  cases o with
  | assign x => cases x <;> first | exact ⟨rfl, rfl⟩ | cases h
  | _ => cases h

theorem carriedOver_cons_neutral (hends : endsRow c i e = false) (hswitch : switches e = false) :
    CarriedOver c i (e :: log) ↔ CarriedOver c i log := by
  constructor
  · rintro ⟨newer, e', older, heq, hswitch', hnewer, hpos⟩
    cases newer with
    | nil =>
        cases heq
        rw [hswitch] at hswitch'
        cases hswitch'
    | cons x newer =>
        cases heq
        exact ⟨newer, e', older, rfl, hswitch', fun e he => hnewer e (.tail _ he), hpos⟩
  · rintro ⟨newer, e', older, rfl, hswitch', hnewer, hpos⟩
    exact ⟨e :: newer, e', older, rfl, hswitch', List.forall_mem_cons.mpr ⟨⟨hends, hswitch⟩, hnewer⟩, hpos⟩

theorem carriedOver_cons_switch (h : switches e = true) :
    CarriedOver c i (e :: log) ↔ 0 < pollsSince (endsRow c i) i log := by
  constructor
  · rintro ⟨newer, e', older, heq, -, hnewer, hpos⟩
    cases newer with
    | nil =>
        cases heq
        exact hpos
    | cons x newer =>
        cases heq
        have hx := (hnewer e (.head newer)).2
        rw [h] at hx
        cases hx
  · exact fun hpos => ⟨[], e, log, rfl, h, fun _ he => absurd he List.not_mem_nil, hpos⟩

theorem not_carriedOver_cons_ends (h : endsRow c i e = true) : ¬ CarriedOver c i (e :: log) := by
  rintro ⟨newer, e', older, heq, hswitch, hnewer, -⟩
  cases newer with
  | nil =>
      cases heq
      rw [(switches_neutral hswitch).1] at h
      cases h
  | cons x newer =>
      cases heq
      rw [(hnewer e (.head newer)).1] at h
      cases h

/-- The row began before the activation just when it has more polls than the activation. -/
theorem carriedOver_iff (c : Config) (i : Int) (log : List Event) : CarriedOver c i log ↔
    pollsSince (fun e => endsRow c i e || switches e) i log < pollsSince (endsRow c i) i log := by
  induction log with
  | nil =>
      refine iff_of_false ?_ (Nat.lt_irrefl 0)
      rintro ⟨newer, e, older, heq, -⟩
      cases newer <;> cases heq
  | cons e log ih =>
      cases hends : endsRow c i e with
      | true =>
          simp only [pollsSince, hends, Bool.true_or, if_true]
          exact iff_of_false (not_carriedOver_cons_ends hends) (Nat.lt_irrefl 0)
      | false =>
          cases hswitch : switches e with
          | true =>
              simp only [pollsSince, hends, hswitch, Bool.or_true, if_true,
                (switches_neutral (i := i) (c := c) hswitch).2,
                Bool.false_eq_true, if_false, Nat.zero_add]
              exact carriedOver_cons_switch hswitch
          | false =>
              simp only [pollsSince, hends, hswitch, Bool.or_false, Bool.false_eq_true, if_false,
                Nat.add_lt_add_iff_left]
              exact (carriedOver_cons_neutral hends hswitch).trans ih

end

/-! ## The counter -/

/-- The counter of the card is the length of its row. -/
def Counted (c : Config) (i : Int) (w : World) : Prop :=
  (w.gov.state i).idlePolls = pollsSince (endsRow c i) i w.log

/-- The operation neither reads the utilization of card `i` nor sets its counter, a release apart. -/
def Op.KeepsCount (i : Int) : Op → Prop
  | .utilization j | .assign (.idlePolls j _) => j ≠ i
  | _ => True

section
variable {c : Config} {w w' : World} {i j : Int} {o : Op} {a : o.Ans} {d : Dir} {A : Answers}

theorem Op.Releases.keepsCount (h : o.Releases c) : o.KeepsCount i := by
  cases o with
  | assign x => cases x <;> first | exact h.elim | trivial
  | utilization j => exact h.elim
  | _ => trivial

theorem Op.Syncs.keepsCount (h : o.Syncs c) : o.KeepsCount i := by
  cases o with
  | assign x => cases x <;> first | exact h.elim | trivial
  | utilization j => exact h.elim
  | _ => trivial

theorem Op.Restores.keepsCount (h : o.Restores c j) : o.KeepsCount i := h.releasesCard.2.keepsCount

theorem Op.Lowers.keepsCount (h : o.Lowers c j) : o.KeepsCount i := by
  cases o with
  | assign x => cases x <;> first | exact h.elim | trivial
  | utilization j => exact h.elim
  | _ => trivial

theorem Op.Fans.keepsCount (h : o.Fans j) : o.KeepsCount i := by
  cases o with
  | assign x => cases x <;> first | exact h.elim | trivial
  | utilization j => exact h.elim
  | _ => trivial

theorem Op.Polls.keepsCount (h : o.Polls c j) (hij : j ≠ i) : o.KeepsCount i := by
  rcases h with rfl | h
  · exact hij
  · cases o with
    | assign x =>
        cases x with
        | idlePolls k n =>
            obtain rfl : k = j := h
            exact hij
        | _ => first | exact h.elim | trivial
    | utilization k => exact h.elim
    | _ => trivial

theorem idlePolls_update {f : CardState → CardState} (g : Governor) (j : Int)
    (h : j = i → (f (g.state i)).idlePolls = (g.state i).idlePolls) :
    ((g.update j f).state i).idlePolls = (g.state i).idlePolls := by
  rcases state_update g i j f with hs | ⟨rfl, hs⟩
  · rw [hs]
  · rw [hs, h rfl]

theorem counted_clear {d : Dir} : Counted c i (w.after (.assign (.clear i)) () d) := by
  have hstate : (w.after (.assign (.clear i)) () d).gov.state i = .zero := by
    rw [gov_state, view_after_clear, if_pos rfl, cleared_get]
  have hends : endsRow c i ⟨.assign (.clear i), ()⟩ = true := beq_self_eq_true i
  rw [Counted, hstate]
  simp only [World.after, pollsSince, hends, if_true]
  rfl

/-- An event that is neither a poll nor the end of a row. -/
theorem pollsSince_neutral {e : Event} (log : List Event) (hends : endsRow c i e = false) (hpoll : isPoll i e = false) :
    pollsSince (endsRow c i) i (e :: log) = pollsSince (endsRow c i) i log := by
  simp only [pollsSince, hends, hpoll, Bool.false_eq_true, if_false, Nat.zero_add]

theorem Op.KeepsCount.counted (h : o.KeepsCount i) (hw : Counted c i w) : Counted c i (w.after o a d) := by
  have hneutral : endsRow c i ⟨o, a⟩ = false → isPoll i ⟨o, a⟩ = false →
      ((w.gov.step o).state i).idlePolls = (w.gov.state i).idlePolls → Counted c i (w.after o a d) := by
    intro hends hpoll hstate
    change ((w.gov.step o).state i).idlePolls = _
    rw [hstate, World.after, pollsSince_neutral w.log hends hpoll]
    exact hw
  cases o with
  | utilization j =>
      have hj : (j == i) = false := beq_false_of_ne h
      refine hneutral ?_ hj rfl
      cases a with
      | error err => exact hj
      | ok u => exact Bool.and_eq_false_iff.mpr (.inl hj)
  | assign x =>
      cases x with
      | idlePolls j n => exact hneutral rfl rfl (idlePolls_update w.gov j fun hj => absurd hj h)
      | lowPower j => exact hneutral rfl rfl (idlePolls_update w.gov j fun _ => rfl)
      | manualFan j b => exact hneutral rfl rfl (idlePolls_update w.gov j fun _ => rfl)
      | clear j =>
          by_cases hj : j = i
          · subst hj
            exact counted_clear
          · exact hneutral (beq_false_of_ne hj) rfl (idlePolls_update w.gov j fun h => absurd h hj)
      | activate control => exact hneutral rfl rfl rfl
      | deactivate => exact hneutral rfl rfl rfl
  | _ => exact hneutral rfl rfl rfl

theorem counted_exec {α : Type} {p : Gov α} {S : Op → Prop} {Q : α → Prop} {r : α} (hp : p.Within S Q)
    (hS : ∀ o, S o → o.KeepsCount i) (he : p.Exec (Step A) w r w') (hw : Counted c i w) : Counted c i w' :=
  (hp.exec (I := Counted c i) (fun o w a w' ho hst hw => by
    obtain ⟨-, d, -, rfl⟩ := hst
    exact (hS o ho).counted hw) he hw).2

end

/-! ## The poll that forces P8 -/

/-- The poll under way is the one with which the counter reaches its bound. -/
structure Ready (c : Config) (i : Int) (w : World) : Prop where
  counted : Counted c i w
  reached : (w.gov.state i).idlePolls = c.options.idleAfter
  polled : PolledNow c i w.log

/-- What is known when a card is forced into P8. -/
def Due (c : Config) (w : World) : Op → Prop
  | .call (.setPState i pstate) => pstate = 8 → Ready c i w
  | _ => True

/-- The operation is no command to P8. -/
def Op.Spares : Op → Prop
  | .call (.setPState _ pstate) => pstate ≠ 8
  | _ => True

section
variable {c : Config} {w w' : World} {i j : Int} {o : Op} {a : o.Ans} {d : Dir} {A : Answers}

theorem Op.Spares.due (h : o.Spares) : Due c w o := by
  cases o with
  | call cmd =>
      cases cmd with
      | setPState k pstate => exact fun h8 => absurd h8 h
      | _ => trivial
  | _ => trivial

theorem due_of_spares {α : Type} {p : Gov α} (hp : p.Uses Op.Spares) :
    p.wp (Step A) (Due c) w fun r w' => p.Exec (Step A) w r w' :=
  Prog.wp_iff.mpr ⟨fun _ _ hi => (hp.issued hi).due, fun _ _ he => he⟩

theorem clockCall_spares (index : Int) : (Op.call (c.clockCall index)).Spares := by
  unfold Config.clockCall
  split <;> trivial

theorem Op.Restores.spares (h : o.Restores c j) : o.Spares := by
  cases o with
  | call cmd =>
      rcases mem_releaseCalls.mp h with rfl | rfl | ⟨-, rfl⟩ | rfl
      · trivial
      · exact fun h8 => absurd h8 (by decide)
      · trivial
      · exact clockCall_spares j
  | _ => trivial

theorem Op.Fans.spares (h : o.Fans j) : o.Spares := by
  cases o with
  | call cmd => cases cmd <;> first | exact h.elim | trivial
  | _ => trivial

/-! ### What does not force P8 -/

theorem cleanup_spares : (cleanup c).Uses Op.Spares :=
  Prog.uses_foldlM (fun gpu _ result => (cleanupGPU_restores result gpu).mono (fun _ h => h.2.spares) fun _ h => h) none

theorem releaseAll_spares : (releaseAll c).Uses Op.Spares := by
  rw [releaseAll, Prog.Uses, Prog.within_bind]
  refine ⟨trivial, fun keys => Prog.uses_forM fun i _ => ?_⟩
  simp only [releaseHeld, Prog.Uses, Prog.within_bind, Prog.within_ite, Prog.within_pure, within_getGov]
  exact ⟨trivial, fun _ => ⟨fun _ => Prog.Within.mono (release_restores i) (fun _ h => h.spares) fun _ _ => trivial,
    fun _ => trivial⟩⟩

theorem disable_spares : (disable c).Uses Op.Spares := by
  simp only [disable, Prog.Uses, Prog.within_bind, Prog.within_pure, within_assign, within_publishInactive]
  exact releaseAll_spares.within fun _ => ⟨trivial, trivial, fun _ => trivial⟩

theorem applyControl_spares (control : Control) : (applyControl c control).Uses Op.Spares := by
  simp only [applyControl, Prog.Uses, Prog.within_bind, within_assign, within_publishActive]
  refine releaseAll_spares.within fun _ => ⟨trivial, trivial, ?_⟩
  rintro (_ | err)
  · trivial
  · exact ⟨trivial, fun _ => trivial⟩

theorem syncControl_spares : (syncControl c).Uses Op.Spares := by
  rw [syncControl, Prog.Uses, Prog.within_bind, within_load]
  refine ⟨trivial, ?_⟩
  rintro (err | control)
  · trivial
  · simp only [Prog.within_ite, Prog.within_bind, Prog.within_pure, changeControl, within_getGov]
    refine ⟨fun _ => disable_spares, fun _ => ⟨trivial, fun g => ⟨fun _ => trivial, fun _ => ?_⟩⟩⟩
    cases validate c control with
    | none => exact applyControl_spares control
    | some err => trivial

/-! ### One card of a poll -/

theorem PolledNow.after (h : PolledNow c i w.log) (hselect : o ≠ .select) (hpoll : isPoll i ⟨o, a⟩ = false) :
    PolledNow c i (w.after o a d).log := by
  obtain ⟨newer, u, older, hlog, hu, hnewer⟩ := h
  refine ⟨⟨o, a⟩ :: newer, u, older, ?_, hu, List.forall_mem_cons.mpr ⟨⟨hselect, hpoll⟩, hnewer⟩⟩
  rw [World.after, hlog, List.cons_append]

theorem Ready.lowers (h : Ready c i w) (ho : o.Lowers c i) : Ready c i (w.after o a d) where
  counted := ho.keepsCount.counted h.counted
  reached := by
    refine Eq.trans ?_ h.reached
    cases o with
    | assign x =>
        cases x with
        | lowPower j => exact idlePolls_update w.gov j fun _ => rfl
        | _ => exact ho.elim
    | _ => rfl
  polled := by
    cases o with
    | call cmd => exact h.polled.after (by simp) rfl
    | assign x => exact h.polled.after (by simp) rfl
    | _ => exact ho.elim

theorem Ready.due (h : Ready c i w) (ho : o.Lowers c i) : Due c w o := by
  cases o with
  | call cmd =>
      cases cmd with
      | setPState j pstate =>
          obtain rfl : j = i := ho.1
          exact fun _ => h
      | _ => trivial
  | _ => trivial

theorem lowPower_due (h : Ready c i w) : (lowPower c i).wp (Step A) (Due c) w fun _ w' => Counted c i w' := by
  refine ((lowPower_lowers i).wp (I := Ready c i) (fun o w a w' ho hst hw => ?_) (fun o w ho hw => hw.due ho) h).mono
    fun _ _ h => h.2.counted
  obtain ⟨-, d, -, rfl⟩ := hst
  exact hw.lowers ho

theorem pollFan_due (h : Counted c i w) : (pollFan c i).wp (Step A) (Due c) w fun _ w' => Counted c i w' :=
  (due_of_spares ((pollFan_fans i).mono (fun _ h => h.spares) fun _ h => h)).mono fun _ _ he =>
    counted_exec (pollFan_fans i) (fun _ ho => ho.keepsCount) he h

/-- The state of a card after its counter was set. -/
theorem state_counted {n : Int} {d : Dir} (hstate : (w.view i).state.isSome) :
    (w.after (.assign (.idlePolls i n)) () d).gov.state i = { w.gov.state i with idlePolls := n } := by
  rw [gov_state, view_counted, View.becomes_get _ hstate, gov_state]

theorem pollsSince_idle {u : BitVec 32} (hu : ¬ u > c.options.utilThreshold) (log : List Event) :
    pollsSince (endsRow c i) i (⟨.utilization i, .ok u⟩ :: log) = pollsSince (endsRow c i) i log + 1 := by
  have hends : endsRow c i ⟨.utilization i, .ok u⟩ = false := Bool.and_eq_false_iff.mpr (.inr (decide_eq_false hu))
  have hpoll : isPoll i ⟨.utilization i, .ok u⟩ = true := beq_self_eq_true i
  simp only [pollsSince, hends, hpoll, Bool.false_eq_true, if_false, if_true, Nat.add_comm]

theorem pollIdle_due {u : BitVec 32} (hstate : (w.view i).state.isSome) (hu : ¬ u > c.options.utilThreshold)
    (hcount : Counted c i w)
    (hbelow : (w.gov.state i).lowPower = false → (w.gov.state i).idlePolls < c.options.idleAfter) :
    (pollIdle c i).wp (Step A) (Due c) (w.next (.utilization i) (.ok u)) fun r w' => r = none → Counted c i w' := by
  simp only [pollIdle, Prog.wp_bind, wp_getGov, wp_assign, Prog.wp_ite, Prog.wp_pure]
  refine ⟨trivial, fun _ => ⟨trivial, fun _ => ⟨trivial, fun _ => ?_⟩⟩⟩
  generalize hw₁ : World.next (World.next (w.next (.utilization i) (.ok u)) .getGov _)
    (.assign (.idlePolls i _)) () = w₁
  have hstate₁ : w₁.gov.state i = { w.gov.state i with idlePolls := (w.gov.state i).idlePolls + 1 } := by
    rw [← hw₁]
    exact state_counted (w := (w.next (.utilization i) (.ok u)).next .getGov w.gov) (d := w.dir) hstate
  have hcount₁ : Counted c i (w₁.next .getGov w₁.gov) := by
    refine Op.KeepsCount.counted trivial ?_
    have hlog : pollsSince (endsRow c i) i w₁.log = pollsSince (endsRow c i) i w.log + 1 := by
      rw [← hw₁]
      exact (pollsSince_neutral _ rfl rfl).trans ((pollsSince_neutral _ rfl rfl).trans (pollsSince_idle hu w.log))
    rw [Counted, hstate₁, hlog, Int.natCast_succ]
    exact congrArg (· + 1) hcount
  have hpolled : PolledNow c i (w₁.next .getGov w₁.gov).log := by
    have hread : PolledNow c i (w.next (.utilization i) (.ok u)).log :=
      ⟨[], u, w.log, rfl, BitVec.not_lt.mp hu, fun _ he => absurd he List.not_mem_nil⟩
    rw [← hw₁]
    exact ((hread.after (by simp) rfl).after (by simp) rfl).after (by simp) rfl
  refine ⟨fun htime => ?_, fun _ => (pollFan_due hcount₁).mono fun _ _ h _ => h⟩
  rw [hstate₁, Bool.and_eq_true, Bool.not_eq_true'] at htime
  have hlow := hbelow htime.1
  have hreached : (w.gov.state i).idlePolls + 1 ≥ c.options.idleAfter := of_decide_eq_true htime.2
  refine (lowPower_due ⟨hcount₁, ?_, hpolled⟩).mono fun r w₂ h₂ => ?_
  · exact (congrArg CardState.idlePolls hstate₁).trans (Int.le_antisymm hlow hreached)
  · cases r with
    | some err => exact fun h => by cases h
    | none => exact (pollFan_due h₂).mono fun _ _ h _ => h

theorem pollBusy_due {u : BitVec 32} (hstate : (w.view i).state.isSome) (hu : u > c.options.utilThreshold) :
    (pollBusy c i).wp (Step A) (Due c) (w.next (.utilization i) (.ok u)) fun _ w' => Counted c i w' := by
  simp only [pollBusy, Prog.wp_bind, wp_getGov, wp_assign, Prog.wp_ite, Prog.wp_pure]
  refine ⟨trivial, fun _ => ⟨trivial, fun _ => ?_⟩⟩
  have hcount : Counted c i (((w.next (.utilization i) (.ok u)).next (.assign (.idlePolls i 0)) ()).next .getGov
      ((w.next (.utilization i) (.ok u)).next (.assign (.idlePolls i 0)) ()).gov) := by
    refine Op.KeepsCount.counted trivial ?_
    have hends : endsRow c i ⟨.utilization i, .ok u⟩ = true :=
      Bool.and_eq_true_iff.mpr ⟨beq_self_eq_true i, decide_eq_true hu⟩
    have hlog : pollsSince (endsRow c i) i (⟨.utilization i, .ok u⟩ :: w.log) = 0 := if_pos hends
    have hidle := state_counted (w := w.next (.utilization i) (.ok u)) (n := 0) (d := w.dir) hstate
    exact (congrArg CardState.idlePolls hidle).trans
      (congrArg Nat.cast ((pollsSince_neutral _ rfl rfl).trans hlog)).symm
  refine ⟨fun _ => ?_, fun _ => hcount⟩
  exact (due_of_spares ((release_restores i).mono (fun _ h => h.spares) fun _ h => h)).mono fun _ _ he =>
    counted_exec (release_restores i) (fun _ ho => ho.keepsCount) he hcount

theorem pollCard_due (hstate : (w.view i).state.isSome) (hcount : Counted c i w)
    (hbelow : (w.gov.state i).lowPower = false → (w.gov.state i).idlePolls < c.options.idleAfter) :
    (pollCard c i).wp (Step A) (Due c) w fun r w' => r = none → Counted c i w' := by
  rw [pollCard, Prog.wp_bind, wp_utilization]
  refine ⟨trivial, ?_⟩
  rintro (err | u) _
  · exact fun h => by cases h
  · exact Prog.wp_ite.mpr ⟨fun hu => (pollBusy_due hstate hu).mono fun _ _ h _ => h,
      fun hu => pollIdle_due hstate hu hcount hbelow⟩

end

/-! ## Runs -/

/-- The counter of a card that is not held is below its bound. -/
def Below (c : Config) (_ : Control) (v : View) : Prop := v.get.lowPower = false → v.get.idlePolls < c.options.idleAfter

section
variable {c : Config} {w w' : World} {i : Int} {A : Answers}

theorem below_cleared (hafter : 0 < c.options.idleAfter) (control : Control) (v : View) :
    Below c control (v.update fun _ => .zero) := by
  intro _
  rw [cleared_get]
  exact hafter

theorem FanStep.counts {control : Control} {s s' : CardState} {cmds : List Call} (h : FanStep c control i s s' cmds) :
    s'.lowPower = s.lowPower ∧ s'.idlePolls = s.idlePolls := by
  cases h <;> exact ⟨rfl, rfl⟩

theorem belowRule (hafter : 0 < c.options.idleAfter) : CardRule c A (Below c) where
  free _ _ _ _ h := h
  released control _ _ _ _ _ := below_cleared hafter control _
  cleaned control _ _ _ _ := below_cleared hafter control _
  polled control v i u s cmds hstate h hpolled hlow := by
    rw [View.becomes_get v hstate] at hlow ⊢
    cases hpolled with
    | busy => exact hafter
    | released => exact hafter
    | idle _ hlowPower hfan =>
        rw [hfan.counts.1] at hlow
        rw [hfan.counts.2]
        cases hlowPower with
        | stays hstays => exact hstays.resolve_left (Bool.eq_false_iff.mp hlow)
        | forced => cases hlow

/-- The counters of the supported cards are the lengths of their rows. -/
def AllCounted (c : Config) (w : World) : Prop := ∀ i, SupportedIndex c i → Counted c i w

theorem allCounted_exec {α : Type} {p : Gov α} {S : Op → Prop} {Q : α → Prop} {r : α} (hp : p.Within S Q)
    (hS : ∀ o, S o → ∀ i, o.KeepsCount i) (he : p.Exec (Step A) w r w') (hw : AllCounted c w) : AllCounted c w' :=
  fun i hi => counted_exec hp (fun o ho => hS o ho i) he (hw i hi)

theorem restore_counted (result : Option GoError) : (restore c i result).wp (Step A) always w fun _ => Counted c i := by
  simp only [restore, Prog.wp_bind, wp_call, wp_assign, wp_restoreClocks, Prog.wp_pure, true_and]
  exact fun _ _ => Prog.wp_exec.mono fun _ _ _ _ _ _ => counted_clear

/-- After `Cleanup`, whatever failed before it, every counter agrees with its row. -/
theorem cleanup_counted : (cleanup c).wp (Step A) always w fun _ => AllCounted c := by
  refine Prog.wp.mono (Prog.wp_foldlM_all (I := fun _ => True) (D := fun gpu w => gpu.Supported → Counted c gpu.index w)
    (fun gpu _ result w₁ _ => ?_) trivial) fun _ w' ⟨_, hall⟩ i ⟨gpu, hmem, hi, hs⟩ => hi ▸ hall gpu (.inl hmem) hs
  refine Prog.wp_exec.mono fun r w₂ he => ⟨trivial, fun hs => ?_, fun gpu' h hs => ?_⟩
  · rw [cleanupGPU, if_neg (not_not_intro hs)] at he
    obtain ⟨err, w₃, -, he⟩ := Prog.exec_bind.mp he
    exact (restore_counted _).exec he
  · exact counted_exec (cleanupGPU_restores result gpu) (fun _ ho => ho.2.keepsCount) he (h hs)

theorem cleanup_due : (cleanup c).wp (Step A) (Due c) w fun _ => AllCounted c :=
  (due_of_spares cleanup_spares).mono fun _ _ he => cleanup_counted.exec he

theorem fail_due (err : GoError) : (fail c err).wp (Step A) (Due c) w fun _ => AllCounted c := by
  simp only [fail, Prog.wp_bind, wp_assign, wp_publishError]
  refine cleanup_due.mono fun _ w₁ hw₁ => ⟨trivial, fun _ => ⟨trivial, fun d _ _ i hi => ?_⟩⟩
  exact Op.KeepsCount.counted trivial (Op.KeepsCount.counted trivial (hw₁ i hi))

theorem disable_due (hw : AllCounted c w) : (disable c).wp (Step A) (Due c) w fun _ => AllCounted c :=
  (due_of_spares disable_spares).mono fun _ _ he =>
    allCounted_exec disable_uses (fun _ ho _ => ho.syncs.keepsCount) he hw

theorem syncControl_due (hw : AllCounted c w) : (syncControl c).wp (Step A) (Due c) w fun _ => AllCounted c :=
  (due_of_spares syncControl_spares).mono fun _ _ he =>
    allCounted_exec syncControl_uses (fun _ ho _ => ho.keepsCount) he hw

theorem poll_due (hafter : 0 < c.options.idleAfter) (hinv : Inv c w.gov) (hactive : w.gov.active) (hw : AllCounted c w)
    (hbelow : Follows c (Below c) w.gov.control w) :
    (poll c).wp (Step A) (Due c) w fun r w' => r = none → AllCounted c w' := by
  have hsupported : ∀ i ∈ w.gov.control.indices, SupportedIndex c i := fun i hi =>
    validate_supported (hinv.governs hactive).validated hi
  rw [poll, Prog.wp_bind, wp_getGov]
  refine ⟨trivial, fun _ => ?_⟩
  refine Prog.wp.mono (Prog.wp_each (I := fun w₁ => AllCounted c w₁ ∧ Follows c (Below c) w₁.gov.control w₁ ∧
    ∀ i ∈ w.gov.control.indices, (w₁.view i).state.isSome) (Q := fun _ _ => True)
    (fun j hj w₁ hinv₁ => ?_) ⟨fun i hi => Op.KeepsCount.counted trivial (hw i hi), hbelow,
      fun i hi => (hinv.domain i).mpr (hsupported i hi).mem⟩) fun r w' hr hnone => ?_
  · obtain ⟨hcount, hbelow₁, hsome⟩ := hinv₁
    have hj' := hsupported j hj
    have hrule := ((belowRule hafter).pollCard (A := A) (hsome j hj) hbelow₁).with_exec
    refine ((pollCard_due (hsome j hj) (hcount j hj') (hbelow₁ j hj')).and hrule).imp (fun _ _ h => h.1) ?_
    rintro r w₂ ⟨hcount₂, hbelow₂, he⟩
    cases r with
    | some err => trivial
    | none =>
        have hcontrol := (within_keepsControl (pollCard_uses j) (fun _ h => h.keepsControl) he).1
        refine ⟨fun i hi => ?_, hcontrol ▸ hbelow₂ rfl, fun i hi => (exec_isSome he).trans (hsome i hi)⟩
        by_cases hij : j = i
        · exact hij ▸ hcount₂ rfl
        · exact counted_exec (pollCard_uses j) (fun _ ho => ho.keepsCount hij) he (hcount i hi)
  · subst hnone
    exact hr.1

/-- What holds at the labels, for the counters. -/
structure CountInv (c : Config) (l : Label) (w : World) : Prop where
  run : RunInv c l w
  counted : AllCounted c w
  below : l ≠ .entry → Follows c (Below c) w.gov.control w

theorem run_due (hafter : 0 < c.options.idleAfter) {l : Label} (h : CountInv c l w) :
    (run c l).wp (Step A) (Due c) w (Goto.Post (fun _ => AllCounted c) fun _ => AllCounted c) := by
  cases l with
  | entry =>
      simp only [run, Prog.wp_bind, Prog.wp_pure]
      exact cleanup_due.mono fun _ _ h => h
  | startup =>
      simp only [run, startup, Prog.wp_bind, Prog.wp_pure]
      refine (syncControl_due h.counted).mono fun r w₁ hw₁ => ?_
      cases r with
      | none => exact hw₁
      | some err => exact Prog.wp_ite.mpr ⟨fun _ => fail_due err, fun _ => hw₁⟩
  | wait =>
      have hwake : ∀ a, AllCounted c (w.next .select a) := fun a i hi => Op.KeepsCount.counted trivial (h.counted i hi)
      rw [run, Prog.wp_bind, wp_select]
      refine ⟨trivial, ?_⟩
      rintro (_ | _ | _) _
      · simp only [Prog.wp_bind, Prog.wp_pure]
        exact cleanup_due.mono fun _ _ h => h
      · simp only [controlTick, Prog.wp_bind, Prog.wp_pure]
        refine (syncControl_due (hwake _)).mono fun r w₁ hw₁ => ?_
        cases r with
        | none => exact hw₁
        | some err => exact Prog.wp_ite.mpr ⟨fun _ => disable_due hw₁, fun _ => fail_due err⟩
      · simp only [gpuTick, Prog.wp_bind, wp_getGov, Prog.wp_ite, Prog.wp_pure]
        have hw₁ : AllCounted c w.polling := fun i hi => Op.KeepsCount.counted trivial (hwake _ i hi)
        refine ⟨trivial, fun _ => ⟨fun hactive => ?_, fun _ => hw₁⟩⟩
        refine (poll_due (w := w.polling) hafter h.run.inv hactive hw₁ (h.below (by decide))).mono fun r w₂ hw₂ => ?_
        cases r with
        | none => exact hw₂ rfl
        | some err => exact fail_due err

variable {cards : Int → Card} {dir : Dir} {l : Label} {o : Op}

theorem ComesTo.countInv (hafter : 0 < c.options.idleAfter) (h : ComesTo c A cards dir l w) : CountInv c l w := by
  refine Goto.Reaches.inv (I := CountInv c) h ⟨runInv_start cards dir, fun i _ => ?_, fun h => absurd rfl h⟩
    fun l₁ w₁ l₂ w₂ hw₁ he => ⟨(run_sound hw₁.run).exec he, (run_due hafter hw₁).exec he,
      fun _ => ((belowRule hafter).run hw₁.run.inv hw₁.below).exec he⟩
  exact congrArg CardState.idlePolls (newGovernor_state c i)

theorem Issues.due (hafter : 0 < c.options.idleAfter) (h : Issues c A cards dir o w) : Due c w o := by
  obtain ⟨l, w₁, hreach, hissued⟩ := h
  exact (run_due hafter (ComesTo.countInv hafter hreach)).issued hissued

end

end Cmp50Unlock.IdleGovernor
