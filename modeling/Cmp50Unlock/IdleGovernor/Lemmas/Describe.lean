import Cmp50Unlock.IdleGovernor.Lemmas.Rule

/-!
# Cards are set to what is remembered

When every command succeeds, what a card is set to is a function of what is remembered of it and of the request that
is followed. A core offset that is not configured is never touched.
-/

namespace Cmp50Unlock.IdleGovernor

open Lib

/-! ## The effect of commands -/

section
variable (c : Config) (i : Int) (card : Card)

theorem issues_succeeding_card (v : View) (cmds : List Call) :
    (v.issues (succeeding cmds)).card = cmds.foldl Card.apply v.card := by
  induction cmds generalizing v with
  | nil => rfl
  | cons cmd cmds ih => exact ih (v.issue cmd none)

theorem releaseCalls_card (fan : Bool) : (releaseCalls c i fan).foldl Card.apply card =
    { pstate := autoPState, fan := if fan then .auto else card.fan, clocks := c.loadClocks,
      coreOffset := if c.hasCoreOffset then c.coreOffset else card.coreOffset } := by
  simp only [releaseCalls, restoreCalls, offsetCalls, Config.clockCall, Config.loadClocks]
  cases fan <;> cases c.hasCoreOffset <;> cases c.hasClock <;> rfl

theorem lowPowerCalls_card : (lowPowerCalls c i).foldl Card.apply card =
    { pstate := 8, fan := card.fan, clocks := .default,
      coreOffset := if c.hasCoreOffset then 0 else card.coreOffset } := by
  simp only [lowPowerCalls]
  cases c.hasCoreOffset <;> rfl

end

/-! ## What is remembered describes the card -/

/-- The card is set to what is remembered of it; an offset counts only when one is configured. -/
structure Fits (c : Config) (control : Control) (s : CardState) (card : Card) : Prop where
  pstate : card.pstate = if s.lowPower then 8 else autoPState
  fan : card.fan = if s.manualFan then .manual (BitVec.ofInt 32 control.idleFanPercent) else .auto
  clocks : card.clocks = if s.lowPower then .default else c.loadClocks
  coreOffset : c.hasCoreOffset → card.coreOffset = if s.lowPower then 0 else c.coreOffset

section
variable {c : Config} {control : Control} {i : Int} {s s' : CardState} {card : Card} {cmds : List Call}

theorem fits_released {fan : Bool} (hfan : (if fan then Fan.auto else card.fan) = .auto) :
    Fits c control .zero ((releaseCalls c i fan).foldl Card.apply card) := by
  rw [releaseCalls_card]
  exact ⟨rfl, hfan, rfl, fun hoff => if_pos hoff⟩

theorem Fits.idlePolls (h : Fits c control s card) (n : Int) : Fits c control { s with idlePolls := n } card :=
  ⟨h.pstate, h.fan, h.clocks, h.coreOffset⟩

theorem Fits.lowPower (h : Fits c control s card) (hstep : LowPower c i s s' cmds) :
    Fits c control s' (cmds.foldl Card.apply card) := by
  cases hstep with
  | stays => exact h
  | forced =>
      rw [lowPowerCalls_card]
      exact ⟨rfl, h.fan, rfl, fun hoff => if_pos hoff⟩

theorem Fits.fanStep (h : Fits c control s card) (hstep : FanStep c control i s s' cmds) :
    Fits c control s' (cmds.foldl Card.apply card) := by
  cases hstep with
  | skipped => exact h
  | hot => exact ⟨h.pstate, rfl, h.clocks, h.coreOffset⟩
  | cool => exact ⟨h.pstate, rfl, h.clocks, h.coreOffset⟩
  | kept => exact h

theorem Fits.polled {u : BitVec 32} (h : Fits c control s card) (hpolled : Polled c control i s u s' cmds) :
    Fits c control s' (cmds.foldl Card.apply card) := by
  cases hpolled with
  | busy => exact h.idlePolls 0
  | released =>
      refine fits_released ?_
      cases hmanual : s.manualFan
      · simpa [hmanual] using h.fan
      · rfl
  | idle _ hlow hfan =>
      rw [List.foldl_append]
      exact ((h.idlePolls _).lowPower hlow).fanStep hfan

theorem Attempts.of_succeed {cmds : List Call} {calls : Calls} (h : Attempts settersSucceed cmds calls) :
    calls = IdleGovernor.succeeding cmds := h.succeeding fun x hx => h.answers x hx

theorem fits_cleared {v : View} {calls : Calls} {fan : Bool}
    (hcalls : Attempts settersSucceed (releaseCalls c i fan) calls)
    (hfan : (if fan then Fan.auto else v.card.fan) = .auto) :
    Fits c control ((v.issues calls).update fun _ => .zero).get ((v.issues calls).update fun _ => .zero).card := by
  have hcard : ((v.issues calls).update fun _ => .zero).card = (releaseCalls c i fan).foldl Card.apply v.card := by
    rw [hcalls.of_succeed]
    exact issues_succeeding_card v _
  rw [cleared_get, hcard]
  exact fits_released hfan

theorem fitsRule : CardRule c settersSucceed fun control v => Fits c control v.get v.card where
  free control control' v hfree h := by
    have hmanual : v.get.manualFan = false := hfree .manualFan
    refine ⟨h.pstate, ?_, h.clocks, h.coreOffset⟩
    simpa [hmanual] using h.fan
  released control v i calls h hcalls := by
    refine fits_cleared hcalls ?_
    cases hmanual : v.get.manualFan
    · simpa [hmanual] using h.fan
    · rfl
  cleaned control v i calls hcalls := fits_cleared hcalls rfl
  polled control v i u s cmds hstate h hpolled := by
    rw [View.becomes_get v hstate]
    change Fits c control s (v.issues (succeeding cmds)).card
    rw [issues_succeeding_card]
    exact h.polled hpolled

end

/-! ## Offsets that are not configured -/

/-- Without a configured offset, the cards keep the offsets they had, and no command was about them. -/
structure Untouched (c : Config) (cards : Int → Card) (w : World) : Prop where
  cards : c.hasCoreOffset = false → ∀ i, (w.cards i).coreOffset = (cards i).coreOffset
  log : ∀ e ∈ w.log, e.1.KeepsOffset c

section
variable {c : Config} {A : Answers} {cards : Int → Card} {dir : Dir} {l : Label} {w w' : World} {i : Int}

theorem apply_coreOffset (hoff : c.hasCoreOffset = false) (card : Card) {cmd : Call} (h : c.MayIssue cmd) :
    (card.apply cmd).coreOffset = card.coreOffset := by
  cases cmd with
  | setCoreOffset j offset =>
      rw [Config.MayIssue, hoff] at h
      cases h
  | _ => rfl

theorem Untouched.step {o : Op} {a : o.Ans} (ho : o.KeepsOffset c) (hst : Step A o w a w') (h : Untouched c cards w) :
    Untouched c cards w' := by
  refine ⟨fun hoff i => ?_, ?_⟩
  · obtain ⟨-, d, -, rfl⟩ := hst
    cases o with
    | call cmd =>
        simp only [World.after, cardsStep]
        split
        · cases a with
          | none => exact (apply_coreOffset hoff _ ho).trans (h.cards hoff i)
          | some err => exact h.cards hoff i
        · exact h.cards hoff i
    | _ => exact h.cards hoff i
  · rw [hst.log]
    rintro e (_ | ⟨_, he⟩)
    · exact ho
    · exact h.log e he

theorem untouched_start : Untouched c cards (start c cards dir) :=
  ⟨fun _ _ => rfl, fun _ h => absurd h List.not_mem_nil⟩

theorem untouched_exec {α : Type} {p : Gov α} {r : α} (hp : p.Uses (Op.KeepsOffset c)) (he : p.Exec (Step A) w r w')
    (h : Untouched c cards w) : Untouched c cards w' :=
  (hp.exec (I := Untouched c cards) (fun _ _ _ _ ho hst h => h.step ho hst) he h).2

theorem ComesTo.untouched (h : ComesTo c A cards dir l w) : Untouched c cards w :=
  Goto.Reaches.inv (I := fun _ w => Untouched c cards w) h untouched_start fun l₁ _ _ _ hw he =>
    untouched_exec (run_keepsOffset l₁) he hw

theorem Ends.untouched (h : Ends c A cards dir w) : Untouched c cards w := by
  obtain ⟨l, w₁, hreach, he⟩ := h
  exact untouched_exec (run_keepsOffset l) he (ComesTo.untouched hreach)

theorem mem_callsOf {log : List Event} {cmd : Call} {err : Option GoError} (h : (cmd, err) ∈ callsOf i log) :
    ⟨.call cmd, err⟩ ∈ log := by
  induction log with
  | nil => cases h
  | cons e log ih =>
      obtain ⟨o, a⟩ := e
      cases o with
      | call cmd' =>
          simp only [callsOf] at h
          split at h
          · rcases List.mem_cons.mp h with heq | h
            · cases heq
              exact .head log
            · exact .tail _ (ih h)
          · exact .tail _ (ih h)
      | _ => exact .tail _ (ih h)

theorem Untouched.calls (h : Untouched c cards w) (hoff : c.hasCoreOffset = false) {offset : Int}
    {err : Option GoError} :
    (.setCoreOffset i offset, err) ∉ callsOf i w.log := by
  intro hmem
  have hkeep := h.log _ (mem_callsOf hmem)
  rw [Op.KeepsOffset, Config.MayIssue, hoff] at hkeep
  cases hkeep

/-- Without a flag, a card that fits its state is released; with `lowPower`, it is in P8. -/
theorem Fits.described {control : Control} {s : CardState} {card : Card} {offset : Int} (h : Fits c control s card)
    (hfan : s.manualFan → s.lowPower) (hoffset : c.hasCoreOffset = false → card.coreOffset = offset) :
    Described c control offset s card := by
  have hcore : ∀ n, (c.hasCoreOffset = true → card.coreOffset = n) →
      card.coreOffset = if c.hasCoreOffset then n else offset := by
    intro n hn
    cases hoff : c.hasCoreOffset
    · exact hoffset hoff
    · exact hn hoff
  unfold Described
  split
  next hlow =>
    refine ⟨?_, h.fan, ?_, hcore 0 fun hoff => ?_⟩
    · rw [h.pstate, if_pos hlow]
    · rw [h.clocks, if_pos hlow]
    · rw [h.coreOffset hoff, if_pos hlow]
  next hlow =>
    refine ⟨?_, ?_, ?_, hcore c.coreOffset fun hoff => ?_⟩
    · rw [h.pstate, if_neg hlow]
    · rw [h.fan, if_neg fun hmanual => hlow (hfan hmanual)]
    · rw [h.clocks, if_neg hlow]
    · rw [h.coreOffset hoff, if_neg hlow]

end

end Cmp50Unlock.IdleGovernor
