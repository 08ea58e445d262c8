import Cmp50Unlock.Scripts.Lemmas.Shell
import Cmp50Unlock.Scripts.Units

/-!
# A run of the second pass

What the script does before its exit handler, and how the handler ends.
-/

namespace Cmp50Unlock.Scripts

open Lib
open Shell (die orDie)
open Lib.Script (Careful careful_sh careful_attempt careful_pure careful_throw careful_ite careful_forM careful_foldlM
  careful_repeatUntil)

/-! ## The commands before the handler -/

/-- A command that is neither about udev nor one of the handler. -/
def PassOp.isQuiet : PassOp → Bool
  | .markStopped | .mask | .stop | .testStopped | .unmask | .daemonReload | .start => false
  | _ => true

instance (event : PassEvent) : Decidable event.Bad := inferInstanceAs (Decidable (_ ∨ _))

def badCount (o : PassOp) (d : Done Signal o.Out) : Nat := if PassEvent.Bad ⟨o, d⟩ then 1 else 0

abbrev CarefulIn (S : PassOp → Bool) {α : Type} (p : Pass α) : Prop := Careful (S · = true) badCount p

variable {S : PassOp → Bool} {o : PassOp} {α : Type}

theorem sh_careful (ho : S o = true) : CarefulIn S (sh o) :=
  careful_sh ho exitStatus_ne_zero fun d hsignal hstatus => by simp [badCount, PassEvent.Bad, hsignal, hstatus]

/-- A command whose status is tested is no step. -/
theorem attempt_careful (ho : S o = true) (hstep : o.isStep = false) : CarefulIn S (attempt o) :=
  careful_attempt ho exitStatus_ne_zero fun d hsignal => by simp [badCount, PassEvent.Bad, hsignal, hstep]

theorem die_careful {message : String} : CarefulIn PassOp.isQuiet (die message : Pass α) :=
  (sh_careful rfl).bind fun _ => careful_throw

theorem orDie_careful {holds : Bool} {message : String} : CarefulIn PassOp.isQuiet (orDie holds message) :=
  careful_ite (fun _ => careful_pure) fun _ => die_careful

theorem checkHost_careful : CarefulIn PassOp.isQuiet checkHost := by
  refine (sh_careful rfl).bind fun _ => (attempt_careful rfl rfl).bind fun root => orDie_careful.bind fun _ => ?_
  refine (attempt_careful rfl rfl).bind fun release => orDie_careful.bind fun _ => ?_
  refine (careful_forM (fun tool => ?_) _).bind fun _ => (sh_careful rfl).bind fun _ => ?_
  · exact (attempt_careful rfl rfl).bind fun found => orDie_careful
  · exact (attempt_careful rfl rfl).bind fun locked => orDie_careful

theorem checkDevice_careful (bdf : String) : CarefulIn PassOp.isQuiet (checkDevice bdf) := by
  refine (attempt_careful rfl rfl).bind fun writable => orDie_careful.bind fun _ => ?_
  exact (sh_careful rfl).bind fun subvendor => (sh_careful rfl).bind fun subdevice => orDie_careful

theorem initializeGpus_careful (expectedCount : Nat) (message : String) :
    CarefulIn PassOp.isQuiet (initializeGpus expectedCount message) := by
  refine (sh_careful rfl).bind fun _ => (sh_careful rfl).bind fun _ => (careful_repeatUntil ?_ 60).bind fun _ => ?_
  · refine (attempt_careful rfl rfl).bind fun count => careful_ite (fun _ => careful_pure) fun _ => ?_
    exact (sh_careful rfl).bind fun _ => careful_pure
  · exact (attempt_careful rfl rfl).bind fun count => orDie_careful

theorem allGen2_careful (devices : List String) : CarefulIn PassOp.isQuiet (allGen2 devices) :=
  careful_foldlM (fun _ _ => (sh_careful rfl).bind fun _ => careful_pure) devices true

theorem firstPassDone_careful (expectedCount : Nat) : CarefulIn PassOp.isQuiet (firstPassDone expectedCount) := by
  refine (sh_careful rfl).bind fun totals => orDie_careful.bind fun _ => ?_
  refine (careful_forM (fun _ => orDie_careful) _).bind fun _ => (sh_careful rfl).bind fun _ => careful_throw

theorem checkUsers_careful : CarefulIn PassOp.isQuiet checkUsers := by
  refine (attempt_careful rfl rfl).bind fun paths => (careful_forM (fun path => ?_) _).bind fun _ => ?_
  · refine (attempt_careful rfl rfl).bind fun isLink => careful_ite (fun _ => careful_pure) fun _ => ?_
    exact (sh_careful rfl).bind fun vendor => (sh_careful rfl).bind fun device => orDie_careful
  · refine (sh_careful rfl).bind fun _ => (sh_careful rfl).bind fun _ => (attempt_careful rfl rfl).bind fun used => ?_
    exact orDie_careful.bind fun _ => careful_forM (fun _ => (attempt_careful rfl rfl).bind fun _ => orDie_careful) _

theorem prepare_careful : CarefulIn PassOp.isQuiet prepare := by
  refine checkHost_careful.bind fun _ => (sh_careful rfl).bind fun devices => orDie_careful.bind fun _ => ?_
  refine (careful_forM checkDevice_careful devices).bind fun _ => (initializeGpus_careful _ _).bind fun _ => ?_
  refine (allGen2_careful devices).bind fun all => ?_
  have hrest : CarefulIn PassOp.isQuiet (do checkUsers; return devices) := checkUsers_careful.bind fun _ => careful_pure
  exact careful_ite (fun _ => (firstPassDone_careful _).bind fun _ => hrest) fun _ => hrest

theorem checkResult_careful (bdf : String) : CarefulIn PassOp.isQuiet (checkResult bdf) := by
  refine (sh_careful rfl).bind fun speed => orDie_careful.bind fun _ => (sh_careful rfl).bind fun word => ?_
  cases word.number with
  | none => exact careful_throw
  | some rebarCtrl => exact orDie_careful

theorem reinitialize_careful (devices : List String) : CarefulIn PassOp.isQuiet ( reinitialize devices) := by
  refine (careful_forM (fun bdf => ?_) devices).bind fun _ => (attempt_careful rfl rfl).bind fun _ => ?_
  · refine (attempt_careful rfl rfl).bind fun bound => careful_ite (fun _ => sh_careful rfl) fun _ => careful_pure
  · refine (attempt_careful rfl rfl).bind fun loaded => orDie_careful.bind fun _ => ?_
    refine (careful_forM (fun _ => sh_careful rfl) devices).bind fun _ => (initializeGpus_careful _ _).bind fun _ => ?_
    exact (careful_forM checkResult_careful devices).bind fun _ => sh_careful rfl

/-- The script without its handler. -/
def body : Pass Unit := do
  let devices ← prepare
  stopUdev
  reinitialize devices

theorem not_ofHandler_of_isQuiet (o : PassOp) (h : o.isQuiet = true) : (!o.ofHandler) = true := by
  cases o <;> first | rfl | cases h

theorem body_careful : CarefulIn (fun o => !o.ofHandler) body := by
  refine (prepare_careful.mono not_ofHandler_of_isQuiet).bind fun devices => ?_
  refine Careful.bind ((sh_careful rfl).bind fun _ => (sh_careful rfl).bind fun _ => sh_careful rfl) fun _ => ?_
  exact (reinitialize_careful devices).mono not_ofHandler_of_isQuiet

/-! ## The world before the handler -/

variable {w w' : PassWorld} {d : Done Signal o.Out}

theorem begun_cons {event : PassEvent} {log : List PassEvent} :
    Begun (event :: log) ↔ event.1 = .markStopped ∨ Begun log := by
  constructor
  · rintro ⟨d, hd⟩
    cases hd with
    | head => exact .inl rfl
    | tail _ hd => exact .inr ⟨d, hd⟩
  · rintro (heq | ⟨d, hd⟩)
    · obtain ⟨o, d⟩ := event
      cases heq
      exact ⟨d, .head _⟩
    · exact ⟨d, .tail _ hd⟩

/-- The variable tells whether udev has been given up. -/
theorem begun_step (h : PassStep o w d w') (hw : w.stopped = true ↔ Begun w.log) :
    w'.stopped = true ↔ Begun w'.log := by
  obtain ⟨-, rfl⟩ := h
  simp only [PassWorld.after, begun_cons, Bool.or_eq_true, hw, beq_iff_eq]
  exact or_comm

/-- What the exit handler finds. -/
structure BeforeHandler (w : PassWorld) : Prop where
  begun : w.stopped = true ↔ Begun w.log
  untouched : w.stopped = false → ∀ event ∈ w.log, event.1.onUnits = false
  mine : ∀ event ∈ w.log, event.1.ofHandler = false

/-- As long as the commands are quiet, udev is not given up and not touched. -/
theorem quiet_step (ho : o.isQuiet = true) (h : PassStep o w d w')
    (hw : w.stopped = false ∧ ∀ event ∈ w.log, event.1.onUnits = false) :
    w'.stopped = false ∧ ∀ event ∈ w'.log, event.1.onUnits = false := by
  obtain ⟨-, rfl⟩ := h
  have hmark : (o == .markStopped) = false := by cases o <;> first | rfl | cases ho
  have hunits : o.onUnits = false := by cases o <;> first | rfl | cases ho
  exact ⟨by rw [PassWorld.after, hw.1, hmark]; rfl, List.forall_mem_cons.mpr ⟨hunits, hw.2⟩⟩

theorem stopped_step (h : PassStep o w d w') (hw : w.stopped = true) : w'.stopped = true := by
  obtain ⟨-, rfl⟩ := h
  rw [PassWorld.after, hw]
  rfl

/-- Whatever comes of its commands, `stopUdev` begins with the mark. -/
theorem stopped_of_stopUdev {r : Except Nat Unit} (h : stopUdev.run.Exec PassStep w r w') : w'.stopped = true := by
  have hmark : ∀ {r : Except Nat Unit} {w' : PassWorld}, (sh .markStopped).run.Exec PassStep w r w' →
      w'.stopped = true := by
    intro r w' h
    obtain ⟨d, -, rfl⟩ := Script.exec_sh h
    simp [PassWorld.after]
  rw [stopUdev, Script.exec_bind] at h
  rcases h with ⟨_, w₁, hsh, h⟩ | ⟨n, hsh, -⟩
  · exact h.inv (fun _ _ _ _ => stopped_step) (hmark hsh)
  · exact hmark hsh

/-- udev is given up before it is touched. -/
theorem untouched_of_exec {r : Except Nat Unit} (h : body.run.Exec PassStep .start r w) :
    w.stopped = false → ∀ event ∈ w.log, event.1.onUnits = false := by
  have hquiet : ∀ (o : PassOp) w (d : Done Signal o.Out) w', o.isQuiet = true → PassStep o w d w' →
      (w.stopped = false ∧ ∀ event ∈ w.log, event.1.onUnits = false) →
      w'.stopped = false ∧ ∀ event ∈ w'.log, event.1.onUnits = false := fun o w d w' => quiet_step
  intro hnot
  rw [body, Script.exec_bind] at h
  rcases h with ⟨devices, w₁, -, h⟩ | ⟨n, h, -⟩
  · have hmarked : w.stopped = true := by
      rw [Script.exec_bind] at h
      rcases h with ⟨_, w₂, hstop, h⟩ | ⟨n, hstop, -⟩
      · exact h.inv (fun _ _ _ _ => stopped_step) (stopped_of_stopUdev hstop)
      · exact stopped_of_stopUdev hstop
    rw [hmarked] at hnot
    cases hnot
  · exact (prepare_careful.uses.exec hquiet h ⟨rfl, fun _ h => by cases h⟩).2.2

theorem exec_body {r : Except Nat Unit} (h : body.run.Exec PassStep .start r w) : BeforeHandler w where
  begun := h.inv (fun _ _ _ _ => begun_step) (by simp [PassWorld.start, Begun])
  untouched := untouched_of_exec h
  mine := by
    have hkeep : ∀ (o : PassOp) w d w', (!o.ofHandler) = true → PassStep o w d w' →
        (∀ event ∈ w.log, event.1.ofHandler = false) → ∀ event ∈ w'.log, event.1.ofHandler = false := by
      rintro o w d _ ho ⟨-, rfl⟩ hw
      exact List.forall_mem_cons.mpr ⟨by simpa using ho, hw⟩
    exact (body_careful.uses.exec hkeep h fun _ h => by cases h).2

/-- A failed step or a signal ends the script with a failure. -/
theorem failure_of_bad {r : Except Nat Unit} (h : body.run.Exec PassStep .start r w)
    (hbad : ∃ event ∈ w.log, PassEvent.Bad event) : ∃ n, n ≠ 0 ∧ r = .error n := by
  have hcount : ∀ (o : PassOp) w (d : Done Signal o.Out) w', PassStep o w d w' →
      w'.log.countP (fun event => decide event.Bad) = w.log.countP (fun event => decide event.Bad) + badCount o d := by
    rintro o w d _ ⟨-, rfl⟩
    simp [PassWorld.after, List.countP_cons, badCount]
  obtain ⟨n, hn, hloud⟩ := body_careful.loud.exec hcount h
  obtain ⟨event, hmem, hevent⟩ := hbad
  have hpos : 0 < w.log.countP (fun event => decide event.Bad) :=
    List.countP_pos_iff.mpr ⟨event, hmem, decide_eq_true hevent⟩
  rcases hloud with rfl | hfails
  · rw [hn] at hpos
    exact absurd hpos (Nat.lt_irrefl 0)
  · exact hfails

/-! ## The handler -/

/-- The events of the exit handler, the newest first, and its result. -/
inductive HandlerRun (stopped : Bool) : List PassEvent → Except Nat Unit → Prop where
  | signalAtTest {d : Done Signal Bool} {s : Signal} (hd : d.signal = some s) :
      HandlerRun stopped [⟨.testStopped, d⟩] (.error (exitStatus s))
  | notStopped {d : Done Signal Bool} (hd : d.signal = none) (h : stopped = false) :
      HandlerRun stopped [⟨.testStopped, d⟩] (.ok ())
  | signalAtUnmask {d : Done Signal Bool} {d₁ : Done Signal Unit} {s : Signal} (hd : d.signal = none)
      (h : stopped = true) (hd₁ : d₁.signal = some s) :
      HandlerRun stopped [⟨.unmask, d₁⟩, ⟨.testStopped, d⟩] (.error (exitStatus s))
  | signalAtReload {d : Done Signal Bool} {d₁ d₂ : Done Signal Unit} {s : Signal} (hd : d.signal = none)
      (h : stopped = true) (hd₁ : d₁.signal = none) (hd₂ : d₂.signal = some s) :
      HandlerRun stopped [⟨.daemonReload, d₂⟩, ⟨.unmask, d₁⟩, ⟨.testStopped, d⟩] (.error (exitStatus s))
  | completed {d : Done Signal Bool} {d₁ d₂ d₃ : Done Signal Unit} {r : Except Nat Unit} (hd : d.signal = none)
      (h : stopped = true) (hd₁ : d₁.signal = none) (hd₂ : d₂.signal = none)
      (hr : r = (d₃.next exitStatus).map fun _ => ()) :
      HandlerRun stopped [⟨.start, d₃⟩, ⟨.daemonReload, d₂⟩, ⟨.unmask, d₁⟩, ⟨.testStopped, d⟩] r

/-- A command whose status is ignored goes on unless a signal has arrived. -/
theorem exec_attempt_bind {β : Type} {f : Done Signal o.Out → Pass β} {r : Except Nat β}
    (h : (attempt o >>= f).run.Exec PassStep w r w') :
    ∃ d, w.Admits o d ∧ ((d.signal = none ∧ (f d).run.Exec PassStep (w.after o d) r w') ∨
      ∃ s, d.signal = some s ∧ r = .error (exitStatus s) ∧ w' = w.after o d) := by
  rw [Script.exec_bind] at h
  rcases h with ⟨d', w₁, hd, hf⟩ | ⟨n, hd, rfl⟩
  · obtain ⟨d, ⟨hadmits, rfl⟩, hnext⟩ := Script.exec_attempt.mp hd
    cases hsignal : d.signal with
    | some s =>
        rw [Done.next_some hsignal] at hnext
        cases hnext
    | none =>
        rw [Done.next_none hsignal] at hnext
        cases hnext
        exact ⟨_, hadmits, .inl ⟨hsignal, hf⟩⟩
  · obtain ⟨d, ⟨hadmits, rfl⟩, hnext⟩ := Script.exec_attempt.mp hd
    cases hsignal : d.signal with
    | none =>
        rw [Done.next_none hsignal] at hnext
        cases hnext
    | some s =>
        rw [Done.next_some hsignal] at hnext
        cases hnext
        exact ⟨d, hadmits, .inr ⟨s, hsignal, rfl, rfl⟩⟩

theorem exec_restoreUdev {r : Except Nat Unit} (h : restoreUdev.run.Exec PassStep w r w') :
    ∃ events, HandlerRun w.stopped events r ∧ w'.log = events ++ w.log := by
  obtain ⟨d, hout, ⟨hd, h⟩ | ⟨s, hd, rfl, rfl⟩⟩ := exec_attempt_bind h
  · have hstopped : d.out = w.stopped := hout
    cases hw : w.stopped with
    | false =>
        rw [hstopped, hw] at h
        obtain ⟨rfl, rfl⟩ := h
        exact ⟨_, .notStopped hd rfl, rfl⟩
    | true =>
        rw [hstopped, hw] at h
        obtain ⟨d₁, -, ⟨hd₁, h⟩ | ⟨s, hd₁, rfl, rfl⟩⟩ := exec_attempt_bind h
        · obtain ⟨d₂, -, ⟨hd₂, h⟩ | ⟨s, hd₂, rfl, rfl⟩⟩ := exec_attempt_bind h
          · obtain ⟨d₃, -, ⟨hd₃, h⟩ | ⟨s, hd₃, rfl, rfl⟩⟩ := exec_attempt_bind h
            · obtain ⟨rfl, rfl⟩ := h
              have hr : Except.ok () = (d₃.next exitStatus).map fun _ => () := by rw [Done.next_none hd₃]; rfl
              exact ⟨_, .completed hd rfl hd₁ hd₂ hr, rfl⟩
            · have hr : Except.error (exitStatus s) = (d₃.next exitStatus).map fun _ => () := by
                rw [Done.next_some hd₃]
                rfl
              exact ⟨_, .completed hd rfl hd₁ hd₂ hr, rfl⟩
          · exact ⟨_, .signalAtReload hd rfl hd₁ hd₂, rfl⟩
        · exact ⟨_, .signalAtUnmask hd rfl hd₁, rfl⟩
  · exact ⟨_, .signalAtTest hd, rfl⟩

end Cmp50Unlock.Scripts
