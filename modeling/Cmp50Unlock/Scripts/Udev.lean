import Cmp50Unlock.Scripts.Lemmas.SecondPass

/-!
# udev after a second pass
-/

namespace Cmp50Unlock.Scripts

open Lib

variable {w : PassWorld} {status : Nat} {stopped : Bool} {events log : List PassEvent} {r : Except Nat Unit}

/-! ## The log of the handler -/

theorem HandlerRun.ofHandler (h : HandlerRun stopped events r) : ∀ event ∈ events, event.1.ofHandler = true := by
  cases h <;> simp [PassOp.ofHandler]

theorem not_disturbs_of_not_ofHandler {event : PassEvent} (h : event.1.ofHandler = false) : ¬event.Disturbs := by
  obtain ⟨o, d⟩ := event
  cases o <;> first | exact id | cases h

theorem begun_append (h : HandlerRun stopped events r) : Begun (events ++ log) ↔ Begun log := by
  constructor
  · rintro ⟨d, hd⟩
    rcases List.mem_append.mp hd with hd | hd
    · cases h.ofHandler _ hd
    · exact ⟨d, hd⟩
  · rintro ⟨d, hd⟩
    exact ⟨d, List.mem_append_right events hd⟩

theorem disturbs_append (hmine : ∀ event ∈ log, event.1.ofHandler = false) :
    (∀ event ∈ events ++ log, ¬event.Disturbs) ↔ ∀ event ∈ events, ¬event.Disturbs := by
  constructor
  · exact fun h event hmem => h event (List.mem_append_left log hmem)
  · intro h event hmem
    rcases List.mem_append.mp hmem with hmem | hmem
    · exact h event hmem
    · exact not_disturbs_of_not_ofHandler (hmine event hmem)

/-- Without a start, nothing is restored. -/
theorem start_mem_of_restored (h : UnitsRestored log) : ∃ d, (⟨.start, d⟩ : PassEvent) ∈ log := by
  obtain ⟨_, _, started, _, hfilter, -⟩ := h
  have hmem : (⟨.start, started⟩ : PassEvent) ∈ log.filter fun event => event.1.onUnits := by
    rw [hfilter]
    exact .head _
  exact ⟨started, (List.mem_filter.mp hmem).1⟩

/-- The commands before the handler do not start the units. -/
theorem not_restored (hmine : ∀ event ∈ log, event.1.ofHandler = false)
    (hevents : ∀ d, (⟨.start, d⟩ : PassEvent) ∉ events) :
    ¬UnitsRestored (events ++ log) := by
  intro h
  obtain ⟨d, hmem⟩ := start_mem_of_restored h
  rcases List.mem_append.mp hmem with hmem | hmem
  · exact hevents d hmem
  · cases hmine _ hmem

/-- The units are restored if and only if nothing disturbs the handler. -/
theorem restored_iff (h : HandlerRun true events r) (hmine : ∀ event ∈ log, event.1.ofHandler = false) :
    UnitsRestored (events ++ log) ↔ ∀ event ∈ events, ¬event.Disturbs := by
  cases h with
  | signalAtTest hd =>
      apply iff_of_false
      · exact not_restored hmine (by simp)
      · simp [PassEvent.Disturbs, hd]
  | notStopped hd h => cases h
  | signalAtUnmask hd _ hd₁ =>
      apply iff_of_false
      · exact not_restored hmine (by simp)
      · simp [PassEvent.Disturbs, hd₁]
  | signalAtReload hd _ hd₁ hd₂ =>
      apply iff_of_false
      · exact not_restored hmine (by simp)
      · simp [PassEvent.Disturbs, hd₂]
  | completed hd _ hd₁ hd₂ hr =>
      constructor
      · rintro ⟨unmasked, reloaded, started, earlier, hfilter, hstarted, hreloaded, hunmasked⟩
        simp only [List.cons_append, List.nil_append, List.filter_cons, PassOp.onUnits, if_true] at hfilter
        cases hfilter
        simp [PassEvent.Disturbs, hd, hd₁, hd₂, hstarted, hreloaded, hunmasked]
      · intro h
        simp only [List.forall_mem_cons, PassEvent.Disturbs, not_or, ne_eq, Decidable.not_not] at h
        obtain ⟨hstarted, ⟨-, hreloaded⟩, ⟨-, hunmasked⟩, -⟩ := h
        exact ⟨_, _, _, _, rfl, hstarted, hreloaded, hunmasked⟩

/-! ## The whole run -/

/-- The script and its handler. -/
theorem exec_secondPass (h : secondPass.Exec PassStep .start status w) :
    ∃ r w₁ r' events, body.run.Exec PassStep .start r w₁ ∧ HandlerRun w₁.stopped events r' ∧
      w.log = events ++ w₁.log ∧ status = match r', r with
        | .error n, _ => n
        | .ok _, .error n => n
        | .ok _, .ok _ => 0 := by
  have hscript : secondPass = Script.withExit body restoreUdev := rfl
  rw [hscript, Script.withExit] at h
  simp only [Prog.exec_bind, Prog.exec_pure] at h
  obtain ⟨r, w₁, hbody, r', w₂, hhandler, rfl, rfl⟩ := h
  obtain ⟨events, hrun, hlog⟩ := exec_restoreUdev hhandler
  exact ⟨r, w₁, r', events, hbody, hrun, hlog, rfl⟩

/-- Only a signal makes the handler exit. -/
theorem HandlerRun.exit_ne_zero {n : Nat} (h : HandlerRun stopped events (.error n)) : n ≠ 0 := by
  cases h with
  | signalAtTest hd => exact exitStatus_ne_zero _
  | signalAtUnmask hd _ hd₁ => exact exitStatus_ne_zero _
  | signalAtReload hd _ hd₁ hd₂ => exact exitStatus_ne_zero _
  | @completed d d₁ d₂ d₃ _ hd _ hd₁ hd₂ hr =>
      cases hsignal : d₃.signal with
      | none =>
          rw [Done.next_none hsignal] at hr
          cases hr
      | some s =>
          rw [Done.next_some hsignal] at hr
          cases hr
          exact exitStatus_ne_zero s

/-- A handler that comes to its end has no failed step and no signal. -/
theorem HandlerRun.not_bad (h : HandlerRun stopped events (.ok ())) : ∀ event ∈ events, ¬event.Bad := by
  cases h with
  | notStopped hd h => simp [PassEvent.Bad, PassOp.isStep, hd]
  | @completed d d₁ d₂ d₃ _ hd _ hd₁ hd₂ hr =>
      cases hsignal : d₃.signal with
      | none => simp [PassEvent.Bad, PassOp.isStep, hd, hd₁, hd₂, hsignal]
      | some s =>
          rw [Done.next_some hsignal] at hr
          cases hr

/-- The exit status tells of every failed step and every signal. -/
theorem exit_ne_zero_of_bad (h : secondPass.Exec PassStep .start status w)
    (hbad : ∃ event ∈ w.log, PassEvent.Bad event) :
    status ≠ 0 := by
  obtain ⟨r, w₁, r', events, hbody, hhandler, hlog, hstatus⟩ := exec_secondPass h
  rw [hstatus]
  cases r' with
  | error n => exact hhandler.exit_ne_zero
  | ok _ =>
      obtain ⟨event, hmem, hevent⟩ := hbad
      rw [hlog, List.mem_append] at hmem
      have hbefore : event ∈ w₁.log := hmem.resolve_left fun hmem => hhandler.not_bad event hmem hevent
      obtain ⟨n, hn, rfl⟩ := failure_of_bad hbody ⟨event, hbefore, hevent⟩
      exact hn

/-- Before udev is given up, its units are left alone. -/
theorem untouched_of_not_begun (h : secondPass.Exec PassStep .start status w) (hnot : ¬Begun w.log) :
    ∀ event ∈ w.log, event.1.onUnits = false := by
  obtain ⟨r, w₁, r', events, hbody, hhandler, hlog, -⟩ := exec_secondPass h
  have hbefore := exec_body hbody
  rw [hlog, begun_append hhandler, ← hbefore.begun, Bool.not_eq_true] at hnot
  rw [hlog]
  rw [hnot] at hhandler
  have hevents : ∀ event ∈ events, event.1.onUnits = false := by
    cases hhandler with
    | signalAtTest hd => simp [PassOp.onUnits]
    | notStopped hd h => simp [PassOp.onUnits]
    | signalAtUnmask hd h hd₁ => cases h
    | signalAtReload hd h hd₁ hd₂ => cases h
    | completed hd h hd₁ hd₂ hr => cases h
  intro event hmem
  rcases List.mem_append.mp hmem with hmem | hmem
  · exact hevents event hmem
  · exact hbefore.untouched hnot event hmem

/-- udev is kept if and only if the handler is not disturbed once udev is given up: no signal arrives before its last
command, and its commands succeed. -/
theorem udev_kept_iff (h : secondPass.Exec PassStep .start status w) :
    UdevKept status w.log ↔ HandlerUndisturbed w.log := by
  obtain ⟨r, w₁, r', events, hbody, hhandler, hlog, -⟩ := exec_secondPass h
  have hbefore := exec_body hbody
  have hrestored : Begun w.log → (UnitsRestored w.log ↔ ∀ event ∈ w.log, ¬event.Disturbs) := by
    intro hbegun
    rw [hlog, begun_append hhandler, ← hbefore.begun] at hbegun
    rw [hbegun] at hhandler
    rw [hlog, restored_iff hhandler hbefore.mine, disturbs_append hbefore.mine]
  constructor
  · intro hkept hbegun
    exact (hrestored hbegun).mp (hkept.restored hbegun)
  · intro hundisturbed
    exact {
      restored := fun hbegun => (hrestored hbegun).mpr (hundisturbed hbegun)
      untouched := untouched_of_not_begun h
      failure := exit_ne_zero_of_bad h }

/-! ## TERM arrives while udev is stopped -/

/-- The answers on a host with one card at Gen1, when TERM arrives at the stop of udev and `atUnmask` in the handler. -/
def answers (atUnmask : Option Signal) (stopped : Bool) : (o : PassOp) → Done Signal o.Out
  | .uname => ⟨0, "6.8.0-137-generic", none⟩
  | .listDevices => ⟨0, ["0000:01:00.0"], none⟩
  | .readSubvendor _ => ⟨0, "0x10de", none⟩
  | .readSubdevice _ => ⟨0, "0x1554", none⟩
  | .countGpus => ⟨0, 1, none⟩
  | .readSpeed _ => ⟨0, "2.5 GT/s PCIe", none⟩
  | .readBar1Totals | .listDriverDevices => ⟨0, [], none⟩
  | .readVendor _ | .readDevice _ => ⟨0, "", none⟩
  | .fuser => ⟨1, (), none⟩
  | .isEnabled _ => ⟨0, "enabled", none⟩
  | .setpci _ => ⟨0, ⟨"", none⟩, none⟩
  | .testStopped => ⟨0, stopped, none⟩
  | .stop => ⟨0, (), some .term⟩
  | .unmask => ⟨0, (), atUnmask⟩
  | .setup | .testRoot | .commandV _ | .openLock | .flock | .testReset _ | .modprobe | .nvidiaModprobe | .sleep | .log _
  | .logError _ | .testDriverDevice _ | .shoptNullglob | .listNodes | .markStopped | .mask | .testDriver _ | .unbind _
  | .modprobeRemove | .grepModules | .reset _ | .daemonReload | .start => ⟨0, (), none⟩

def respond (atUnmask : Option Signal) (o : PassOp) (w : PassWorld) : Done Signal o.Out × PassWorld :=
  (answers atUnmask w.stopped o, w.after o (answers atUnmask w.stopped o))

/-- The end of that run. -/
def signalledWorld (atUnmask : Option Signal) : PassWorld := (secondPass.interp (respond atUnmask) .start).2

/-- The steps of that run. -/
def AnswersStep (atUnmask : Option Signal) (o : PassOp) (w : PassWorld) (d : Done Signal o.Out)
    (w' : PassWorld) : Prop :=
  d = answers atUnmask w.stopped o ∧ w' = w.after o d

theorem exec_signalled (atUnmask : Option Signal) :
    secondPass.Exec (AnswersStep atUnmask) .start (secondPass.interp (respond atUnmask) .start).1
      (signalledWorld atUnmask) := by
  have hrun : ∀ o w, AnswersStep atUnmask o w (respond atUnmask o w).1 (respond atUnmask o w).2 := fun _ _ => ⟨rfl, rfl⟩
  exact Prog.exec_interp id hrun secondPass .start

theorem passStep_of_answersStep {atUnmask : Option Signal} (o : PassOp) (w : PassWorld) (d : Done Signal o.Out)
    (w' : PassWorld) (h : AnswersStep atUnmask o w d w') : PassStep o w d w' := by
  obtain ⟨rfl, rfl⟩ := h
  exact ⟨by cases o <;> trivial, rfl⟩

/-- With a signal at the stop alone, the handler is not disturbed. -/
theorem undisturbed_signalled : HandlerUndisturbed (signalledWorld none).log := by
  have hkeep : ∀ (o : PassOp) (w : PassWorld) (d : Done Signal o.Out) (w' : PassWorld), AnswersStep none o w d w' →
      (∀ event ∈ w.log, ¬PassEvent.Disturbs event) → ∀ event ∈ w'.log, ¬PassEvent.Disturbs event := by
    rintro o w _ _ ⟨rfl, rfl⟩ hw
    refine List.forall_mem_cons.mpr ⟨?_, hw⟩
    cases o <;> simp [PassEvent.Disturbs, answers]
  exact fun _ => (exec_signalled none).inv hkeep fun _ h => by cases h

theorem udev_kept_when_signalled : UdevKept 143 (signalledWorld none).log :=
  (udev_kept_iff ((exec_signalled none).mono passStep_of_answersStep)).mpr undisturbed_signalled

/-- A second signal, while the handler unmasks the units, leaves them stopped. -/
theorem udev_not_kept :
    ¬∀ status w, secondPass.Exec PassStep .start status w → UdevKept status w.log := by
  intro h
  have hkept := h _ _ ((exec_signalled (some .int)).mono passStep_of_answersStep)
  have hmarked : PassOp.markStopped ∈ (signalledWorld (some .int)).log.map Sigma.fst := by decide
  have hnotStarted : PassOp.start ∉ (signalledWorld (some .int)).log.map Sigma.fst := by decide
  obtain ⟨⟨_, d⟩, hmem, rfl⟩ := List.mem_map.mp hmarked
  obtain ⟨started, hstarted⟩ := start_mem_of_restored (hkept.restored ⟨d, hmem⟩)
  exact hnotStarted (List.mem_map.mpr ⟨_, hstarted, rfl⟩)

end Cmp50Unlock.Scripts
