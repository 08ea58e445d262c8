import Cmp50Unlock.IdleGovernor.Grammar

/-!
# What the governor is started with

The settings that `main` accepts, and the governor that it goes on to start with them.
-/

namespace Cmp50Unlock.IdleGovernor

open Lib

variable {flags : Flags} {environment : Environment} {status : Nat} {log : List MainEvent}
  {controller : Controller} {request : Request} {gpus : List GPU}

/-! ## What `main` goes on to do -/

/-- `main` has handed the governor on, to `Run` or to `Cleanup`. -/
def Started (log : List MainEvent) (controller : Controller) : Prop :=
  (∃ a, (⟨.run controller, a⟩ : MainEvent) ∈ log) ∨ ∃ a, (⟨.cleanup controller, a⟩ : MainEvent) ∈ log

theorem not_started_nil : ¬Started [] controller := by
  rintro (⟨a, h⟩ | ⟨a, h⟩)
  · cases h
  · cases h

/-- A call that is neither `Run` nor `Cleanup`. -/
def MainOp.Aside : MainOp → Prop
  | .run _ | .cleanup _ => False
  | _ => True

theorem started_cons {o : MainOp} {a : o.Ans} (ho : o.Aside) :
    Started (⟨o, a⟩ :: log) controller ↔ Started log controller := by
  simp only [Started, List.mem_cons]
  constructor
  · rintro (⟨b, heq | h⟩ | ⟨b, heq | h⟩)
    · cases heq; cases ho
    · exact .inl ⟨b, h⟩
    · cases heq; cases ho
    · exact .inr ⟨b, h⟩
  · rintro (⟨b, h⟩ | ⟨b, h⟩)
    · exact .inl ⟨b, .inr h⟩
    · exact .inr ⟨b, .inr h⟩

theorem started_run {a : Option GoError} {c : Controller} (h : Started (⟨.run c, a⟩ :: log) controller) :
    controller = c ∨ Started log controller := by
  rcases h with ⟨b, h⟩ | ⟨b, h⟩
  · cases h with
    | head => exact .inl rfl
    | tail _ h => exact .inr (.inl ⟨b, h⟩)
  · cases h with
    | tail _ h => exact .inr (.inr ⟨b, h⟩)

theorem started_cleanup {a : Option GoError} {c : Controller} (h : Started (⟨.cleanup c, a⟩ :: log) controller) :
    controller = c ∨ Started log controller := by
  rcases h with ⟨b, h⟩ | ⟨b, h⟩
  · cases h with
    | tail _ h => exact .inr (.inl ⟨b, h⟩)
  · cases h with
    | head => exact .inl rfl
    | tail _ h => exact .inr (.inr ⟨b, h⟩)

theorem exec_fatal {err : GoError} {log log' : List MainEvent} (h : (fatal err).Exec MainStep log status log') :
    status = 1 ∧ log' = ⟨.fatal err, ()⟩ :: log := by
  simp only [fatal, Prog.exec_bind, Prog.exec_lift, Prog.exec_pure, MainStep] at h
  obtain ⟨a, _, rfl, rfl, rfl⟩ := h
  exact ⟨rfl, rfl⟩

theorem exec_leave {log log' : List MainEvent} (h : leave.Exec MainStep log status log') :
    ∃ err, log' = ⟨.closeHardware, err⟩ :: log := by
  simp only [leave, Prog.exec_bind, Prog.exec_lift, Prog.exec_pure, MainStep] at h
  obtain ⟨err, _, rfl, rfl, rfl⟩ := h
  exact ⟨err, rfl⟩

theorem exec_control {log log' : List MainEvent} (h : (control flags controller).Exec MainStep log status log') :
    ∀ c, Started log' c → c = controller ∨ Started log c := by
  intro c hc
  rw [control] at h
  split at h
  next =>
    simp only [Prog.exec_bind, Prog.exec_lift, MainStep] at h
    obtain ⟨err, _, rfl, h⟩ := h
    cases err with
    | some err =>
        obtain ⟨-, rfl⟩ := exec_fatal h
        exact started_cleanup ((started_cons (by trivial)).mp hc)
    | none =>
        obtain ⟨err, rfl⟩ := exec_leave h
        exact started_cleanup ((started_cons (by trivial)).mp hc)
  next =>
    simp only [Prog.exec_bind, Prog.exec_lift, MainStep] at h
    obtain ⟨err, _, rfl, h⟩ := h
    cases err with
    | some err =>
        obtain ⟨-, rfl⟩ := exec_fatal h
        exact started_run ((started_cons (by trivial)).mp hc)
    | none =>
        obtain ⟨err, rfl⟩ := exec_leave h
        exact started_run ((started_cons (by trivial)).mp hc)

/-- How a run of `main` ends: with the version, with an error before a governor is started, or with a governor that
`New` made from the settings. -/
theorem main_cases (h : (main flags environment).Exec MainStep [] status log) :
    (flags.version = true ∧ ∀ c, ¬Started log c) ∨ (status = 1 ∧ ∀ c, ¬Started log c) ∨
    ∃ request gpus controller, settings flags environment = .ok request ∧ new gpus request = .ok controller ∧
      ∀ c, Started log c → c = controller := by
  have hfatal : ∀ {err : GoError} {log' : List MainEvent}, (∀ c, ¬Started log' c) →
      (fatal err).Exec MainStep log' status log → status = 1 ∧ ∀ c, ¬Started log c := by
    intro err log' hlog' h
    obtain ⟨rfl, rfl⟩ := exec_fatal h
    exact ⟨rfl, fun c hc => hlog' c ((started_cons (by trivial)).mp hc)⟩
  have hopened : ∀ a : Except GoError (List GPU), ∀ c, ¬Started [⟨.openHardware, a⟩] c :=
    fun a c hc => not_started_nil ((started_cons (by trivial)).mp hc)
  rw [main] at h
  split at h
  next hversion =>
    simp only [Prog.exec_bind, Prog.exec_lift, Prog.exec_pure, MainStep] at h
    obtain ⟨a, _, rfl, rfl, rfl⟩ := h
    exact .inl ⟨hversion, fun c hc => not_started_nil ((started_cons (by trivial)).mp hc)⟩
  next =>
    split at h
    next => exact .inr (.inl (hfatal (fun _ => not_started_nil) h))
    next request hsettings =>
      simp only [Prog.exec_bind, Prog.exec_lift, MainStep] at h
      obtain ⟨opened, _, rfl, h⟩ := h
      cases opened with
      | error err => exact .inr (.inl (hfatal (hopened _) h))
      | ok gpus =>
          dsimp only at h
          split at h
          next => exact .inr (.inl (hfatal (hopened _) h))
          next controller hnew =>
            refine .inr (.inr ⟨request, gpus, controller, hsettings, hnew, fun c hc => ?_⟩)
            rcases exec_control h c hc with rfl | hc
            · rfl
            · exact absurd hc (hopened _ c)

/-! ## What the settings are -/

theorem envInt_bounds {name : String} {fallback z : Int} (hfallback : 0 < fallback) (hfallback' : fallback < 2 ^ 63)
    (h : envInt environment name fallback = .ok z) : 0 < z ∧ z < 2 ^ 63 := by
  simp only [envInt] at h
  split at h
  next => cases h; exact ⟨hfallback, hfallback'⟩
  next =>
    split at h
    next => cases h
    next parsed hparsed =>
      split at h
      next => cases h
      next hpos =>
        cases h
        exact ⟨Int.not_le.mp hpos, (parseInt_sound hparsed).2.2⟩

/-- The settings that `main` accepts, with the numbers they were read from. -/
theorem settings_ok (h : settings flags environment = .ok request) :
    ∃ poll idleAfter util fan, envInt environment "CMP_POLL" 5 = .ok poll ∧
      envInt environment "CMP_IDLE_AFTER" 6 = .ok idleAfter ∧ envInt environment "CMP_UTIL" 5 = .ok util ∧
      envInt environment "CMP_FAN_AUTO_TEMP" 55 = .ok fan ∧ util ≤ 100 ∧ fan ≤ 120 ∧ request.poll = seconds poll ∧
      request.utilThreshold = BitVec.ofInt 32 util ∧ request.fanAutoTemp = BitVec.ofInt 32 fan := by
  unfold settings at h
  cases hpoll : envInt environment "CMP_POLL" 5 with
  | error err => rw [hpoll] at h; cases h
  | ok poll =>
  cases hidle : envInt environment "CMP_IDLE_AFTER" 6 with
  | error err => rw [hpoll, hidle] at h; cases h
  | ok idleAfter =>
  cases hutil : envInt environment "CMP_UTIL" 5 with
  | error err => rw [hpoll, hidle, hutil] at h; cases h
  | ok util =>
  cases hfan : envInt environment "CMP_FAN_AUTO_TEMP" 55 with
  | error err => rw [hpoll, hidle, hutil, hfan] at h; cases h
  | ok fan =>
      rw [hpoll, hidle, hutil, hfan] at h
      dsimp only [bind, Except.bind] at h
      split at h
      next => cases h
      next hrange =>
        cases h
        exact ⟨poll, idleAfter, util, fan, rfl, rfl, rfl, rfl, by omega, by omega, rfl, rfl, rfl⟩

theorem new_ok (h : new gpus request = .ok controller) :
    0 < request.poll.toInt ∧ controller.poll = request.poll ∧ controller.config.options = request.options := by
  simp only [new] at h
  split at h
  next => cases h
  next hpos =>
    split at h
    next => cases h
    next =>
      split at h
      next => cases h
      next =>
        cases h
        exact ⟨by omega, rfl, rfl⟩

/-- The poll interval in nanoseconds, as 64 bits hold it. -/
theorem toInt_seconds (n : Int) : (seconds n).toInt = (n * 1000000000).bmod (2 ^ 64) := by
  rw [seconds, BitVec.toInt_mul, BitVec.toInt_ofInt, show (1000000000 : BitVec 64).toInt = 1000000000 by decide,
    Int.bmod_mul_bmod]

theorem seconds_exact {n : Int} (hpos : 0 < n) (h : n * 1000000000 < 2 ^ 63) : (seconds n).toInt = n * 1000000000 := by
  rw [toInt_seconds]
  exact Int.bmod_eq_of_le (by omega) (by omega)

theorem toNat_ofInt_32 {z : Int} (hpos : 0 < z) (hle : z ≤ 120) : ((BitVec.ofInt 32 z).toNat : Int) = z := by
  rw [BitVec.toNat_ofInt]
  omega

/-! ## The poll interval -/

/-- In a run of `main` with the poll interval `poll`: a governor that is started polls every `poll` seconds; an interval
that does not fit into a duration is refused; the two thresholds are the numbers that were given. -/
structure SettingsKept (flags : Flags) (environment : Environment) (poll : Int) (status : Nat) (log : List MainEvent) :
    Prop where
  period : ∀ c, Started log c → c.poll.toInt = poll * 1000000000
  refused : flags.version = false → 2 ^ 63 ≤ poll * 1000000000 → status = 1 ∧ ∀ c, ¬Started log c
  thresholds : ∀ c, Started log c → ∃ util fan,
    envInt environment "CMP_UTIL" 5 = .ok util ∧ (c.config.options.utilThreshold.toNat : Int) = util ∧
    envInt environment "CMP_FAN_AUTO_TEMP" 55 = .ok fan ∧ (c.config.options.fanAutoTemp.toNat : Int) = fan

/-- The interval in nanoseconds fits into a duration, or it wraps to one that `New` refuses. -/
def PollSafe (poll : Int) : Prop := poll * 1000000000 < 2 ^ 63 ∨ (poll * 1000000000).bmod (2 ^ 64) ≤ 0

theorem thresholds_kept (hsettings : settings flags environment = .ok request)
    (hnew : new gpus request = .ok controller) :
    ∃ util fan, envInt environment "CMP_UTIL" 5 = .ok util ∧
    (controller.config.options.utilThreshold.toNat : Int) = util ∧
      envInt environment "CMP_FAN_AUTO_TEMP" 55 = .ok fan ∧
      (controller.config.options.fanAutoTemp.toNat : Int) = fan := by
  obtain ⟨-, -, util, fan, -, -, hutil, hfan, hutil', hfan', -, hutilbits, hfanbits⟩ := settings_ok hsettings
  obtain ⟨-, -, hoptions⟩ := new_ok hnew
  have hutilpos := (envInt_bounds (by decide) (by decide) hutil).1
  have hfanpos := (envInt_bounds (by decide) (by decide) hfan).1
  have hfannat := toNat_ofInt_32 hfanpos hfan'
  have hfan0 : BitVec.ofInt 32 fan ≠ 0 := by
    intro hzero
    rw [hzero] at hfannat
    simp at hfannat
    omega
  refine ⟨util, fan, hutil, ?_, hfan, ?_⟩
  · rw [hoptions, Request.options, hutilbits]
    exact toNat_ofInt_32 hutilpos (by omega)
  · rw [hoptions, Request.options, hfanbits, if_neg hfan0]
    exact hfannat

/-- The interval that a started governor polls with is the one that was given, if that one fits or is refused. -/
theorem period_of_safe {poll : Int} (hpoll : envInt environment "CMP_POLL" 5 = .ok poll) (hsafe : PollSafe poll)
    (hsettings : settings flags environment = .ok request) (hnew : new gpus request = .ok controller) :
    poll * 1000000000 < 2 ^ 63 ∧ controller.poll.toInt = poll * 1000000000 := by
  obtain ⟨poll', -, -, -, hpoll', -, -, -, -, -, hseconds, -, -⟩ := settings_ok hsettings
  obtain ⟨hpos, hkept, -⟩ := new_ok hnew
  rw [hpoll] at hpoll'
  cases hpoll'
  rw [hseconds, toInt_seconds] at hpos
  have hfits : poll * 1000000000 < 2 ^ 63 := by
    rcases hsafe with h | h
    · exact h
    · omega
  refine ⟨hfits, ?_⟩
  rw [hkept, hseconds]
  exact seconds_exact (envInt_bounds (by decide) (by decide) hpoll).1 hfits

theorem settingsKept_of_safe {poll : Int} (hpoll : envInt environment "CMP_POLL" 5 = .ok poll) (hsafe : PollSafe poll)
    (h : (main flags environment).Exec MainStep [] status log) : SettingsKept flags environment poll status log := by
  rcases main_cases h with ⟨hversion, hnone⟩ | ⟨hstatus, hnone⟩ | ⟨request, gpus, controller, hsettings, hnew, honly⟩
  · refine ⟨fun c hc => absurd hc (hnone c), fun hread => ?_, fun c hc => absurd hc (hnone c)⟩
    rw [hversion] at hread
    cases hread
  · exact ⟨fun c hc => absurd hc (hnone c), fun _ _ => ⟨hstatus, hnone⟩, fun c hc => absurd hc (hnone c)⟩
  · obtain ⟨hfits, hperiod⟩ := period_of_safe hpoll hsafe hsettings hnew
    refine ⟨fun c hc => ?_, fun _ hlarge => absurd hfits (by omega), fun c hc => ?_⟩
    · rw [honly c hc]
      exact hperiod
    · rw [honly c hc]
      exact thresholds_kept hsettings hnew

/-- The environment in which only the poll interval is set. -/
def pollOnly (text : String) : Environment := fun name => if name = "CMP_POLL" then text else ""

def plainFlags : Flags := ⟨false, false, none⟩

/-- The governor that `main` starts on a host without a card, with the defaults and a poll interval. -/
def plainController (poll : BitVec 64) : Controller :=
  let config : Config := ⟨[], ⟨6, 5, 55⟩, 0, 0, false, 0, false⟩
  ⟨"/opt/stacks/ai-server-manager/data/cmp50-power", poll, config, newGovernor config⟩

/-- The calls of a run that starts a governor on a host with the GPUs `gpus`. -/
def plainLog (gpus : List GPU) (controller : Controller) : List MainEvent :=
  [⟨.closeHardware, (none : Option GoError)⟩, ⟨.run controller, (none : Option GoError)⟩,
    ⟨.openHardware, (.ok gpus : Except GoError (List GPU))⟩]

theorem exec_plain (hsettings : settings plainFlags environment = .ok request)
    (hnew : new gpus request = .ok controller) :
    (main plainFlags environment).Exec MainStep [] 0 (plainLog gpus controller) := by
  have hcontrol : (control plainFlags controller).Exec MainStep
      [⟨.openHardware, (.ok gpus : Except GoError (List GPU))⟩] 0 (plainLog gpus controller) := by
    rw [control, if_neg (by decide)]
    refine Prog.exec_bind.mpr ⟨none, _, Prog.exec_lift.mpr rfl, ?_⟩
    exact Prog.exec_bind.mpr ⟨none, _, Prog.exec_lift.mpr rfl, rfl, rfl⟩
  rw [main, if_neg (by decide), hsettings]
  refine Prog.exec_bind.mpr ⟨.ok gpus, _, Prog.exec_lift.mpr rfl, ?_⟩
  simp only [hnew]
  exact hcontrol

theorem envInt_unset {name : String} {fallback : Int} (h : environment name = "") :
    envInt environment name fallback = .ok fallback := by
  rw [envInt, h]
  rfl

theorem envInt_number {name text : String} {fallback z : Int} (h : trimSpace (environment name) = text)
    (hne : text ≠ "")
    (hz : parseInt 64 text.toList = some z) (hpos : 0 < z) : envInt environment name fallback = .ok z := by
  simp only [envInt, h, if_neg hne, hz, if_neg (Int.not_le.mpr hpos)]

theorem pollOnly_of_ne {text name : String} (h : name ≠ "CMP_POLL") : pollOnly text name = "" := if_neg h

/-- With nothing set but a poll interval that `New` takes, the governor is started. -/
theorem exec_pollOnly {text : String} {poll : Int} (hpoll : envInt (pollOnly text) "CMP_POLL" 5 = .ok poll)
    (hpos : 0 < (seconds poll).toInt) : (main plainFlags (pollOnly text)).Exec MainStep [] 0
      (plainLog [] (plainController (seconds poll))) := by
  have hsettings : settings plainFlags (pollOnly text) = .ok
      ⟨"/opt/stacks/ai-server-manager/data/cmp50-power", seconds poll, 6, 5, 55, "", ""⟩ := by
    have hidle := @envInt_unset (pollOnly text) _ 6 (pollOnly_of_ne (by decide : "CMP_IDLE_AFTER" ≠ _))
    have hutil := @envInt_unset (pollOnly text) _ 5 (pollOnly_of_ne (by decide : "CMP_UTIL" ≠ _))
    have hfan := @envInt_unset (pollOnly text) _ 55 (pollOnly_of_ne (by decide : "CMP_FAN_AUTO_TEMP" ≠ _))
    rw [settings, hpoll, hidle, hutil, hfan]
    rfl
  have hnew : new [] ⟨"/opt/stacks/ai-server-manager/data/cmp50-power", seconds poll, 6, 5, 55, "", ""⟩ =
      .ok (plainController (seconds poll)) := by
    simp only [new, if_neg (show ¬((seconds poll).toInt ≤ 0 ∨ (6 : Int) ≤ 0) by omega)]
    rfl
  exact exec_plain hsettings hnew

theorem plain_started : Started (plainLog gpus controller) controller := .inl ⟨none, .tail _ (.head _)⟩

/-- An interval that is too large, but wraps to a positive duration, is polled with. -/
theorem started_with_wrapped {text : String} {poll nanoseconds : Int}
    (hpoll : envInt (pollOnly text) "CMP_POLL" 5 = .ok poll) (hlarge : 2 ^ 63 ≤ poll * 1000000000)
    (hwrapped : (seconds poll).toInt = nanoseconds) (hpos : 0 < nanoseconds) :
    ∃ status log, (main plainFlags (pollOnly text)).Exec MainStep [] status log ∧
      (∃ c, Started log c ∧ c.poll.toInt = nanoseconds) ∧ ¬SettingsKept plainFlags (pollOnly text) poll status log := by
  have hexec := exec_pollOnly hpoll (hwrapped ▸ hpos)
  refine ⟨0, _, hexec, ⟨_, plain_started, hwrapped⟩, fun hkept => ?_⟩
  exact (hkept.refused rfl hlarge).2 _ plain_started

/-- For each poll interval that `envInt` accepts, a governor that is started polls just so often, and an interval that
is too large is refused, exactly if the wrapped duration is right or not positive. The two thresholds are always
kept. -/
theorem settings_kept_iff (poll : Int) (haccepted : ∃ environment, envInt environment "CMP_POLL" 5 = .ok poll) :
    (∀ flags environment status log, envInt environment "CMP_POLL" 5 = .ok poll →
      (main flags environment).Exec MainStep [] status log → SettingsKept flags environment poll status log) ↔
    PollSafe poll := by
  constructor
  · intro h
    by_contra hunsafe
    rw [PollSafe, not_or, ← toInt_seconds] at hunsafe
    obtain ⟨hlarge, hpos⟩ := hunsafe
    obtain ⟨environment, hpoll⟩ := haccepted
    have hpoll' : envInt (pollOnly (environment "CMP_POLL")) "CMP_POLL" 5 = .ok poll := hpoll
    obtain ⟨status, log, hexec, -, hnot⟩ := started_with_wrapped hpoll' (by omega) rfl (by omega)
    exact hnot (h _ _ _ _ hpoll' hexec)
  · intro hsafe flags environment status log hpoll hexec
    exact settingsKept_of_safe hpoll hsafe hexec

/-- An interval of five seconds is kept. -/
theorem settings_kept_default :
    (∀ flags environment status log, envInt environment "CMP_POLL" 5 = .ok 5 →
      (main flags environment).Exec MainStep [] status log → SettingsKept flags environment 5 status log) ↔
    PollSafe 5 :=
  settings_kept_iff 5 ⟨fun _ => "", rfl⟩

/-- 18446744074 seconds are accepted, and the governor polls every 290 milliseconds. -/
theorem settings_not_kept :
    envInt (pollOnly "18446744074") "CMP_POLL" 5 = .ok 18446744074 ∧
    ∃ status log, (main plainFlags (pollOnly "18446744074")).Exec MainStep [] status log ∧
      (∃ c, Started log c ∧ c.poll.toInt = 290448384) ∧
      ¬SettingsKept plainFlags (pollOnly "18446744074") 18446744074 status log := by
  have hpoll : envInt (pollOnly "18446744074") "CMP_POLL" 5 = .ok 18446744074 :=
    @envInt_number _ _ "18446744074" _ _ rfl (by decide) (by decide) (by decide)
  exact ⟨hpoll, started_with_wrapped hpoll (by decide) (by decide) (by decide)⟩

/-! ## The load clock and the core offset -/

/-- `parseClock` and `parseCoreOffset` accept just the texts of their grammars, with the numbers written there; what
they return is within the bounds, and a text for it gives it back. -/
theorem load_settings_grammar :
    (∀ s r, parseClock s = .ok r ↔ ∃ g, ClockText s.toList g ∧ ClockMeans r g) ∧
    (∀ s r, parseClock s = .ok r →
      (if r.2.2 then 100 ≤ r.1.toNat ∧ r.1.toNat ≤ r.2.1.toNat ∧ r.2.1.toNat ≤ 5000 else Blank s.toList) ∧
      parseClock (renderClock r) = .ok r) ∧
    (∀ s r, parseCoreOffset s = .ok r ↔ ∃ g, OffsetText s.toList g ∧ OffsetMeans r g) ∧
    (∀ s r, parseCoreOffset s = .ok r →
      (if r.2 then -2000 ≤ r.1.toInt ∧ r.1.toInt ≤ 2000 else Blank s.toList) ∧
      parseCoreOffset (renderCoreOffset r) = .ok r) := by
  refine ⟨fun _ _ => parseClock_iff, fun s r h => ⟨?_, parseClock_render h⟩, fun _ _ => parseCoreOffset_iff,
    fun s r h => ⟨?_, parseCoreOffset_render h⟩⟩
  · obtain ⟨g, hg, hr⟩ := parseClock_iff.mp h
    rcases g with _ | ⟨lo, hi⟩
    · rw [show r = (0, 0, false) from hr]
      exact hg.blank_of_none
    · rw [if_pos hr.2.2, hr.1, hr.2.1]
      exact hg.bounds
  · obtain ⟨g, hg, hr⟩ := parseCoreOffset_iff.mp h
    cases g with
    | none =>
        rw [show r = (0, false) from hr]
        exact hg.blank_of_none
    | some z =>
        rw [if_pos hr.2, hr.1]
        exact hg.bounds

end Cmp50Unlock.IdleGovernor
