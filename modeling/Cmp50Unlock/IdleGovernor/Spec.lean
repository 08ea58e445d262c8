import Cmp50Unlock.IdleGovernor.Run

/-!
# What is asked of the governor

A card is held in P8, or with a manual fan, by the commands of the run; what the governor remembers of it should
agree. All of this is read off the log, not off the memory of the governor.
-/

namespace Cmp50Unlock.IdleGovernor

open Lib

/-! ## The commands to a card -/

/-- Commands with their errors, the newest first. -/
abbrev Calls := List (Call × Option GoError)

/-- The commands to card `index` in a log. -/
def callsOf (index : Int) : List Event → Calls
  | [] => []
  | ⟨.call call, err⟩ :: log => if call.index = index then (call, err) :: callsOf index log else callsOf index log
  | _ :: log => callsOf index log

/-- All commands in a log. -/
def commands : List Event → Calls
  | [] => []
  | ⟨.call call, err⟩ :: log => (call, err) :: commands log
  | _ :: log => commands log

/-- The part of the log of `w'` that is not in the log of `w` yet. -/
def World.since (w' w : World) : List Event := w'.log.take (w'.log.length - w.log.length)

theorem World.since_eq {w w' : World} {new : List Event} (h : w'.log = new ++ w.log) : w'.since w = new := by
  simp [World.since, h]

/-- The state in which a GPU tick polls. -/
abbrev World.polling (w : World) : World := (w.next .select .gpuTicker).next .getGov w.gov

/-- A card that `Cleanup` covers. -/
def SupportedIndex (c : Config) (index : Int) : Prop := ∃ gpu ∈ c.gpus, gpu.index = index ∧ gpu.Supported

/-! ## The readings of a card -/

/-- A reading of a card. -/
inductive Reading where
  | utilization (r : Except GoError (BitVec 32))
  | temperature (r : Except GoError (BitVec 32))

/-- The readings of card `index` in a log. -/
def readingsOf (index : Int) : List Event → List Reading
  | [] => []
  | ⟨.utilization i, r⟩ :: log => if i = index then .utilization r :: readingsOf index log else readingsOf index log
  | ⟨.temperature i, r⟩ :: log => if i = index then .temperature r :: readingsOf index log else readingsOf index log
  | _ :: log => readingsOf index log

/-- What a card shows at a poll; the temperature counts only if it is asked for. -/
structure Readings where
  utilization : BitVec 32
  temperature : BitVec 32
  deriving DecidableEq

/-! ## Runs side by side -/

instance decidableEqExcept {ε α : Type} [DecidableEq ε] [DecidableEq α] : DecidableEq (Except ε α)
  | .error e, .error e' => decidable_of_iff (e = e') ⟨congrArg _, Except.error.inj⟩
  | .ok a, .ok a' => decidable_of_iff (a = a') ⟨congrArg _, Except.ok.inj⟩
  | .error _, .ok _ => isFalse fun h => by cases h
  | .ok _, .error _ => isFalse fun h => by cases h

/-- What the clock, the panel and the control directory decide. -/
inductive Outcome where
  | wake (a : Wake)
  | look (r : Except GoError Control)
  | publish (err : Option GoError)
  deriving DecidableEq

def outcomes : List Event → List Outcome
  | [] => []
  | ⟨.select, a⟩ :: log => .wake a :: outcomes log
  | ⟨.loadControl, r⟩ :: log => .look r :: outcomes log
  | ⟨.statusActive _, err⟩ :: log => .publish err :: outcomes log
  | _ :: log => outcomes log

/-- The number of ticks. -/
def ticks : List Outcome → Nat
  | [] => 0
  | .wake _ :: older => ticks older + 1
  | _ :: older => ticks older

/-- No call of the hardware fails. -/
def hardwareSucceeds : Answers
  | .call _, err => err = none
  | .utilization _, r | .temperature _, r => r.isOk
  | _, _ => True

/-- In each tick, every card of `S` shows what `ρ` says. -/
def Shown (S : Int → Prop) (ρ : Int → Nat → Readings) (w : World) : (o : Op) → o.Ans → Prop
  | .utilization i, r => S i → r = .ok (ρ i (ticks (outcomes w.log))).utilization
  | .temperature i, r => S i → r = .ok (ρ i (ticks (outcomes w.log))).temperature
  | _, _ => True

/-- One operation of a governor whose hardware does not fail, and whose cards of `S` show what `ρ` says. -/
def ShownStep (S : Int → Prop) (ρ : Int → Nat → Readings) (o : Op) (w : World) (a : o.Ans) (w' : World) : Prop :=
  Step hardwareSucceeds o w a w' ∧ Shown S ρ w o a

/-- With these readings, a run of the governor comes to `l` in `w`. -/
abbrev ShownComesTo (c : Config) (S : Int → Prop) (ρ : Int → Nat → Readings) (cards : Int → Card) (dir : Dir)
    (l : Label) (w : World) : Prop :=
  Goto.Reaches (ShownStep S ρ) (run c) .entry (start c cards dir) l w

/-- With these readings, a run of the governor ends in `w`. -/
abbrev ShownEnds (c : Config) (S : Int → Prop) (ρ : Int → Nat → Readings) (cards : Int → Card) (dir : Dir) (w : World) :
    Prop :=
  Goto.Call (ShownStep S ρ) (run c) .entry (start c cards dir) () w

/-! ## Idle polls in a row -/

/-- The event is a poll of card `index`. -/
def isPoll (index : Int) : Event → Bool
  | ⟨.utilization i, _⟩ => i == index
  | _ => false

/-- The event ends a row of idle polls of card `index`: the card is not read idle, or it is released. -/
def endsRow (c : Config) (index : Int) : Event → Bool
  | ⟨.utilization i, .ok u⟩ => i == index && u > c.options.utilThreshold
  | ⟨.utilization i, .error _⟩ => i == index
  | ⟨.assign (.clear i), _⟩ => i == index
  | _ => false

/-- The event begins or ends an activation. -/
def switches : Event → Bool
  | ⟨.assign (.activate _), _⟩ | ⟨.assign .deactivate, _⟩ => true
  | _ => false

/-- The polls of card `index` since the last event that `stops` the count. -/
def pollsSince (stops : Event → Bool) (index : Int) : List Event → Nat
  | [] => 0
  | e :: log => if stops e then 0 else (if isPoll index e then 1 else 0) + pollsSince stops index log

/-- The last `IdleAfter` polls of the card belong to one activation, and all read it idle. -/
def Debounced (c : Config) (index : Int) (log : List Event) : Prop :=
  c.options.idleAfter ≤ pollsSince (fun e => endsRow c index e || switches e) index log

/-- The row of idle polls that is under way began before the current activation. -/
def CarriedOver (c : Config) (index : Int) (log : List Event) : Prop :=
  ∃ newer e older, log = newer ++ e :: older ∧ switches e ∧
    (∀ e' ∈ newer, endsRow c index e' = false ∧ switches e' = false) ∧ 0 < pollsSince (endsRow c index) index older

/-- The newest reading of the card is an idle one, and nothing was waited for since. -/
def PolledNow (c : Config) (index : Int) (log : List Event) : Prop :=
  ∃ newer u older, log = newer ++ ⟨.utilization index, .ok u⟩ :: older ∧ u ≤ c.options.utilThreshold ∧
    ∀ e ∈ newer, e.1 ≠ .select ∧ isPoll index e = false

/-! ## What holds a card -/

/-- The two ways in which the governor holds a card, with the flag that stands for each. -/
inductive Hold where
  | lowPower
  | manualFan
  deriving DecidableEq

namespace Hold

variable (h : Hold)

def flag : Hold → CardState → Bool
  | .lowPower, s => s.lowPower
  | .manualFan, s => s.manualFan

/-- A command that begins the hold. -/
def takes : Hold → Call → Bool
  | .lowPower, .setPState _ pstate => pstate == 8
  | .manualFan, .setFan _ _ => true
  | _, _ => false

/-- A command that ends the hold. -/
def undoes : Hold → Call → Bool
  | .lowPower, .setPState _ pstate => pstate == autoPState
  | .manualFan, .setFanAuto _ => true
  | _, _ => false

/-- The last successful command about the hold begins it. -/
def held : Calls → Bool
  | [] => false
  | (call, none) :: calls => if h.takes call then true else if h.undoes call then false else held calls
  | (_, some _) :: calls => held calls

/-- A command to end the hold has failed, and since then no command about the hold has succeeded. -/
def Lost (calls : Calls) : Prop :=
  ∃ newer call err older, calls = newer ++ (call, some err) :: older ∧ h.undoes call ∧ h.held older ∧
    ∀ x ∈ newer, x.2 = none → ¬ h.takes x.1 ∧ ¬ h.undoes x.1

end Hold

/-! ## What a card is set to -/

/-- The clocks of a card under load. -/
def Config.loadClocks (c : Config) : Clocks := if c.hasClock then .locked c.clockMin c.clockMax else .default

/-- Automatic P-state and fans, the clocks and the offset for load. `offset` is the core offset from before the
run, which stays when none is configured. -/
structure Released (c : Config) (offset : Int) (card : Card) : Prop where
  pstate : card.pstate = autoPState
  fan : card.fan = .auto
  clocks : card.clocks = c.loadClocks
  coreOffset : card.coreOffset = if c.hasCoreOffset then c.coreOffset else offset

/-- The card is set to what the command sets. -/
def Card.Settled (card : Card) : Call → Prop
  | .setPState _ pstate => card.pstate = pstate
  | .resetLockedClocks _ => card.clocks = .default
  | .setLockedClocks _ minimum maximum => card.clocks = .locked minimum maximum
  | .setCoreOffset _ offset => card.coreOffset = offset
  | .setFan _ percent => card.fan = .manual percent
  | .setFanAuto _ => card.fan = .auto

/-- P8 with reset clocks and no offset, and the fan as `manualFan` says. -/
structure Lowered (c : Config) (control : Control) (offset : Int) (manualFan : Bool) (card : Card) : Prop where
  pstate : card.pstate = 8
  fan : card.fan = if manualFan then .manual (BitVec.ofInt 32 control.idleFanPercent) else .auto
  clocks : card.clocks = .default
  coreOffset : card.coreOffset = if c.hasCoreOffset then 0 else offset

/-- The card is set to what the governor remembers of it. -/
def Described (c : Config) (control : Control) (offset : Int) (s : CardState) (card : Card) : Prop :=
  if s.lowPower then Lowered c control offset s.manualFan card else Released c offset card

/-! ## Governing -/

/-- A request that the governor may follow. -/
structure Governs (c : Config) (control : Control) : Prop where
  enabled : control.enabled
  loadable : control.Loadable
  validated : validate c control = none

/-- A look at the request takes the governor from `w` to `w'`: it loads one request, and is active afterwards just
when that request is enabled, valid, and was followed already or is published now. -/
structure Agreed (c : Config) (w w' : World) : Prop where
  loads : ∃ r : Except GoError Control, ∀ r' : Except GoError Control, ⟨.loadControl, r'⟩ ∈ w'.since w ↔ r' = r
  active : w'.gov.active ↔ ∃ control : Control, ⟨.loadControl, .ok control⟩ ∈ w'.since w ∧ control.enabled ∧
    validate c control = none ∧ ((w.gov.active ∧ control = w.gov.control) ∨ ⟨.statusActive control, none⟩ ∈ w'.since w)
  control : w'.gov.active → ⟨.loadControl, .ok w'.gov.control⟩ ∈ w'.since w

end Cmp50Unlock.IdleGovernor
