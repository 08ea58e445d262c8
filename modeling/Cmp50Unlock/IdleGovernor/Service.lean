import Cmp50Unlock.IdleGovernor.Startup
import Cmp50Unlock.IdleGovernor.Theorems

/-!
# The service

`cmp-idle-governor.service`: systemd starts the governor, which may end or be killed at any point, and then runs it with
`--release`, which may be killed as well. Any number of such rounds may follow, after a failure or on request. A process
finds any control directory; what it leaves there does not matter to the cards.
-/

namespace Cmp50Unlock.IdleGovernor

open Lib

/-! ## Processes -/

abbrev Cards := Int → Card

/-- What a process has done: the state of the cards, and the calls of `main`, the newest first. -/
structure Process where
  cards : Cards
  log : List MainEvent

/-- What a call of `main` does to the cards, on a host with these GPUs. -/
def MainOp.Effect (gpus : List GPU) : (o : MainOp) → Cards → o.Ans → Cards → Prop
  | .openHardware, cards, r, cards' => (∀ found, r = Except.ok found → found = gpus) ∧ cards' = cards
  | .run controller, cards, err, cards' =>
      err = none ∧ ∃ dir w, Ends controller.config anyAnswer cards dir w ∧ cards' = w.cards
  | .cleanup controller, cards, err, cards' =>
      ∃ dir w, (IdleGovernor.cleanup controller.config).Exec (Step anyAnswer)
        (start controller.config cards dir) err w ∧
        cards' = w.cards
  | _, cards, _, cards' => cards' = cards

def ProcessStep (gpus : List GPU) (o : MainOp) (p : Process) (a : o.Ans) (p' : Process) : Prop :=
  o.Effect gpus p.cards a p'.cards ∧ p'.log = ⟨o, a⟩ :: p.log

/-- What a call may have done when the process is killed in it. -/
def MainOp.Cut : MainOp → Cards → Cards → Prop
  | .run controller, cards, cards' => ∃ dir o w, Issues controller.config anyAnswer cards dir o w ∧ cards' = w.cards
  | .cleanup controller, cards, cards' => ∃ dir o w,
      (IdleGovernor.cleanup controller.config).Issued (Step anyAnswer) (start controller.config cards dir) o w ∧
      cards' = w.cards
  | _, cards, cards' => cards' = cards

/-- `ExecStart`, or `ExecStopPost` with `--release` -/
def serviceFlags (release : Bool) : Flags := ⟨false, release, none⟩

variable (gpus : List GPU) (environment : Environment)

/-- A process of the service: with its exit status, or killed. -/
inductive Runs (release : Bool) (cards : Cards) : Option Nat → Process → Prop where
  | exits {status : Nat} {p : Process}
      (h : (main (serviceFlags release) environment).Exec (ProcessStep gpus) ⟨cards, []⟩ status p) :
      Runs release cards (some status) p
  | killed {o : MainOp} {p : Process} {cards' : Cards}
      (h : (main (serviceFlags release) environment).Issued (ProcessStep gpus) ⟨cards, []⟩ o p)
      (hcut : o.Cut p.cards cards') : Runs release cards none ⟨cards', p.log⟩

/-- The service is down, with the state of the cards and the end of its last `--release`. -/
inductive Rests (cards : Cards) : Cards → Option Nat → List MainEvent → Prop where
  | boot : Rests cards cards none []
  /-- a round whose `ExecStartPre` fails -/
  | refused {cards₁ : Cards} {status status' : Option Nat} {log : List MainEvent} {p : Process}
      (h : Rests cards cards₁ status log) (hpost : Runs gpus environment true cards₁ status' p) :
      Rests cards p.cards status' p.log
  | round {cards₁ : Cards} {status status₁ status' : Option Nat} {log : List MainEvent} {p₁ p : Process}
      (h : Rests cards cards₁ status log) (hmain : Runs gpus environment false cards₁ status₁ p₁)
      (hpost : Runs gpus environment true p₁.cards status' p) : Rests cards p.cards status' p.log

/-- The governor that every process of the service has made, if it has come so far. -/
def Accepts (controller : Controller) : Prop :=
  ∃ request, settings (serviceFlags false) environment = .ok request ∧ new gpus request = .ok controller

/-! ## What a governor leaves alone -/

/-- The other cards are as they were, and so are the offsets if none is configured. -/
structure Kept (c : Config) (cards cards' : Cards) : Prop where
  spared : ∀ i, ¬SupportedIndex c i → cards' i = cards i
  offset : c.hasCoreOffset = false → ∀ i, (cards' i).coreOffset = (cards i).coreOffset

section
variable {c : Config} {A : Answers} {cards cards₁ cards₂ : Cards} {dir : Dir} {w w' : World} {o : Op} {a : o.Ans}

theorem Kept.refl : Kept c cards cards := ⟨fun _ _ => rfl, fun _ _ => rfl⟩

theorem Kept.trans (h : Kept c cards cards₁) (h' : Kept c cards₁ cards₂) : Kept c cards cards₂ where
  spared i hi := (h'.spared i hi).trans (h.spared i hi)
  offset hoff i := (h'.offset hoff i).trans (h.offset hoff i)

/-- The guard in front of every operation. -/
def Confined (c : Config) (w : World) (o : Op) : Prop := Gate c w o ∧ o.KeepsOffset c

theorem gate_supported {cmd : Call} (h : Gate c w (.call cmd)) : SupportedIndex c cmd.index := by
  cases cmd with
  | setPState i pstate => exact h.1
  | setFan i percent => exact h.1.supported
  | _ => exact h

theorem kept_step (ho : Confined c w o) (hst : Step A o w a w') (h : Kept c cards w.cards) : Kept c cards w'.cards := by
  obtain ⟨-, d, -, rfl⟩ := hst
  cases o with
  | call cmd =>
      refine ⟨fun i hi => ?_, fun hoff i => ?_⟩
      · have hne : cmd.index ≠ i := fun heq => hi (heq ▸ gate_supported ho.1)
        simp only [World.after, cardsStep, if_neg hne]
        exact h.spared i hi
      · simp only [World.after, cardsStep]
        split
        · cases a with
          | none => exact (apply_coreOffset hoff _ ho.2).trans (h.offset hoff i)
          | some err => exact h.offset hoff i
        · exact h.offset hoff i
  | _ => exact h

theorem wp_of_uses {α : Type} {p : Gov α} {S : Op → Prop} (h : p.Uses S) :
    p.wp (Step A) (fun _ o => S o) w fun _ _ => True :=
  Prog.wp_iff.mpr ⟨fun _ _ hissued => h.issued hissued, fun _ _ _ => trivial⟩

theorem cleanup_confined : (cleanup c).wp (Step A) (Confined c) w fun _ _ => True :=
  (cleanup_gate.and (wp_of_uses (cleanup_uses.mono (fun _ h => h.keepsOffset) fun _ h => h))).mono fun _ _ _ => trivial

theorem run_confined {l : Label} (h : RunInv c l w) :
    (run c l).wp (Step A) (Confined c) w (Goto.Post (RunInv c) fun _ _ => True) := by
  refine (((run_gate h).and (wp_of_uses (run_keepsOffset l))).and (run_sound h)).imp (fun _ _ hguard => hguard.1) ?_
  intro e w' hpost
  cases e with
  | goto l' => exact hpost.2
  | ret r => trivial

theorem Ends.kept (h : Ends c A cards dir w) : Kept c cards w.cards :=
  Goto.call_inv (I := fun w => Kept c cards w.cards) (fun _ _ => run_confined) (fun _ _ _ _ => kept_step)
    (runInv_start cards dir) .refl h

theorem Issues.kept (h : Issues c A cards dir o w) : Kept c cards w.cards :=
  Goto.issues_inv (I := fun w => Kept c cards w.cards) (fun _ _ => run_confined) (fun _ _ _ _ => kept_step)
    (runInv_start cards dir) .refl h

theorem kept_cleanup {r : Option GoError} (h : (cleanup c).Exec (Step A) (start c cards dir) r w) :
    Kept c cards w.cards :=
  ((cleanup_confined.inv (I := fun w => Kept c cards w.cards) (fun _ _ _ _ => kept_step) .refl).exec h).2

theorem kept_cut_cleanup (h : (cleanup c).Issued (Step A) (start c cards dir) o w) : Kept c cards w.cards :=
  ((cleanup_confined.inv (I := fun w => Kept c cards w.cards) (fun _ _ _ _ => kept_step) .refl).issued h).2

end

/-! ## What a process leaves alone -/

/-- The cards are as they were, or as a governor of the service leaves them. -/
def Touched (cards cards' : Cards) : Prop :=
  cards' = cards ∨ ∃ controller, Accepts gpus environment controller ∧ Kept controller.config cards cards'

/-- The guard in front of every call of `main`. -/
def Allowed (cards : Cards) (p : Process) (o : MainOp) : Prop :=
  Touched gpus environment cards p.cards ∧ ∀ controller, o = .run controller ∨ o = .cleanup controller →
    Accepts gpus environment controller

section
variable {gpus : List GPU} {environment : Environment} {cards cards₁ cards₂ : Cards}
  {controller controller' : Controller}
  {release : Bool} {status : Option Nat} {log : List MainEvent} {p : Process} {err : GoError}

theorem accepts_inj (h : Accepts gpus environment controller) (h' : Accepts gpus environment controller') :
    controller = controller' := by
  obtain ⟨request, hrequest, hnew⟩ := h
  obtain ⟨request', hrequest', hnew'⟩ := h'
  rw [hrequest] at hrequest'
  cases hrequest'
  rw [hnew] at hnew'
  cases hnew'
  rfl

theorem gpus_of_accepts (h : Accepts gpus environment controller) : controller.config.gpus = gpus := by
  obtain ⟨request, -, hnew⟩ := h
  simp only [new] at hnew
  split at hnew
  next => cases hnew
  next =>
    split at hnew
    next => cases hnew
    next =>
      split at hnew
      next => cases hnew
      next => cases hnew; rfl

theorem Touched.refl : Touched gpus environment cards cards := .inl rfl

theorem Touched.kept (h : Touched gpus environment cards cards₁) (hc : Accepts gpus environment controller) :
    Kept controller.config cards cards₁ := by
  rcases h with rfl | ⟨controller', hc', hkept⟩
  · exact .refl
  · exact accepts_inj hc' hc ▸ hkept

theorem Touched.step (h : Touched gpus environment cards cards₁) (hc : Accepts gpus environment controller)
    (hkept : Kept controller.config cards₁ cards₂) : Touched gpus environment cards cards₂ :=
  .inr ⟨controller, hc, (h.kept hc).trans hkept⟩

theorem Touched.trans (h : Touched gpus environment cards cards₁) (h' : Touched gpus environment cards₁ cards₂) :
    Touched gpus environment cards cards₂ := by
  rcases h' with rfl | ⟨controller, hc, hkept⟩
  · exact h
  · exact h.step hc hkept

theorem Touched.allowed {o : MainOp} (h : Touched gpus environment cards p.cards)
    (ho : ∀ controller, ¬(o = .run controller ∨ o = .cleanup controller)) : Allowed gpus environment cards p o :=
  ⟨h, fun controller hcall => absurd hcall (ho controller)⟩

theorem fatal_touches (h : Touched gpus environment cards p.cards) :
    (fatal err).wp (ProcessStep gpus) (Allowed gpus environment cards) p fun _ p =>
      Touched gpus environment cards p.cards := by
  simp only [fatal, Prog.wp_bind, Prog.wp_lift, Prog.wp_pure]
  refine ⟨h.allowed fun controller hcall => by simp at hcall, fun _ p' hstep => ?_⟩
  have hcards : p'.cards = p.cards := hstep.1
  rwa [hcards]

theorem leave_touches (h : Touched gpus environment cards p.cards) :
    leave.wp (ProcessStep gpus) (Allowed gpus environment cards) p fun _ p =>
      Touched gpus environment cards p.cards := by
  simp only [leave, Prog.wp_bind, Prog.wp_lift, Prog.wp_pure]
  refine ⟨h.allowed fun controller hcall => by simp at hcall, fun _ p' hstep => ?_⟩
  have hcards : p'.cards = p.cards := hstep.1
  rwa [hcards]

theorem control_touches {flags : Flags} (h : Touched gpus environment cards p.cards)
    (hc : Accepts gpus environment controller) : (control flags controller).wp (ProcessStep gpus)
      (Allowed gpus environment cards) p fun _ p => Touched gpus environment cards p.cards := by
  rw [control]
  refine Prog.wp_ite.mpr ⟨fun _ => ?_, fun _ => ?_⟩
  · rw [Prog.wp_bind, Prog.wp_lift]
    refine ⟨⟨h, fun controller' hcall => ?_⟩, fun err p' hstep => ?_⟩
    · simp only [reduceCtorEq, MainOp.cleanup.injEq, false_or] at hcall
      exact hcall ▸ hc
    obtain ⟨⟨dir, w, he, hcards⟩, -⟩ := hstep
    have hp' : Touched gpus environment cards p'.cards := h.step hc (hcards ▸ kept_cleanup he)
    cases err with
    | some err => exact fatal_touches hp'
    | none => exact leave_touches hp'
  · rw [Prog.wp_bind, Prog.wp_lift]
    refine ⟨⟨h, fun controller' hcall => ?_⟩, fun err p' hstep => ?_⟩
    · simp only [reduceCtorEq, MainOp.run.injEq, or_false] at hcall
      exact hcall ▸ hc
    obtain ⟨⟨-, dir, w, he, hcards⟩, -⟩ := hstep
    have hp' : Touched gpus environment cards p'.cards := h.step hc (hcards ▸ he.kept)
    cases err with
    | some err => exact fatal_touches hp'
    | none => exact leave_touches hp'

theorem main_touches : (main (serviceFlags release) environment).wp (ProcessStep gpus) (Allowed gpus environment cards)
    ⟨cards, []⟩ fun _ p => Touched gpus environment cards p.cards := by
  rw [main, if_neg (by simp [serviceFlags])]
  cases hsettings : settings (serviceFlags release) environment with
  | error err => exact fatal_touches .refl
  | ok request =>
      refine Prog.wp_bind.mpr (Prog.wp_lift.mpr ⟨Touched.refl.allowed fun controller hcall => by simp at hcall, ?_⟩)
      intro r p hstep
      obtain ⟨⟨hfound, hcards⟩, -⟩ := hstep
      have htouched : Touched gpus environment cards p.cards := .inl hcards
      cases r with
      | error err => exact fatal_touches htouched
      | ok found =>
          obtain rfl := hfound found rfl
          dsimp only
          cases hnew : new found request with
          | error err => exact fatal_touches htouched
          | ok controller => exact control_touches htouched ⟨request, hsettings, hnew⟩

theorem Runs.touched (h : Runs gpus environment release cards status p) : Touched gpus environment cards p.cards := by
  cases h with
  | exits h => exact main_touches.exec h
  | @killed o p cards' h hcut =>
      obtain ⟨htouched, haccepts⟩ := main_touches.issued h
      cases o with
      | run controller =>
          obtain ⟨dir, o, w, hissues, rfl⟩ := hcut
          exact htouched.step (haccepts controller (.inl rfl)) hissues.kept
      | cleanup controller =>
          obtain ⟨dir, o, w, hissued, rfl⟩ := hcut
          exact htouched.step (haccepts controller (.inr rfl)) (kept_cut_cleanup hissued)
      | _ =>
          obtain rfl := hcut
          exact htouched

/-- Whatever its processes have done, the service has touched the cards only as its governor does. -/
theorem Rests.touched (h : Rests gpus environment cards cards₁ status log) : Touched gpus environment cards cards₁ := by
  induction h with
  | boot => exact .refl
  | refused _ hpost ih => exact ih.trans hpost.touched
  | round _ hmain hpost ih => exact (ih.trans hmain.touched).trans hpost.touched

/-! ## How a release ends -/

/-- How `--release` ends: with a `Cleanup` that returns no error, or with a call that has failed, or with settings that
the service does not accept. -/
structure Released.Ended (gpus : List GPU) (environment : Environment) (cards : Cards) (n : Nat)
    (p : Process) : Prop where
  done : n = 0 → ∃ controller, Accepts gpus environment controller ∧ ∃ dir w,
    (cleanup controller.config).Exec (Step anyAnswer) (start controller.config cards dir) none w ∧ p.cards = w.cards
  failed : n ≠ 0 → (∀ controller, ¬Accepts gpus environment controller) ∨
    (∃ err, (⟨.openHardware, .error err⟩ : MainEvent) ∈ p.log) ∨
    ∃ controller err, (⟨.cleanup controller, some err⟩ : MainEvent) ∈ p.log

theorem exec_fatal_process {p p' : Process} {n : Nat} (h : (fatal err).Exec (ProcessStep gpus) p n p') :
    n = 1 ∧ p'.log = ⟨.fatal err, ()⟩ :: p.log := by
  simp only [fatal, Prog.exec_bind, Prog.exec_lift, Prog.exec_pure] at h
  obtain ⟨_, _, hstep, rfl, rfl⟩ := h
  exact ⟨rfl, hstep.2⟩

theorem exec_leave_process {p p' : Process} {n : Nat} (h : leave.Exec (ProcessStep gpus) p n p') :
    n = 0 ∧ p'.cards = p.cards := by
  simp only [leave, Prog.exec_bind, Prog.exec_lift, Prog.exec_pure] at h
  obtain ⟨_, _, hstep, rfl, rfl⟩ := h
  exact ⟨rfl, hstep.1⟩

/-- The part of `--release` that has a governor. -/
theorem exec_release {p p' : Process} {n : Nat}
    (h : (control (serviceFlags true) controller).Exec (ProcessStep gpus) p n p') :
    (n = 0 → ∃ dir w, (cleanup controller.config).Exec (Step anyAnswer) (start controller.config p.cards dir) none w ∧
      p'.cards = w.cards) ∧ (n ≠ 0 → ∃ err, (⟨.cleanup controller, some err⟩ : MainEvent) ∈ p'.log) := by
  rw [control, if_pos (by rfl)] at h
  obtain ⟨err, p₁, hcleanup, h⟩ := Prog.exec_bind.mp h
  obtain ⟨⟨dir, w, he, hcards⟩, hlog⟩ := Prog.exec_lift.mp hcleanup
  cases err with
  | some err =>
      obtain ⟨rfl, hlog'⟩ := exec_fatal_process h
      refine ⟨fun hzero => absurd hzero Nat.one_ne_zero, fun _ => ⟨err, ?_⟩⟩
      rw [hlog', hlog]
      exact .tail _ (.head _)
  | none =>
      obtain ⟨rfl, hcards'⟩ := exec_leave_process h
      exact ⟨fun _ => ⟨dir, w, he, hcards'.trans hcards⟩, fun hne => absurd rfl hne⟩

theorem release_ended {n : Nat} (h : Runs gpus environment true cards (some n) p) :
    Released.Ended gpus environment cards n p := by
  cases h with
  | exits h =>
      rw [main, if_neg (by simp [serviceFlags])] at h
      cases hsettings : settings (serviceFlags true) environment with
      | error err =>
          rw [hsettings] at h
          obtain ⟨rfl, -⟩ := exec_fatal_process h
          refine ⟨fun hzero => absurd hzero Nat.one_ne_zero, fun _ => .inl ?_⟩
          rintro controller ⟨request, hrequest, -⟩
          have hsame : settings (serviceFlags true) environment = .ok request := hrequest
          rw [hsettings] at hsame
          cases hsame
      | ok request =>
          rw [hsettings] at h
          obtain ⟨r, p₁, hopen, h⟩ := Prog.exec_bind.mp h
          obtain ⟨⟨hfound, hcards⟩, hlog⟩ := Prog.exec_lift.mp hopen
          cases r with
          | error err =>
              obtain ⟨rfl, hlog'⟩ := exec_fatal_process h
              refine ⟨fun hzero => absurd hzero Nat.one_ne_zero, fun _ => .inr (.inl ⟨err, ?_⟩)⟩
              rw [hlog', hlog]
              exact .tail _ (.head _)
          | ok found =>
              obtain rfl := hfound found rfl
              dsimp only at h
              cases hnew : new found request with
              | error err =>
                  rw [hnew] at h
                  obtain ⟨rfl, -⟩ := exec_fatal_process h
                  refine ⟨fun hzero => absurd hzero Nat.one_ne_zero, fun _ => .inl ?_⟩
                  rintro controller ⟨request', hrequest, hmade⟩
                  have hsame : settings (serviceFlags true) environment = .ok request' := hrequest
                  rw [hsettings] at hsame
                  cases hsame
                  rw [hnew] at hmade
                  cases hmade
              | ok controller =>
                  rw [hnew] at h
                  have hrelease := exec_release h
                  refine ⟨fun hzero => ⟨controller, ⟨request, hsettings, hnew⟩, ?_⟩,
                    fun hne => .inr (.inr ⟨controller, ?_⟩)⟩
                  · have hcards' : p₁.cards = cards := hcards
                    rw [hcards'] at hrelease
                    exact hrelease.1 hzero
                  · exact hrelease.2 hne

theorem Released.rebase {c : Config} {card : Card} {offset offset' : Int} (h : Released c offset card)
    (hoffset : c.hasCoreOffset = false → offset = offset') : Released c offset' card where
  pstate := h.pstate
  fan := h.fan
  clocks := h.clocks
  coreOffset := by
    rw [h.coreOffset]
    cases hoff : c.hasCoreOffset with
    | false => exact hoffset hoff
    | true => rfl

/-- A `--release` that succeeds has released every supported card, with the offset from before the service. -/
theorem released_of_runs (htouched : Touched gpus environment cards cards₁)
    (h : Runs gpus environment true cards₁ (some 0) p) : ∃ controller, Accepts gpus environment controller ∧
      ∀ i, Covers gpus i → Released controller.config (cards i).coreOffset (p.cards i) := by
  obtain ⟨controller, hc, dir, w, he, hcards⟩ := (release_ended h).done rfl
  refine ⟨controller, hc, fun i hi => ?_⟩
  obtain ⟨calls, hcalls, hr, hcmd, -⟩ := cleanup_commands.exec he
  rw [← gpus_of_accepts hc] at hi
  have hreleased := released_of_commanded hcalls hcmd hi fun x hx _ => (hr.mp rfl).2 x hx
  rw [hcards]
  exact hreleased.rebase fun hoff => (htouched.kept hc).offset hoff i

/-! ## The service at rest -/

/-- However often the service has been started, and wherever its processes have ended or been killed: the cards that are
not supported are as before; if its last `--release` succeeded, all supported cards are released; if it failed, a call
of the hardware has failed in it, or the service has never changed a card. -/
theorem service_releases (h : Rests gpus environment cards cards₁ status log) :
    (∀ i, ¬Covers gpus i → cards₁ i = cards i) ∧
    (status = some 0 → ∃ controller, Accepts gpus environment controller ∧
      ∀ i, Covers gpus i → Released controller.config (cards i).coreOffset (cards₁ i)) ∧
    (∀ n, status = some n → n ≠ 0 → cards₁ = cards ∨ (∃ err, (⟨.openHardware, .error err⟩ : MainEvent) ∈ log) ∨
      ∃ controller err, (⟨.cleanup controller, some err⟩ : MainEvent) ∈ log) := by
  have htouched := h.touched
  have hfailed : ∀ {cards₂ p n}, Runs gpus environment true cards₂ (some n) p → Touched gpus environment cards p.cards →
      n ≠ 0 → p.cards = cards ∨ (∃ err, (⟨.openHardware, .error err⟩ : MainEvent) ∈ p.log) ∨
        ∃ controller err, (⟨.cleanup controller, some err⟩ : MainEvent) ∈ p.log := by
    intro cards₂ p n hpost htouched hne
    rcases (release_ended hpost).failed hne with hnone | hcall
    · rcases htouched with hsame | ⟨controller, hc, -⟩
      · exact .inl hsame
      · exact absurd hc (hnone controller)
    · exact .inr hcall
  refine ⟨fun i hi => ?_, ?_, ?_⟩
  · rcases htouched with rfl | ⟨controller, hc, hkept⟩
    · rfl
    · rw [← gpus_of_accepts hc] at hi
      exact hkept.spared i hi
  · rintro rfl
    cases h with
    | refused h hpost => exact released_of_runs h.touched hpost
    | round h hmain hpost => exact released_of_runs (h.touched.trans hmain.touched) hpost
  · rintro n rfl hne
    cases h with
    | refused h hpost => exact hfailed hpost htouched hne
    | round h hmain hpost => exact hfailed hpost htouched hne

end

/-! ## The example -/

/-- The first idle poll forces P8. -/
def sampleEnvironment : Environment := fun name => if name = "CMP_IDLE_AFTER" then "1" else ""

def sampleController : Controller :=
  ⟨"/opt/stacks/ai-server-manager/data/cmp50-power", seconds 5, sampleConfig, newGovernor sampleConfig⟩

theorem sample_accepts (release : Bool) : ∃ request,
    settings (serviceFlags release) sampleEnvironment = .ok request ∧
    new [sampleGPU] request = .ok sampleController := by
  have hpoll : envInt sampleEnvironment "CMP_POLL" 5 = .ok 5 := envInt_unset (by decide)
  have hidle : envInt sampleEnvironment "CMP_IDLE_AFTER" 6 = .ok 1 :=
    @envInt_number _ _ "1" _ _ rfl (by decide) (by decide) (by decide)
  have hutil : envInt sampleEnvironment "CMP_UTIL" 5 = .ok 5 := envInt_unset (by decide)
  have hfan : envInt sampleEnvironment "CMP_FAN_AUTO_TEMP" 55 = .ok 55 := envInt_unset (by decide)
  refine ⟨⟨"/opt/stacks/ai-server-manager/data/cmp50-power", seconds 5, 1, 5, 55, "", ""⟩, ?_, ?_⟩
  · rw [settings, hpoll, hidle, hutil, hfan]
    rfl
  · simp only [new, if_neg (show ¬((seconds 5).toInt ≤ 0 ∨ (1 : Int) ≤ 0) by decide)]
    rfl

/-- The process when it has opened the hardware. -/
def openedSample (cards : Cards) : Process := ⟨cards, [⟨.openHardware, (.ok [sampleGPU] : Except GoError (List GPU))⟩]⟩

theorem open_sample {cards : Cards} : ProcessStep [sampleGPU] .openHardware ⟨cards, []⟩
    (.ok [sampleGPU] : Except GoError (List GPU)) (openedSample cards) := by
  refine ⟨⟨fun found hfound => ?_, rfl⟩, rfl⟩
  cases hfound
  rfl

/-- The governor is killed with a card in P8 and a manual fan. -/
theorem killed_sample : ∃ w : World, (w.cards 0).fan = .manual 30 ∧
    Runs [sampleGPU] sampleEnvironment false sampleCards none ⟨w.cards, (openedSample sampleCards).log⟩ := by
  obtain ⟨request, hrequest, hnew⟩ := sample_accepts false
  obtain ⟨w, hissues, hP⟩ := Bench.issues (c := sampleConfig) (n := 3) (Bench.permits_anyAnswer fun _ => false)
    (b := sampleBench [.gpuTicker] [some (sampleControl 30)]) rfl .select
      (P := fun w => (w.cards 0).fan == .manual 30) rfl
  refine ⟨w, eq_of_beq hP, .killed (o := .run sampleController) (p := openedSample sampleCards) ?_
    ⟨sampleDir, .select, w, hissues, rfl⟩⟩
  rw [main, if_neg (by simp [serviceFlags]), hrequest]
  refine Prog.issued_bind.mpr (.inr ⟨.ok [sampleGPU], _, Prog.exec_lift.mpr open_sample, ?_⟩)
  simp only [hnew]
  rw [control, if_neg (by simp [serviceFlags])]
  exact Prog.issued_bind.mpr (.inl (Prog.issued_lift.mpr ⟨rfl, rfl⟩))

/-- A release whose calls succeed. -/
theorem released_sample (cards : Cards) : ∃ p, Runs [sampleGPU] sampleEnvironment true cards (some 0) p := by
  obtain ⟨request, hrequest, hnew⟩ := sample_accepts true
  have he := Prog.exec_interp Bench.world (Bench.run_step (Bench.permits_anyAnswer fun _ => false))
    (cleanup sampleConfig)
    { sampleBench [] [] with world := start sampleConfig cards sampleDir }
  have hcleanup : ∃ w, (cleanup sampleConfig).Exec (Step anyAnswer) (start sampleConfig cards sampleDir) none w :=
    ⟨_, he⟩
  obtain ⟨w, hw⟩ := hcleanup
  refine ⟨⟨w.cards, ⟨.closeHardware, (none : Option GoError)⟩ :: ⟨.cleanup sampleController, (none : Option GoError)⟩ ::
    (openedSample cards).log⟩, .exits ?_⟩
  rw [main, if_neg (by simp [serviceFlags]), hrequest]
  refine Prog.exec_bind.mpr ⟨.ok [sampleGPU], _, Prog.exec_lift.mpr open_sample, ?_⟩
  simp only [hnew]
  rw [control, if_pos (by rfl)]
  refine Prog.exec_bind.mpr ⟨none, ⟨w.cards, _⟩, Prog.exec_lift.mpr ⟨⟨sampleDir, w, hw, rfl⟩, rfl⟩, ?_⟩
  refine Prog.exec_bind.mpr ⟨none, _, Prog.exec_lift.mpr ⟨?_, ?_⟩, rfl, rfl⟩
  all_goals rfl

theorem service_releases_sample : ∃ (w : World) (cards : Cards) (log : List MainEvent), (w.cards 0).fan = .manual 30 ∧
    Rests [sampleGPU] sampleEnvironment sampleCards cards (some 0) log ∧ (cards 0).fan = .auto := by
  obtain ⟨w, hfan, hmain⟩ := killed_sample
  obtain ⟨p, hpost⟩ := released_sample w.cards
  have hrests : Rests [sampleGPU] sampleEnvironment sampleCards p.cards (some 0) p.log := .round .boot hmain hpost
  obtain ⟨controller, -, hreleased⟩ := (service_releases hrests).2.1 rfl
  exact ⟨w, p.cards, p.log, hfan, hrests, (hreleased 0 ⟨sampleGPU, .head [], rfl, by decide⟩).fan⟩

end Cmp50Unlock.IdleGovernor
