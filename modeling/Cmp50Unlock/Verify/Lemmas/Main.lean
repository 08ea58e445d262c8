import Cmp50Unlock.Verify.Lemmas.Probe
import Cmp50Unlock.Verify.Main

/-!
# Which GPU is probed

What RM says of the cards decides which GPU a minor stands for; the objects that `main` allocates are of that GPU.
-/

namespace Cmp50Unlock.Verify

open Lib

/-! ## What RM says of the cards -/

/-- The answers of RM about its cards: the table, and the instances of a GPU id. -/
structure CardAnswers where
  cards : Except Errno (Vector CardInfo 128)
  lookup : NvU32 → Reply IdInfo

abbrev RmEvent := (o : RmOp) × o.Ans

namespace CardAnswers

variable (answers : CardAnswers)

/-- The entry stands for the minor. -/
def Matches (minor : Int) (card : CardInfo) : Prop := card.valid ≠ 0 ∧ card.minorNumber = BitVec.ofInt 32 minor

instance (minor : Int) (card : CardInfo) : Decidable (Matches minor card) := inferInstanceAs (Decidable (_ ∧ _))

/-- The first entry of the table that stands for the minor. -/
def selected (minor : Int) : Option CardInfo :=
  match answers.cards with
  | .error _ => none
  | .ok cards => cards.toList.find? fun card => Matches minor card

/-- The lookup of the selected GPU succeeds, with these instances. -/
def Resolves (minor : Int) (instances : Instances) : Prop :=
  ∃ card, answers.selected minor = some card ∧ (answers.lookup card.gpuId).Succeeded ∧
    instances = ⟨(answers.lookup card.gpuId).value.deviceInstance, (answers.lookup card.gpuId).value.subDeviceInstance⟩

/-- The calls about the cards are answered by `answers`, and every other answer is possible. The state is the log of the
calls, the newest first. -/
def Step (o : RmOp) (log : List RmEvent) (a : o.Ans) (log' : List RmEvent) : Prop :=
  log' = ⟨o, a⟩ :: log ∧
    match o, a with
    | .cardInfo _, a => a = answers.cards
    | .control _ _ _ (.idInfo gpuId), a => a = answers.lookup gpuId
    | _, _ => True

/-- `device` is a device object of the GPU that the minor stands for. -/
def DeviceOf (minor : Int) (log : List RmEvent) (device : NvHandle) : Prop :=
  ∃ instances fd client, ∃ reply : Reply NvHandle, answers.Resolves minor instances ∧
    (⟨.allocDevice fd client instances.device, reply⟩ : RmEvent) ∈ log ∧ reply.Succeeded ∧ reply.value = device

/-- `subdevice` is a subdevice object of the GPU that the minor stands for. -/
def SubdeviceOf (minor : Int) (log : List RmEvent) (subdevice : NvHandle) : Prop :=
  ∃ instances fd client device, ∃ reply : Reply NvHandle, answers.Resolves minor instances ∧
    answers.DeviceOf minor log device ∧
    (⟨.allocSubdevice fd client device instances.subdevice, reply⟩ : RmEvent) ∈ log ∧ reply.Succeeded ∧
    reply.value = subdevice

/-- A call is about the GPU that the minor stands for: objects are allocated with its instances, its id is looked up,
and all other controls go to a subdevice object of it. -/
def Directed (minor : Int) (log : List RmEvent) : RmOp → Prop
  | .allocDevice _ _ deviceId => ∃ instances, answers.Resolves minor instances ∧ deviceId = instances.device
  | .allocSubdevice _ _ device subDeviceId =>
      answers.DeviceOf minor log device ∧ ∃ instances, answers.Resolves minor instances ∧
        subDeviceId = instances.subdevice
  | .control _ client object c =>
      (object = client ∧ ∃ card, answers.selected minor = some card ∧ c = .idInfo card.gpuId) ∨
        answers.SubdeviceOf minor log object
  | _ => True

/-- What `resolve_device_instances` returns, and what it leaves in the variables of its caller. -/
structure Resolution (minor : Int) (instances : Instances) (r : Bool × Instances) : Prop where
  resolved : r.1 = true ↔ ∃ i, answers.Resolves minor i
  outputs : ∀ i, answers.Resolves minor i → r.2 = i
  unchanged : r.1 = false → r.2 = instances

end CardAnswers

/-! ## Resolving a minor -/

variable {answers : CardAnswers} {fd : Fd} {client : NvHandle} {minor : Int} {instances : Instances}
  {log : List RmEvent} {G : List RmEvent → RmOp → Prop}

open CardAnswers (Matches)

theorem matches_iff {card : CardInfo} :
    Matches minor card ↔ ¬(card.valid = 0 ∨ card.minorNumber ≠ BitVec.ofInt 32 minor) := by
  rw [Matches, not_or, not_not]

theorem CardAnswers.Resolves.eq {i j : Instances} (hi : answers.Resolves minor i) (hj : answers.Resolves minor j) :
    i = j := by
  obtain ⟨card, hcard, -, rfl⟩ := hi
  obtain ⟨card', hcard', -, rfl⟩ := hj
  rw [hcard] at hcard'
  cases hcard'
  rfl

theorem CardAnswers.resolution_true {i : Instances} (h : answers.Resolves minor i) :
    answers.Resolution minor instances (true, i) :=
  ⟨⟨fun _ => ⟨i, h⟩, fun _ => rfl⟩, fun _ hj => h.eq hj, fun hfalse => by cases hfalse⟩

theorem CardAnswers.resolution_false (h : ∀ i, ¬answers.Resolves minor i) :
    answers.Resolution minor instances (false, instances) :=
  ⟨⟨fun htrue => (by cases htrue), fun ⟨i, hi⟩ => absurd hi (h i)⟩, fun i hi => absurd hi (h i), fun _ => rfl⟩

theorem eprintf_wp {text : String} {error : Option Errno} {Q : PUnit → List RmEvent → Prop}
    (hG : G log (.eprintf text error)) (hQ : ∀ log', log ⊆ log' → Q ⟨⟩ log') :
    (eprintf text error).wp answers.Step G log Q := by
  refine ⟨hG, fun a log' h => ?_⟩
  obtain ⟨rfl, -⟩ := h
  exact hQ _ (List.subset_cons_self _ _)

theorem rm_bind {o : RmOp} {α : Type} {f : o.Ans → Rm α} {Q : α → List RmEvent → Prop} (hG : G log o)
    (hf : ∀ a log', answers.Step o log a log' → (f a).wp answers.Step G log' Q) :
    (rm o >>= f).wp answers.Step G log Q := by
  rw [Prog.wp_bind]
  exact ⟨hG, hf⟩

/-- The entry that the lookup failed for is the selected one. -/
theorem not_resolves_of_failed {card : CardInfo} (hcard : answers.selected minor = some card)
    (hfailed : ¬(answers.lookup card.gpuId).Succeeded) (i : Instances) : ¬answers.Resolves minor i := by
  rintro ⟨card', hcard', hsucceeded, -⟩
  rw [hcard] at hcard'
  cases hcard'
  exact hfailed hsucceeded

/-- The loop, where the entries before `cards` do not stand for the minor. -/
theorem resolveAmong_wp (cards : List CardInfo)
    (hselected : answers.selected minor = cards.find? fun card => Matches minor card) :
    (resolveAmong fd client minor instances cards).wp answers.Step (answers.Directed minor) log
      fun r log' => answers.Resolution minor instances r ∧ log ⊆ log' := by
  induction cards with
  | nil =>
      rw [resolveAmong, Prog.wp_bind]
      refine eprintf_wp trivial fun log' hlog => ⟨CardAnswers.resolution_false ?_, hlog⟩
      rintro i ⟨card, hcard, -⟩
      rw [hselected] at hcard
      cases hcard
  | cons card cards ih =>
      rw [resolveAmong]
      split
      next hskip =>
        apply ih
        rw [hselected, List.find?_cons_of_neg]
        simpa only [decide_eq_true_iff, matches_iff, not_not] using hskip
      next hmatch =>
        have hcard : answers.selected minor = some card := by
          rw [hselected, List.find?_cons_of_pos]
          simpa only [decide_eq_true_iff, matches_iff] using hmatch
        rw [rmControl, bind_assoc]
        refine rm_bind (.inl ⟨rfl, card, hcard, rfl⟩) fun reply log₁ hstep => ?_
        obtain ⟨rfl, rfl⟩ := hstep
        have hok := succeeded_iff (answers.lookup card.gpuId)
        have hlog := List.subset_cons_self
          (⟨.control fd client client (.idInfo card.gpuId), answers.lookup card.gpuId⟩ : RmEvent) log
        rw [pure_bind, Prog.wp_ite]
        constructor
        · intro hfailed
          rw [Prog.wp_bind]
          refine eprintf_wp trivial fun log' hlog' => ⟨CardAnswers.resolution_false ?_, List.Subset.trans hlog hlog'⟩
          exact not_resolves_of_failed hcard fun hsucceeded => hfailed (hok.mpr hsucceeded)
        · intro hsucceeded
          rw [Prog.wp_bind]
          refine eprintf_wp trivial fun log' hlog' => ⟨CardAnswers.resolution_true ⟨card, hcard, ?_, rfl⟩,
            List.Subset.trans hlog hlog'⟩
          exact hok.mp (not_not.mp hsucceeded)

theorem resolveDeviceInstances_wp :
    (resolveDeviceInstances fd client minor instances).wp answers.Step (answers.Directed minor) log
      fun r log' => answers.Resolution minor instances r ∧ log ⊆ log' := by
  refine rm_bind trivial fun cards log₁ hstep => ?_
  obtain ⟨rfl, rfl⟩ := hstep
  have hlog := List.subset_cons_self (⟨.cardInfo fd, answers.cards⟩ : RmEvent) log
  generalize hcards : answers.cards = cards at hlog ⊢
  cases cards with
  | error e =>
      rw [Prog.wp_bind]
      refine eprintf_wp trivial fun log' hlog' => ⟨CardAnswers.resolution_false ?_, List.Subset.trans hlog hlog'⟩
      rintro i ⟨card, hcard, -⟩
      rw [CardAnswers.selected, hcards] at hcard
      cases hcard
  | ok cards =>
      have hselected : answers.selected minor = cards.toList.find? fun card => Matches minor card := by
        rw [CardAnswers.selected, hcards]
      exact (resolveAmong_wp cards.toList hselected).mono fun r log' hr => ⟨hr.1, List.Subset.trans hlog hr.2⟩

/-! ## The objects of a GPU -/

theorem CardAnswers.DeviceOf.mono {device : NvHandle} {log' : List RmEvent} (h : answers.DeviceOf minor log device)
    (hlog : log ⊆ log') : answers.DeviceOf minor log' device := by
  obtain ⟨i, fd, client, reply, hi, hmem, hreply⟩ := h
  exact ⟨i, fd, client, reply, hi, hlog hmem, hreply⟩

theorem CardAnswers.SubdeviceOf.mono {subdevice : NvHandle} {log' : List RmEvent}
    (h : answers.SubdeviceOf minor log subdevice) (hlog : log ⊆ log') : answers.SubdeviceOf minor log' subdevice := by
  obtain ⟨i, fd, client, device, reply, hi, hdevice, hmem, hreply⟩ := h
  exact ⟨i, fd, client, device, reply, hi, hdevice.mono hlog, hlog hmem, hreply⟩

/-- A request that failed, or was refused, leaves nothing but a message. -/
theorem allocation_wp {reply : Reply NvHandle} {text : String} {message : String} {object : NvHandle}
    {Q : Bool × NvHandle → List RmEvent → Prop} (hfailed : ∀ log', Q (false, object) log')
    (hsucceeded : reply.Succeeded → Q (true, reply.value) log) :
    Prog.wp answers.Step (answers.Directed minor) (match reply.error with
      | some e => do
          eprintf text (some e)
          return (false, object)
      | none =>
          if reply.status ≠ 0 then do
            eprintf message none
            return (false, object)
          else return (true, reply.value)) log Q := by
  cases herror : reply.error with
  | some e =>
      rw [Prog.wp_bind]
      exact eprintf_wp trivial fun log' _ => hfailed log'
  | none =>
      rw [Prog.wp_ite]
      constructor
      · intro _
        rw [Prog.wp_bind]
        exact eprintf_wp trivial fun log' _ => hfailed log'
      · intro hstatus
        exact hsucceeded ⟨herror, not_not.mp hstatus⟩

theorem allocClient_wp {client : NvHandle} : (allocClient fd client).wp answers.Step (answers.Directed minor) log
    fun _ _ => True := by
  refine rm_bind trivial fun reply log₁ _ => ?_
  exact allocation_wp (fun _ => trivial) fun _ => trivial

theorem allocDevice_wp {device : NvHandle} (hi : answers.Resolves minor instances) :
    (allocDevice fd client instances.device.toInt device).wp answers.Step (answers.Directed minor) log
      fun r log' => r.1 = true → answers.DeviceOf minor log' r.2 := by
  have hcast : BitVec.ofInt 32 instances.device.toInt = instances.device := BitVec.ofInt_toInt
  rw [allocDevice, hcast]
  refine rm_bind ⟨instances, hi, rfl⟩ fun reply log₁ hstep => ?_
  obtain ⟨rfl, -⟩ := hstep
  refine allocation_wp (fun _ hfalse => by cases hfalse) fun hsucceeded _ => ?_
  exact ⟨instances, fd, client, reply, hi, List.mem_cons_self, hsucceeded, rfl⟩

theorem allocSubdevice_wp {device subdevice : NvHandle} (hi : answers.Resolves minor instances)
    (hdevice : answers.DeviceOf minor log device) :
    (allocSubdevice fd client device instances.subdevice subdevice).wp answers.Step (answers.Directed minor) log
      fun r log' => r.1 = true → answers.SubdeviceOf minor log' r.2 := by
  refine rm_bind ⟨hdevice, instances, hi, rfl⟩ fun reply log₁ hstep => ?_
  obtain ⟨rfl, -⟩ := hstep
  refine allocation_wp (fun _ hfalse => by cases hfalse) fun hsucceeded _ => ?_
  exact ⟨instances, fd, client, device, reply, hi, hdevice.mono (List.subset_cons_self _ _), List.mem_cons_self,
    hsucceeded, rfl⟩

/-! ## The controls of the probe -/

/-- A control on a subdevice. -/
def OnSubdevice (fd : Fd) (client subdevice : NvHandle) (o : RmOp) : Prop := ∃ c, o = .control fd client subdevice c

section
variable {subdevice : NvHandle}

theorem rmControl_uses (c : Control) : (rmControl fd client subdevice c).Uses (OnSubdevice fd client subdevice) := by
  rw [rmControl, Prog.Uses, Prog.within_bind]
  exact ⟨⟨c, rfl⟩, fun _ => trivial⟩

theorem collect_uses (n : Nat) : (@collect (ControlResult × ContextProperties)
    (fun i => rmControl fd client subdevice (.contextProperties (BitVec.ofNat 32 i))) n).Uses
      (OnSubdevice fd client subdevice) := by
  induction n with
  | zero =>
      rw [collect_zero]
      trivial
  | succ n ih =>
      rw [collect_succ, Prog.Uses, Prog.within_bind]
      refine ih.within fun _ => ?_
      rw [Prog.within_bind]
      exact (rmControl_uses _).within fun _ => trivial

theorem queryEngineClasses_uses {name : String} {engineType : NvU32} :
    (queryEngineClasses fd client subdevice name engineType).Uses (OnSubdevice fd client subdevice) := by
  rw [queryEngineClasses, Prog.Uses, Prog.within_bind]
  exact (rmControl_uses _).within fun _ => trivial

theorem sendControls_uses : (sendControls fd client subdevice).Uses (OnSubdevice fd client subdevice) := by
  simp only [sendControls, Prog.Uses, Prog.within_bind]
  refine (rmControl_uses _).within fun _ => ?_
  refine (rmControl_uses _).within fun _ => ?_
  refine (rmControl_uses _).within fun _ => ?_
  refine (rmControl_uses _).within fun _ => ?_
  refine (rmControl_uses _).within fun _ => ?_
  refine (rmControl_uses _).within fun _ => ?_
  refine (collect_uses engineIdCount).within fun _ => ?_
  refine (rmControl_uses _).within fun _ => ?_
  refine queryEngineClasses_uses.within fun _ => ?_
  refine queryEngineClasses_uses.within fun _ => ?_
  refine queryEngineClasses_uses.within fun _ => ?_
  exact queryEngineClasses_uses.within fun _ => trivial

theorem runProbe_uses {deviceIndex : Int} :
    (runProbe fd client subdevice deviceIndex).Uses (OnSubdevice fd client subdevice) := by
  rw [runProbe, Prog.Uses, Prog.within_bind]
  exact sendControls_uses.within fun _ => trivial

theorem runProbe_directed {deviceIndex : Int} (h : answers.SubdeviceOf minor log subdevice) :
    (runProbe fd client subdevice deviceIndex).wp answers.Step (answers.Directed minor) log fun _ _ => True := by
  refine (runProbe_uses.wp (I := fun log => answers.SubdeviceOf minor log subdevice) ?_ ?_ h).mono fun _ _ _ => trivial
  · rintro o log a log' - ⟨rfl, -⟩ hlog
    exact hlog.mono (List.subset_cons_self _ _)
  · rintro _ log ⟨c, rfl⟩ hlog
    exact .inr hlog

end

/-! ## The program -/

theorem probeDevice_wp {nvidiaFd : Fd} :
    (probeDevice fd nvidiaFd minor).wp answers.Step (answers.Directed minor) log fun _ _ => True := by
  refine rm_bind trivial fun registered log₁ _ => ?_
  cases registered with
  | some e =>
      rw [Prog.wp_bind]
      exact eprintf_wp trivial fun _ _ => trivial
  | none =>
      rw [Prog.wp_bind]
      refine allocClient_wp.mono fun client log₂ _ => ?_
      rw [Prog.wp_ite]
      refine ⟨fun _ => trivial, fun _ => ?_⟩
      rw [Prog.wp_bind]
      refine resolveDeviceInstances_wp.mono fun resolution log₃ hresolution => ?_
      rw [Prog.wp_ite]
      refine ⟨fun _ => trivial, fun hresolved => ?_⟩
      obtain ⟨i, hi⟩ := hresolution.1.resolved.mp (not_not.mp hresolved)
      rw [hresolution.1.outputs i hi, Prog.wp_bind]
      refine (allocDevice_wp hi).mono fun device log₄ hdevice => ?_
      rw [Prog.wp_ite]
      refine ⟨fun _ => trivial, fun hallocated => ?_⟩
      rw [Prog.wp_bind]
      refine (allocSubdevice_wp hi (hdevice (not_not.mp hallocated))).mono fun subdevice log₅ hsubdevice => ?_
      rw [Prog.wp_ite]
      exact ⟨fun _ => trivial, fun hallocated' => runProbe_directed (hsubdevice (not_not.mp hallocated'))⟩

theorem openDevice_wp : (openDevice fd minor).wp answers.Step (answers.Directed minor) log fun _ _ => True := by
  refine rm_bind trivial fun opened log₁ _ => ?_
  cases opened with
  | error e =>
      rw [Prog.wp_bind]
      exact eprintf_wp trivial fun _ _ => trivial
  | ok nvidiaFd =>
      rw [Prog.wp_bind]
      exact probeDevice_wp.mono fun _ _ _ => rm_bind trivial fun _ _ _ => trivial

theorem parseDeviceIndex_bounds {text : String} (h : parseDeviceIndex text = some minor) : 0 ≤ minor ∧ minor ≤ 127 := by
  rw [parseDeviceIndex] at h
  split at h
  next => cases h
  next =>
    split at h
    next => cases h
    next => cases h; omega

theorem main_wp {args : List String} : (main args).wp answers.Step (fun log o => (∃ text, o = .eprintf text none) ∨
    ∃ minor, args.map parseDeviceIndex = [some minor] ∧ answers.Directed minor log o) log fun _ _ => True := by
  rw [main]
  split
  next minor hargs =>
    have hguard : ∀ log o, answers.Directed minor log o → (∃ text, o = .eprintf text none) ∨
        ∃ minor, args.map parseDeviceIndex = [some minor] ∧ answers.Directed minor log o :=
      fun _ _ h => .inr ⟨minor, hargs, h⟩
    refine rm_bind (hguard _ _ trivial) fun opened log₁ _ => ?_
    cases opened with
    | error e =>
        rw [Prog.wp_bind]
        exact eprintf_wp (hguard _ _ trivial) fun _ _ => trivial
    | ok nvidiactlFd =>
        rw [Prog.wp_bind]
        exact openDevice_wp.imp hguard fun _ _ _ => rm_bind (hguard _ _ trivial) fun _ _ _ => trivial
  next =>
    rw [Prog.wp_bind]
    exact eprintf_wp (.inl ⟨_, rfl⟩) fun _ _ => trivial

end Cmp50Unlock.Verify
