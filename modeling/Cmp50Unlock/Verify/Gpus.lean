import Cmp50Unlock.Verify.Lemmas.Main

/-!
# The GPUs behind RM

What the probe prints is the report of the GPU that its argument stands for.
-/

namespace Cmp50Unlock.Verify

open Lib

/-- What RM says of its cards, and what each GPU answers to the controls, by its instances. -/
structure HostRm extends CardAnswers where
  gpu : Instances → Answers

/-- `object` was allocated as the subdevice of the GPU with these instances. -/
def SubdeviceAt (log : List RmEvent) (object : NvHandle) (instances : Instances) : Prop :=
  ∃ fd client device fd' client', ∃ reply reply' : Reply NvHandle,
    (⟨.allocDevice fd client instances.device, reply⟩ : RmEvent) ∈ log ∧ reply.Succeeded ∧ reply.value = device ∧
    (⟨.allocSubdevice fd' client' device instances.subdevice, reply'⟩ : RmEvent) ∈ log ∧ reply'.Succeeded ∧
    reply'.value = object

/-- A control to a subdevice is answered by its GPU. -/
def HostRm.Step (rm : HostRm) (o : RmOp) (log : List RmEvent) (a : o.Ans) (log' : List RmEvent) : Prop :=
  rm.toCardAnswers.Step o log a log' ∧
    match o, a with
    | .control _ _ object c, a => ∀ instances, SubdeviceAt log object instances → a = rm.gpu instances c
    | _, _ => True

/-- What the probe prints for a GPU. -/
def IsReport (answers : Answers) (text : String) : Prop :=
  ∃ deviceIndex, Json.loads text = some (reportJson deviceIndex (controlsOf answers))

variable {rm : HostRm} {fd : Fd} {client subdevice : NvHandle} {minor : Int} {log : List RmEvent}
  {instances : Instances}

theorem HostRm.step_cards (o : RmOp) (log : List RmEvent) (a : o.Ans) (log' : List RmEvent) (h : rm.Step o log a log') :
    rm.toCardAnswers.Step o log a log' := h.1

theorem HostRm.subset_of_step {o : RmOp} {a : o.Ans} {log' : List RmEvent} (h : rm.Step o log a log') : log ⊆ log' := by
  rw [h.1.1]
  exact List.subset_cons_self _ _

theorem SubdeviceAt.mono {log' : List RmEvent} (h : SubdeviceAt log subdevice instances) (hlog : log ⊆ log') :
    SubdeviceAt log' subdevice instances := by
  obtain ⟨fd, client, device, fd', client', reply, reply', hdevice, hreply, hvalue, hsubdevice, hreply'⟩ := h
  exact ⟨fd, client, device, fd', client', reply, reply', hlog hdevice, hreply, hvalue, hlog hsubdevice, hreply'⟩

/-- The object that was allocated for a minor is of the GPU that the minor resolves to. -/
theorem subdeviceAt_of_subdeviceOf (h : rm.SubdeviceOf minor log subdevice) :
    ∃ instances, rm.Resolves minor instances ∧ SubdeviceAt log subdevice instances := by
  obtain ⟨instances, fd, client, device, reply, hi, ⟨i, fd', client', reply', hi', hdevice⟩, hsubdevice⟩ := h
  rw [hi'.eq hi] at hdevice
  exact ⟨instances, hi, fd', client', device, fd, client, reply', reply, hdevice.1, hdevice.2.1,
    hdevice.2.2, hsubdevice⟩

/-- A program that leaves the report of the GPU of `minor`, if it succeeds. -/
def Reports (rm : HostRm) (minor : Int) (r : Outcome) : Prop :=
  ∀ text, r = some (0, text) → ∃ instances, rm.Resolves minor instances ∧ IsReport (rm.gpu instances) text

theorem reports_failed : Reports rm minor failed := fun text h => by cases h

theorem runProbe_reports (h : rm.SubdeviceOf minor log subdevice) :
    (runProbe fd client subdevice minor).wp rm.Step (fun _ _ => True) log fun r _ => Reports rm minor r := by
  obtain ⟨instances, hi, hsubdevice⟩ := subdeviceAt_of_subdeviceOf h
  obtain ⟨text, hloads, hprobe⟩ := runProbe_text (rm.gpu instances) minor
  have hanswered : Answered rm.Step (fun _ _ => True) (fun log =>
    SubdeviceAt log subdevice instances) fd client subdevice
      (rm.gpu instances) := by
    intro c log hlog
    exact ⟨trivial, fun a log' hstep => ⟨hstep.2 instances hlog, hlog.mono (HostRm.subset_of_step hstep)⟩⟩
  refine (hprobe hanswered hsubdevice).mono fun r log' hr => ?_
  intro text' heq
  obtain ⟨-, rfl⟩ := Prod.mk.inj (Option.some.inj (hr.1.symm.trans heq))
  exact ⟨instances, hi, minor, hloads⟩

theorem rm_lift {o : RmOp} {α : Type} {f : o.Ans → Rm α} {Q : α → List RmEvent → Prop}
    (hf : ∀ a log', rm.Step o log a log' → (f a).wp rm.Step (fun _ _ => True) log' Q) :
    (Verify.rm o >>= f).wp rm.Step (fun _ _ => True) log Q := by
  rw [Prog.wp_bind]
  exact ⟨trivial, hf⟩

/-- A message, and then a result. -/
theorem eprintf_then {α : Type} {text : String} {error : Option Errno} {r : α} {Q : α → List RmEvent → Prop}
    (hQ : ∀ log', Q r log') : (eprintf text error >>= fun _ => pure r).wp rm.Step (fun _ _ => True) log Q :=
  rm_lift fun _ log' _ => hQ log'

/-- What is known of a part under the answers about the cards alone. -/
theorem cards_wp {α : Type} {p : Rm α} {G : List RmEvent → RmOp → Prop} {Q : α → List RmEvent → Prop}
    (h : p.wp rm.toCardAnswers.Step G log Q) : p.wp rm.Step (fun _ _ => True) log Q :=
  (h.steps HostRm.step_cards).guard fun _ _ _ => trivial

theorem probeDevice_reports {nvidiaFd : Fd} :
    (probeDevice fd nvidiaFd minor).wp rm.Step (fun _ _ => True) log fun r _ => Reports rm minor r := by
  refine rm_lift fun registered log₁ _ => ?_
  cases registered with
  | some e => exact eprintf_then fun _ => reports_failed
  | none =>
      have hclient : (allocClient fd 0).wp rm.toCardAnswers.Step (rm.Directed minor) log₁ fun _ _ => True :=
        allocClient_wp
      rw [Prog.wp_bind]
      refine (cards_wp hclient).mono fun client log₂ _ => ?_
      rw [Prog.wp_ite]
      refine ⟨fun _ => reports_failed, fun _ => ?_⟩
      rw [Prog.wp_bind]
      refine (cards_wp resolveDeviceInstances_wp).mono fun resolution log₃ hresolution => ?_
      rw [Prog.wp_ite]
      refine ⟨fun _ => reports_failed, fun hresolved => ?_⟩
      obtain ⟨i, hi⟩ := hresolution.1.resolved.mp (not_not.mp hresolved)
      rw [hresolution.1.outputs i hi, Prog.wp_bind]
      refine (cards_wp (allocDevice_wp hi)).mono fun device log₄ hdevice => ?_
      rw [Prog.wp_ite]
      refine ⟨fun _ => reports_failed, fun hallocated => ?_⟩
      rw [Prog.wp_bind]
      refine (cards_wp (allocSubdevice_wp hi (hdevice (not_not.mp hallocated)))).mono
        fun subdevice log₅ hsubdevice => ?_
      rw [Prog.wp_ite]
      exact ⟨fun _ => reports_failed, fun hallocated' => runProbe_reports (hsubdevice (not_not.mp hallocated'))⟩

/-- The probe succeeds only with the report of the GPU that its argument stands for. -/
theorem main_reports {args : List String} : (main args).wp rm.Step (fun _ _ => True) log fun r _ =>
    ∀ text, r = some (0, text) → ∃ minor instances, args.map parseDeviceIndex = [some minor] ∧
      rm.Resolves minor instances ∧ IsReport (rm.gpu instances) text := by
  rw [main]
  split
  next minor hargs =>
    have hreports : ∀ r, Reports rm minor r → ∀ text, r = some (0, text) → ∃ minor instances,
        args.map parseDeviceIndex = [some minor] ∧ rm.Resolves minor instances ∧ IsReport (rm.gpu instances) text := by
      intro r hr text heq
      obtain ⟨instances, hi, htext⟩ := hr text heq
      exact ⟨minor, instances, hargs, hi, htext⟩
    refine rm_lift fun opened log₁ _ => ?_
    cases opened with
    | error e => exact eprintf_then fun _ => hreports failed reports_failed
    | ok nvidiactlFd =>
        rw [Prog.wp_bind]
        have hopen : (openDevice nvidiactlFd minor).wp rm.Step (fun _ _ => True) log₁
            fun r _ => Reports rm minor r := by
          refine rm_lift fun opened log₂ _ => ?_
          cases opened with
          | error e => exact eprintf_then fun _ => reports_failed
          | ok nvidiaFd =>
              rw [Prog.wp_bind]
              exact probeDevice_reports.mono fun r _ hr => rm_lift fun _ _ _ => hr
        exact hopen.mono fun r _ hr => rm_lift fun _ _ _ => hreports r hr
  next => exact eprintf_then fun _ text h => by cases h

/-! ## An RM that serves every request

Its objects are numbered by the device instance, so that the subdevices of a device are one.
-/

/-- The answers of an RM that refuses nothing. -/
def HostRm.serve (rm : HostRm) : (o : RmOp) → o.Ans
  | .openFile _ => .ok 0
  | .close _ | .eprintf _ _ => ⟨⟩
  | .registerFd _ _ => none
  | .cardInfo _ => rm.cards
  | .allocClient _ => ⟨none, 0, 0⟩
  | .allocDevice _ _ deviceId => ⟨none, 0, deviceId⟩
  | .allocSubdevice _ _ device _ => ⟨none, 0, device⟩
  | .control _ _ _ (.idInfo gpuId) => rm.lookup gpuId
  | .control _ _ object c => rm.gpu ⟨object, 0⟩ c

/-- One call to it. -/
def HostRm.Serves (rm : HostRm) (o : RmOp) (log : List RmEvent) (a : o.Ans) (log' : List RmEvent) : Prop :=
  a = rm.serve o ∧ log' = ⟨o, a⟩ :: log

/-- What a GPU answers depends on its device instance alone, and the lookups agree with the cards. -/
structure HostRm.ByDevice (rm : HostRm) : Prop where
  device : ∀ i c, rm.gpu i c = rm.gpu ⟨i.device, 0⟩ c
  lookup : ∀ i gpuId, rm.gpu i (.idInfo gpuId) = rm.lookup gpuId

theorem HostRm.serves_cards (o : RmOp) (log : List RmEvent) (a : o.Ans) (log' : List RmEvent)
    (h : rm.Serves o log a log') :
    rm.toCardAnswers.Step o log a log' := by
  obtain ⟨rfl, rfl⟩ := h
  refine ⟨rfl, ?_⟩
  cases o with
  | control fd client object c =>
      cases c with
      | idInfo gpuId => rfl
      | _ => trivial
  | cardInfo fd => rfl
  | _ => trivial

/-- The objects in the log are numbered by their device instance. -/
def Numbered (log : List RmEvent) : Prop :=
  (∀ fd client deviceId, ∀ reply : Reply NvHandle, (⟨.allocDevice fd client deviceId, reply⟩ : RmEvent) ∈ log →
    reply.value = deviceId) ∧
  ∀ fd client device subDeviceId, ∀ reply : Reply NvHandle,
    (⟨.allocSubdevice fd client device subDeviceId, reply⟩ : RmEvent) ∈ log → reply.value = device

theorem numbered_serves {o : RmOp} {a : o.Ans} {log log' : List RmEvent} (hlog : Numbered log)
    (h : rm.Serves o log a log') :
    Numbered log' := by
  obtain ⟨rfl, rfl⟩ := h
  constructor
  · intro fd client deviceId reply hmem
    cases hmem with
    | head => rfl
    | tail _ hmem => exact hlog.1 fd client deviceId reply hmem
  · intro fd client device subDeviceId reply hmem
    cases hmem with
    | head => rfl
    | tail _ hmem => exact hlog.2 fd client device subDeviceId reply hmem

theorem Numbered.subdeviceAt (hlog : Numbered log) (h : SubdeviceAt log subdevice instances) :
    subdevice = instances.device := by
  obtain ⟨fd, client, device, fd', client', reply, reply', hdevice, -, hvalue, hsubdevice, -, hvalue'⟩ := h
  rw [← hvalue', hlog.2 _ _ _ _ _ hsubdevice, ← hvalue, hlog.1 _ _ _ _ hdevice]

/-- What it answers is what the GPUs behind it answer. -/
theorem HostRm.serves_gpus (hrm : rm.ByDevice) (o : RmOp) (log : List RmEvent) (a : o.Ans) (log' : List RmEvent)
    (hlog : Numbered log) (h : rm.Serves o log a log') : rm.Step o log a log' ∧ Numbered log' := by
  refine ⟨⟨HostRm.serves_cards o log a log' h, ?_⟩, numbered_serves hlog h⟩
  obtain ⟨rfl, -⟩ := h
  cases o with
  | control fd client object c =>
      intro instances hobject
      rw [hrm.device instances c, ← hlog.subdeviceAt hobject]
      cases c with
      | idInfo gpuId => exact (hrm.lookup _ gpuId).symm
      | _ => rfl
  | _ => trivial

def HostRm.respond (rm : HostRm) (o : RmOp) (log : List RmEvent) : o.Ans × List RmEvent :=
  (rm.serve o, ⟨o, rm.serve o⟩ :: log)

/-- The result of a program on it. -/
def HostRm.run (rm : HostRm) {α : Type} (p : Rm α) : α := (p.interp rm.respond []).1

theorem exec_serves (rm : HostRm) {α : Type} (p : Rm α) : ∃ log, p.Exec rm.Serves [] (rm.run p) log :=
  ⟨_, Prog.exec_interp id (fun _ _ => ⟨rfl, rfl⟩) p []⟩

theorem exec_run (hrm : rm.ByDevice) {α : Type} (p : Rm α) : ∃ log, p.Exec rm.Step [] (rm.run p) log := by
  obtain ⟨log, hexec⟩ := exec_serves rm p
  have hstart : Numbered [] := by
    constructor
    · intro fd client deviceId reply hmem
      cases hmem
    · intro fd client device subDeviceId reply hmem
      cases hmem
  exact ⟨log, hexec.under (HostRm.serves_gpus hrm) hstart⟩

theorem serve_bind {o : RmOp} {α : Type} {f : o.Ans → Rm α} {Q : α → List RmEvent → Prop}
    (hf : ∀ log', (f (rm.serve o)).wp rm.Serves (fun _ _ => True) log' Q) :
    (Verify.rm o >>= f).wp rm.Serves (fun _ _ => True) log Q := by
  rw [Prog.wp_bind]
  refine ⟨trivial, fun a log' h => ?_⟩
  obtain ⟨rfl, rfl⟩ := h
  exact hf _

/-- The result of a probe that comes to its end. -/
def Reported (rm : HostRm) (instances : Instances) (r : Outcome) : Prop :=
  ∃ text, r = some (probeStatus (rm.gpu instances), text) ∧ IsReport (rm.gpu instances) text

theorem served_bind {α β : Type} {p : Rm α} {f : α → Rm β} {Q : β → List RmEvent → Prop} {r : α}
    (hp : ∀ log, p.wp rm.Serves (fun _ _ => True) log fun a _ => a = r)
    (hf : ∀ log, (f r).wp rm.Serves (fun _ _ => True) log Q) : (p >>= f).wp rm.Serves (fun _ _ => True) log Q := by
  rw [Prog.wp_bind]
  refine (hp log).mono ?_
  rintro _ log' rfl
  exact hf log'

/-- The file is closed at the end. -/
theorem served_close {p : Rm Outcome} {Q : Outcome → Prop} (hp : p.wp rm.Serves (fun _ _ => True) log fun r _ => Q r) :
    (p >>= fun result => Verify.rm (.close fd) >>= fun _ => pure result).wp rm.Serves (fun _ _ => True) log
      fun r _ => Q r := by
  rw [Prog.wp_bind]
  exact hp.mono fun r _ hr => serve_bind fun _ => hr

theorem runProbe_served (hrm : rm.ByDevice) (instances : Instances) (deviceIndex : Int) :
    (runProbe fd client instances.device deviceIndex).wp rm.Serves (fun _ _ => True) log
      fun r _ => Reported rm instances r := by
  obtain ⟨text, hloads, hprobe⟩ := runProbe_text (rm.gpu instances) deviceIndex
  have hanswered : Answered rm.Serves (fun _ _ => True) (fun _ => True) fd client instances.device
      (rm.gpu instances) := by
    intro c log _
    refine ⟨trivial, fun a log' hstep => ⟨?_, trivial⟩⟩
    rw [hstep.1]
    cases c with
    | idInfo gpuId => exact (hrm.lookup instances gpuId).symm
    | _ => exact (hrm.device instances _).symm
  refine (hprobe hanswered trivial).mono fun r log' hr => ?_
  exact ⟨text, hr.1, deviceIndex, hloads⟩

/-- The probe comes to its end for every minor that resolves. -/
theorem main_served (hrm : rm.ByDevice) (hi : rm.Resolves minor instances) {args : List String}
    (hargs : args.map parseDeviceIndex = [some minor]) :
    (main args).wp rm.Serves (fun _ _ => True) log fun r _ => Reported rm instances r := by
  have hresolve : ∀ client log, (resolveDeviceInstances 0 client minor ⟨0, 0⟩).wp rm.Serves (fun _ _ => True) log
      fun a _ => a = (true, instances) := by
    intro client log
    have hcards : (resolveDeviceInstances 0 client minor ⟨0, 0⟩).wp rm.toCardAnswers.Step (rm.Directed minor) log
        fun r log' => rm.Resolution minor ⟨0, 0⟩ r ∧ log ⊆ log' := resolveDeviceInstances_wp
    refine ((hcards.steps HostRm.serves_cards).guard fun _ _ _ => trivial).mono fun r log' hr => ?_
    exact Prod.ext (hr.1.resolved.mpr ⟨instances, hi⟩) (hr.1.outputs instances hi)
  have hclient : ∀ log, (allocClient 0 0).wp rm.Serves (fun _ _ => True) log fun a _ => a = (true, 0) :=
    fun _ => serve_bind fun _ => rfl
  have hdevice : ∀ client log, (allocDevice 0 client instances.device.toInt 0).wp rm.Serves (fun _ _ => True) log
      fun a _ => a = (true, instances.device) := by
    intro client log
    have hcast : BitVec.ofInt 32 instances.device.toInt = instances.device := BitVec.ofInt_toInt
    rw [allocDevice, hcast]
    exact serve_bind fun _ => rfl
  have hsubdevice : ∀ client log, (allocSubdevice 0 client instances.device instances.subdevice 0).wp rm.Serves
      (fun _ _ => True) log fun a _ => a = (true, instances.device) := fun _ _ => serve_bind fun _ => rfl
  have hprobe : ∀ log, (probeDevice 0 0 minor).wp rm.Serves (fun _ _ => True) log
      fun r _ => Reported rm instances r := by
    intro log
    refine serve_bind fun log₁ => served_bind hclient fun log₂ => ?_
    refine served_bind (hresolve 0) fun log₃ => served_bind (hdevice 0) fun log₄ => ?_
    exact served_bind (hsubdevice 0) fun log₅ => runProbe_served hrm instances minor
  rw [main, hargs]
  refine serve_bind fun log₁ => served_close ?_
  exact serve_bind fun log₂ => served_close (hprobe log₂)

theorem run_main (hrm : rm.ByDevice) (hi : rm.Resolves minor instances) {args : List String}
    (hargs : args.map parseDeviceIndex = [some minor]) : Reported rm instances (rm.run (main args)) := by
  obtain ⟨log, hexec⟩ := exec_serves rm (main args)
  exact (main_served hrm hi hargs).exec hexec

end Cmp50Unlock.Verify
