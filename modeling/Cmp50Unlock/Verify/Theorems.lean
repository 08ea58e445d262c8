import Cmp50Unlock.Verify.Faithful
import Cmp50Unlock.Verify.Lemmas.Keys
import Cmp50Unlock.Verify.Lemmas.Main

/-!
# The verdict, from RM to the last line
-/

namespace Cmp50Unlock.Verify

open Lib

/-! ## The report and the verdict agree -/

theorem take_four {α : Type} {n : Nat} (xs : Vector α n) (hn : 4 ≤ n) :
    xs.toList.take 4 = [xs[0], xs[1], xs[2], xs[3]] := by
  apply List.ext_getElem
  · simp [hn]
  · intro i hi _
    have hi4 : i < 4 := by simp at hi; omega
    match i, hi4 with
    | 0, _ => simp
    | 1, _ => simp
    | 2, _ => simp
    | 3, _ => simp

/-- The entries stand where they were asked for. -/
theorem infoValue_eq {n : Nat} {items : Vector Info n} (hn : 4 ≤ n) {a b c d : NvU32}
    (hindices : (items.toList.take 4).map Info.index = [a, b, c, d]) (hdistinct : [a, b, c, d].Nodup) :
    infoValue items a = some items[0].data ∧ infoValue items b = some items[1].data ∧
      infoValue items c = some items[2].data ∧ infoValue items d = some items[3].data := by
  rw [take_four items hn] at hindices
  simp only [List.map_cons, List.map_nil, List.cons.injEq, and_true] at hindices
  obtain ⟨ha, hb, hc, hd⟩ := hindices
  simp only [List.nodup_cons, List.mem_cons, List.not_mem_nil, or_false, not_or] at hdistinct
  obtain ⟨⟨hab, hac, had⟩, ⟨hbc, hbd⟩, hcd, -⟩ := hdistinct
  simp only [infoValue, take_four items hn, List.find?_cons, ha, hb, hc, hd, decide_true, hab, hac, had, hbc, hbd, hcd,
    decide_false, Option.map_some, and_self]

theorem passes_iff {answers : Answers} (hkeeps : answers.KeepsIndices) :
    (controlsOf answers).Passes ↔ answers.Passes := by
  have hgpuIndices : (answers.gpuInfo.value.list.toList.take 4).map Info.index = [0x12, 0x13, 0x3c, 0x34] :=
    hkeeps.gpu.trans (by decide)
  have hgrIndices : (answers.grInfo.value.toList.take 4).map Info.index = [0x1d, 0x22, 0x23, 0x34] :=
    hkeeps.gr.trans (by decide)
  have hgpu := infoValue_eq (by decide) hgpuIndices (by decide)
  have hgr := infoValue_eq (by decide) hgrIndices (by decide)
  constructor
  · intro h
    refine ⟨(succeeded_iff _).mp h.v1, h.v1_full, (succeeded_iff _).mp h.v2, h.v2_count, h.v2_full,
      (succeeded_iff _).mp h.gpu, ?_, ?_, (succeeded_iff _).mp h.gr, ?_, ?_, ?_⟩
    · rw [hgpu.2.2.1]
      exact congrArg some h.cmp_sku
    · rw [hgpu.2.2.2]
      exact congrArg some h.display
    · rw [hgr.1]
      exact congrArg some h.gpu_cores
    · rw [hgr.2.1]
      exact congrArg some h.rt_cores
    · rw [hgr.2.2.1]
      exact congrArg some h.tensor_cores
  · intro h
    exact ⟨(succeeded_iff _).mpr h.v1, (succeeded_iff _).mpr h.v2, h.v1_full, h.v2_count, h.v2_full,
      (succeeded_iff _).mpr h.gpu, Option.some.inj (hgpu.2.2.1.symm.trans h.cmp_sku),
      Option.some.inj (hgpu.2.2.2.symm.trans h.display_enabled), (succeeded_iff _).mpr h.gr,
      Option.some.inj (hgr.1.symm.trans h.gpu_cores), Option.some.inj (hgr.2.1.symm.trans h.rt_cores),
      Option.some.inj (hgr.2.2.1.symm.trans h.tensor_cores)⟩

/-! ## The verdict -/

theorem Answers.answered (answers : Answers) (fd : Fd) (client subdevice : NvHandle) :
    Answered answers.Step (fun _ _ => True) (fun _ => True) fd client subdevice answers :=
  fun _ _ _ => ⟨trivial, fun _ _ hstep => ⟨hstep, trivial⟩⟩

/-- Answers to all calls. -/
def Answers.run (answers : Answers) : (o : RmOp) → Unit → o.Ans × Unit
  | .control _ _ _ c, s => (answers c, s)
  | .openFile _, s => (.ok 0, s)
  | .close _, s | .eprintf _ _, s => (⟨⟩, s)
  | .registerFd _ _, s => (none, s)
  | .cardInfo _, s => (.ok (Vector.replicate 128 ⟨0, 0, 0, 0, 0, 0, 0⟩), s)
  | .allocClient _, s | .allocDevice _ _ _, s | .allocSubdevice _ _ _ _, s => (⟨none, 0, 0⟩, s)

theorem Answers.step_run (answers : Answers) (o : RmOp) (s : Unit) :
    answers.Step o s (answers.run o s).1 (answers.run o s).2 := by
  cases o with
  | control => rfl
  | _ => trivial

/-- Every run of `run_probe` prints one text, which decodes to the report. -/
theorem exec_runProbe_iff (answers : Answers) (fd : Fd) (client subdevice : NvHandle) (deviceIndex : Int) :
    ∃ text, Json.loads text = some (reportJson deviceIndex (controlsOf answers)) ∧
      ∀ r s', (runProbe fd client subdevice deviceIndex).Exec answers.Step () r s' ↔
      r = some (probeStatus answers, text) := by
  obtain ⟨text, hloads, hprobe⟩ := runProbe_text answers deviceIndex
  have hwp := hprobe (answers.answered fd client subdevice) (s := ()) trivial
  refine ⟨text, hloads, fun r s' => ⟨fun he => (hwp.exec he).1, ?_⟩⟩
  rintro rfl
  have he := Prog.exec_interp id answers.step_run (runProbe fd client subdevice deviceIndex) ()
  rwa [(hwp.exec he).1] at he

theorem verdict_iff (answers : Answers) (hkeeps : answers.KeepsIndices) (fd : Fd) (client subdevice : NvHandle)
    (deviceIndex : Int) : ∃ text, (∀ r s', (runProbe fd client subdevice deviceIndex).Exec answers.Step () r s' ↔
      r = some (probeStatus answers, text)) ∧
      (verify text = .ok passed ↔ answers.Passes) := by
  obtain ⟨text, hloads, hexec⟩ := exec_runProbe_iff answers fd client subdevice deviceIndex
  refine ⟨text, hexec, ?_⟩
  rw [verify_iff hloads, checkReport_succeeds deviceIndex (controlsOf_named answers), passes_iff hkeeps]

/-- The answers of an unlocked card. -/
def unlockedCard : Answers
  | .idInfo _ => ⟨none, 0, ⟨0, 0⟩⟩
  | .issueRate => ⟨none, 0, ⟨0, 0, 0, 0, 0, 0, 0, 0, 0⟩⟩
  | .issueRateV2 => ⟨none, 0, ⟨8, Vector.replicate _ ⟨0, 0⟩⟩⟩
  | .gpuInfo request => ⟨none, 0, ⟨4, request.list.set 2 ⟨0x3c, 1⟩⟩⟩
  | .grInfo _ => ⟨none, 0, #v[⟨0x1d, 3584⟩, ⟨0x22, 56⟩, ⟨0x23, 448⟩, ⟨0x34, 0⟩]⟩
  | .falcons => ⟨none, 0, ⟨0, Vector.replicate _ ⟨0, 0, 0, 0, 0⟩⟩⟩
  | .engines => ⟨none, 0, ⟨0, Vector.replicate _ 0⟩⟩
  | .contextProperties _ => ⟨none, 0, ⟨0, 0, 0⟩⟩
  | .deviceInfo => ⟨none, 0, ⟨0, 0, 0, Vector.replicate _ ⟨Vector.replicate _ 0, 0, Vector.replicate _ 0⟩⟩⟩
  | .classList _ => ⟨none, 0, ⟨0, Vector.replicate _ 0⟩⟩

theorem verdict_sample : ∃ text, (runProbe 3 1 2 0).Exec unlockedCard.Step () (some (0, text)) () ∧
    verify text = .ok passed := by
  have hkeeps : unlockedCard.KeepsIndices := ⟨by decide, by decide⟩
  obtain ⟨text, hexec, hverdict⟩ := verdict_iff unlockedCard hkeeps 3 1 2 0
  refine ⟨text, (hexec _ ()).mpr rfl, hverdict.mpr ?_⟩
  exact ⟨⟨rfl, rfl⟩, by decide, ⟨rfl, rfl⟩, rfl, by decide, ⟨rfl, rfl⟩, by decide, by decide, ⟨rfl, rfl⟩, by decide,
    by decide, by decide⟩

/-! ## The report -/

/-- Whatever RM answers, `run_probe` reads no array outside its bounds and prints one text: a JSON object in which no
key stands twice, and which lists what RM returned. -/
theorem report_faithful (answers : Answers) (fd : Fd) (client subdevice : NvHandle) (deviceIndex : Int) :
    ∃ text members, (∀ r s', (runProbe fd client subdevice deviceIndex).Exec answers.Step () r s' ↔
      r = some (probeStatus answers, text)) ∧
      Json.Text text.toList (.obj members) ∧ Json.loads text = some (.obj members) ∧ Json.Distinct (.obj members) ∧
      Faithful answers (.obj members) := by
  obtain ⟨text, hloads, hexec⟩ := exec_runProbe_iff answers fd client subdevice deviceIndex
  exact ⟨text, _, hexec, Json.text_of_loads hloads, hloads, distinct_reportJson deviceIndex (controlsOf_named answers),
    reportJson_faithful answers deviceIndex⟩

/-! ## The GPU that is probed -/

/-- Answers to all calls: the files open, and every object is allocated as 10. -/
def CardAnswers.run (answers : CardAnswers) (o : RmOp) (log : List RmEvent) : o.Ans × List RmEvent :=
  match o with
  | .cardInfo fd => (answers.cards, ⟨.cardInfo fd, answers.cards⟩ :: log)
  | .control fd client object (.idInfo gpuId) =>
      (answers.lookup gpuId, ⟨.control fd client object (.idInfo gpuId), answers.lookup gpuId⟩ :: log)
  | .control fd client object c => (unlockedCard c, ⟨.control fd client object c, unlockedCard c⟩ :: log)
  | .openFile path => (.ok 0, ⟨.openFile path, .ok 0⟩ :: log)
  | .close fd => (⟨⟩, ⟨.close fd, ⟨⟩⟩ :: log)
  | .eprintf text error => (⟨⟩, ⟨.eprintf text error, ⟨⟩⟩ :: log)
  | .registerFd fd fd' => (none, ⟨.registerFd fd fd', none⟩ :: log)
  | .allocClient fd => (⟨none, 0, 10⟩, ⟨.allocClient fd, ⟨none, 0, 10⟩⟩ :: log)
  | .allocDevice fd client i => (⟨none, 0, 10⟩, ⟨.allocDevice fd client i, ⟨none, 0, 10⟩⟩ :: log)
  | .allocSubdevice fd client device i => (⟨none, 0, 10⟩, ⟨.allocSubdevice fd client device i, ⟨none, 0, 10⟩⟩ :: log)

theorem CardAnswers.step_run (answers : CardAnswers) (o : RmOp) (log : List RmEvent) :
    answers.Step o log (answers.run o log).1 (answers.run o log).2 := by
  cases o with
  | cardInfo fd => exact ⟨rfl, rfl⟩
  | control fd client object c =>
      cases c with
      | idInfo gpuId => exact ⟨rfl, rfl⟩
      | _ => exact ⟨rfl, trivial⟩
  | _ => exact ⟨rfl, trivial⟩

/-- For every table of cards and every answer to the lookups: a minor is resolved exactly if the lookup of the first
valid entry with it succeeds, to the instances of that GPU, and the variables are left alone otherwise. `main` allocates
only with the instances of the GPU that its argument stands for, and sends its controls only to that GPU. -/
theorem minor_resolution (answers : CardAnswers) :
    (∀ fd client minor instances log,
      (∃ r log', (resolveDeviceInstances fd client minor instances).Exec answers.Step log r log') ∧
      ∀ r log', (resolveDeviceInstances fd client minor instances).Exec answers.Step log r log' →
        answers.Resolution minor instances r) ∧
    ∀ args o log, (main args).Issued answers.Step [] o log → (∃ text, o = .eprintf text none) ∨
      ∃ minor, args.map parseDeviceIndex = [some minor] ∧ 0 ≤ minor ∧ minor ≤ 127 ∧ answers.Directed minor log o := by
  refine ⟨fun fd client minor instances log => ⟨?_, fun r log' hexec => ?_⟩, fun args o log hissued => ?_⟩
  · exact ⟨_, _, Prog.exec_interp id answers.step_run (resolveDeviceInstances fd client minor instances) log⟩
  · exact (resolveDeviceInstances_wp.exec hexec).1
  · rcases main_wp.issued hissued with hmessage | ⟨minor, hargs, hdirected⟩
    · exact .inl hmessage
    · obtain ⟨text, -, hparse⟩ :=
        List.mem_map.mp (show some minor ∈ args.map parseDeviceIndex by rw [hargs]; exact .head _)
      obtain ⟨hlo, hhi⟩ := parseDeviceIndex_bounds hparse
      exact .inr ⟨minor, hargs, hlo, hhi, hdirected⟩

end Cmp50Unlock.Verify
