import Cmp50Unlock.IdleGovernor.Bench
import Cmp50Unlock.IdleGovernor.Lemmas.Cleanup
import Cmp50Unlock.IdleGovernor.Lemmas.Debounce
import Cmp50Unlock.IdleGovernor.Lemmas.Fan
import Cmp50Unlock.IdleGovernor.Lemmas.Ordered
import Cmp50Unlock.IdleGovernor.Lemmas.Solo
import Cmp50Unlock.IdleGovernor.Lemmas.Status
import Mathlib.Data.List.Nodup

/-!
# Theorems about the idle governor

What holds in every run of the governor: the request that is followed, the state of the cards, and the holds that a
failing command may leave behind. The lemmas behind them are in `Lemmas/`.
-/

namespace Cmp50Unlock.IdleGovernor

open Lib

/-! ## A host with one card -/

/-- A CMP 50HX with 20 GB. -/
def sampleGPU : GPU := ⟨0, 0x1e09, 0x155410de, 20 * 1024 * 1024 * 1024⟩

/-- The first idle poll forces P8. -/
def sampleConfig : Config := ⟨[sampleGPU], ⟨1, 5, 55⟩, 0, 0, false, 0, false⟩

def sampleControl (idleFanPercent : Int) : Control := ⟨true, "cmp50-1x20gb", idleFanPercent⟩

def sampleCards (_ : Int) : Card := ⟨autoPState, .auto, .default, 0⟩

def sampleDir : Dir := fun _ => none

theorem sample_entries (i : Int) :
    i ∈ [(0 : Int)] ↔ ((start sampleConfig sampleCards sampleDir).gov.states i).isSome := by
  simp only [start, newGovernor, sampleConfig, sampleGPU]
  by_cases h : i = 0 <;> simp [h]

/-- The host with the card, whose card is idle at 40 C. -/
def sampleBench (wakes : List Wake) (requests : List (Option Control)) : Bench where
  world := start sampleConfig sampleCards sampleDir
  keys := [0]
  wakes := wakes
  requests := requests
  utilizations := []
  temperature := 40
  nodup := by decide
  entries := sample_entries

theorem sample_supported : SupportedIndex sampleConfig 0 := ⟨sampleGPU, .head [], rfl, by decide⟩

/-! ## The request that is followed -/

/-- Right after each look at the request, the governor is active just when the request it loaded is enabled, valid
and published, and then it follows that request. A GPU tick never activates it. Whenever it is active, it follows a
request that is enabled, was accepted by `LoadControl` and is valid. -/
theorem control_agreement (c : Config) (cards : Int → Card) (dir : Dir) :
    (∀ w w', ComesTo c anyAnswer cards dir .startup w → (startup c).Exec (Step anyAnswer) w () w' → Agreed c w w') ∧
    (∀ w w', ComesTo c anyAnswer cards dir .wait w →
      (controlTick c).Exec (Step anyAnswer) (w.next .select .controlTicker) () w' →
        Agreed c (w.next .select .controlTicker) w') ∧
    (∀ w w', ComesTo c anyAnswer cards dir .wait w →
      (gpuTick c).Exec (Step anyAnswer) (w.next .select .gpuTicker) () w' → w'.gov.active → w.gov.active) ∧
    (∀ l w, ComesTo c anyAnswer cards dir l w → w.gov.active → Governs c w.gov.control) ∧
    (∀ o w, Issues c anyAnswer cards dir o w → w.gov.active → Governs c w.gov.control) ∧
    (∀ w, Ends c anyAnswer cards dir w → w.gov.active → Governs c w.gov.control) := by
  refine ⟨fun w w' h he => ?_, fun w w' h he => ?_, fun w w' h he => ?_, fun l w h => ?_,
    fun o w h => ?_, fun w h => ?_⟩
  · have hinv := ComesTo.runInv h
    exact (startup_spec hinv.inv (hinv.inactive (by decide))).exec he
  · exact (controlTick_spec (w := w.next .select .controlTicker) (ComesTo.runInv h).inv).exec he
  · exact (gpuTick_spec (w := w.next .select .gpuTicker) (ComesTo.runInv h).inv).exec he
  · exact (ComesTo.runInv h).inv.governs
  · exact (Issues.inv h).governs
  · exact (Ends.inv h).governs

theorem control_agreement_sample : ∃ w, ComesTo sampleConfig anyAnswer sampleCards sampleDir .wait w ∧
    w.gov.active = true ∧ Governs sampleConfig w.gov.control := by
  obtain ⟨w, hw, hactive⟩ := Bench.comesTo (n := 2) (l := .wait) (Bench.permits_anyAnswer fun _ => false)
    (b := sampleBench [] [some (sampleControl 0)]) rfl (P := fun w => w.gov.active) rfl
  exact ⟨w, hw, hactive, (control_agreement sampleConfig sampleCards sampleDir).2.2.2.1 .wait w hw hactive⟩

/-! ## The cards that are addressed -/

/-- Every command goes to a supported card; P8 and a manual fan are for cards of the validated profile while it is
followed, the fan at 15 to 100 percent. Every card that `validate` admits is supported, and has an entry wherever it
is polled. -/
theorem board_gate (c : Config) (cards : Int → Card) (dir : Dir) (hnodup : (c.gpus.map GPU.index).Nodup) :
    (∀ cmd w, Issues c anyAnswer cards dir (.call cmd) w →
      (∃ gpu ∈ c.gpus, gpu.index = cmd.index ∧ gpu.Supported ∧
        ∀ gpu' ∈ c.gpus, gpu'.index = cmd.index → gpu' = gpu) ∧
      (∀ i, cmd = .setPState i 8 → w.gov.active ∧ i ∈ w.gov.control.indices ∧ validate c w.gov.control = none) ∧
      (∀ i percent, cmd = .setFan i percent → w.gov.active ∧ i ∈ w.gov.control.indices ∧
        validate c w.gov.control = none ∧ 15 ≤ percent.toNat ∧ percent.toNat ≤ 100)) ∧
    (∀ control i, validate c control = none → i ∈ control.indices → SupportedIndex c i ∧
      ∀ l w, ComesTo c anyAnswer cards dir l w → (w.gov.states i).isSome) ∧
    (∀ i w, Issues c anyAnswer cards dir (.utilization i) w ∨ Issues c anyAnswer cards dir (.temperature i) w →
      (w.gov.states i).isSome) := by
  refine ⟨fun cmd w h => ?_, fun control i hvalid hi => ?_, fun i w h => ?_⟩
  · have hgate := Issues.gate h
    have hsupported : SupportedIndex c cmd.index := by
      cases cmd with
      | setPState i pstate => exact hgate.1
      | setFan i percent => exact hgate.1.supported
      | _ => exact hgate
    refine ⟨?_, ?_, ?_⟩
    · obtain ⟨gpu, hmem, hindex, hs⟩ := hsupported
      exact ⟨gpu, hmem, hindex, hs, fun gpu' hmem' hindex' =>
        List.inj_on_of_nodup_map hnodup hmem' hmem (hindex'.trans hindex.symm)⟩
    · rintro i rfl
      have hadmitted := hgate.2 rfl
      exact ⟨hadmitted.active, hadmitted.index, hadmitted.governs.validated⟩
    · rintro i percent rfl
      obtain ⟨hadmitted, hpos, rfl⟩ := hgate
      exact ⟨hadmitted.active, hadmitted.index, hadmitted.governs.validated,
        fanPercent_range hadmitted.governs.loadable hpos⟩
  · have hsupported := validate_supported hvalid hi
    exact ⟨hsupported, fun l w h => ((ComesTo.runInv h).inv.domain i).mpr hsupported.mem⟩
  · rcases h with h | h
    · exact (Issues.gate h).entry
    · exact (Issues.gate h).entry

theorem board_gate_sample : ∃ w, Issues sampleConfig anyAnswer sampleCards sampleDir (.call (.setFan 0 30)) w ∧
    w.gov.active ∧ (0 : Int) ∈ w.gov.control.indices ∧ validate sampleConfig w.gov.control = none := by
  obtain ⟨w, hw, -⟩ := Bench.issues (n := 2) (Bench.permits_anyAnswer fun _ => false)
    (b := sampleBench [.gpuTicker] [some (sampleControl 30)]) rfl (.call (.setFan 0 30)) (P := fun _ => true)
    rfl
  have hgate := (board_gate sampleConfig sampleCards sampleDir (by decide)).1 (.setFan 0 30) w hw
  obtain ⟨hactive, hindex, hvalid, -⟩ := hgate.2.2 0 30 rfl
  exact ⟨w, hw, hactive, hindex, hvalid⟩

/-! ## The state of the cards -/

/-- When every setter succeeds: after the first `Cleanup` and between any two ticks, every supported card is set to
what the governor remembers of it, and after `Run` returned it is released. -/
theorem cards_described (c : Config) (cards : Int → Card) (dir : Dir) :
    (∀ l w, l ≠ .entry → ComesTo c settersSucceed cards dir l w → ∀ i, SupportedIndex c i →
      Described c w.gov.control (cards i).coreOffset (w.gov.state i) (w.cards i) ∧
      (c.hasCoreOffset = false → ∀ offset err, (.setCoreOffset i offset, err) ∉ callsOf i w.log) ∧
      ((w.gov.state i).manualFan → (w.gov.state i).lowPower) ∧
      ((w.gov.state i).lowPower → w.gov.active ∧ i ∈ w.gov.control.indices)) ∧
    (∀ w, Ends c settersSucceed cards dir w → ∀ i, SupportedIndex c i →
      Released c (cards i).coreOffset (w.cards i) ∧ (w.gov.state i).lowPower = false ∧
      (w.gov.state i).manualFan = false) := by
  refine ⟨fun l w hl h i hi => ?_, fun w h i hi => ?_⟩
  · have hinv := (ComesTo.runInv h).inv
    have huntouched := ComesTo.untouched h
    have hfits := fitsRule.comesTo h hl i hi
    exact ⟨hfits.described (hinv.fan i) fun hoff => huntouched.cards hoff i, fun hoff _ _ => huntouched.calls hoff,
      hinv.fan i, hinv.held i⟩
  · have hfree : ∀ hold : Hold, hold.flag (w.gov.state i) = false := Ends.free h hi
    have hlow : (w.gov.state i).lowPower = false := hfree .lowPower
    have hmanual : (w.gov.state i).manualFan = false := hfree .manualFan
    have hdescribed : Described c w.gov.control (cards i).coreOffset (w.gov.state i) (w.cards i) :=
      (fitsRule.ends h w.gov.control i hi).described (fun h => absurd (hmanual.symm.trans h) (by simp))
        fun hoff => (Ends.untouched h).cards hoff i
    refine ⟨?_, hlow, hmanual⟩
    rwa [Described, if_neg (ne_true_of_eq_false hlow)] at hdescribed

theorem cards_described_sample : ∃ w, ComesTo sampleConfig settersSucceed sampleCards sampleDir .wait w ∧
    (w.gov.state 0).manualFan = true ∧ Described sampleConfig w.gov.control 0 (w.gov.state 0) (w.cards 0) := by
  obtain ⟨w, hw, hmanual⟩ := Bench.comesTo (n := 3) (l := .wait) Bench.permits_settersSucceed
    (b := sampleBench [.gpuTicker] [some (sampleControl 30)]) rfl (P := fun w => (w.gov.state 0).manualFan)
    rfl
  have hdescribed := (cards_described sampleConfig sampleCards sampleDir).1 .wait w (by decide) hw 0 sample_supported
  exact ⟨w, hw, hmanual, hdescribed.1⟩

/-! ## Fans -/

/-- When every setter succeeds: a supported card whose fan is manual at the end of a GPU tick belongs to the profile,
was read idle and cool in this tick, is in P8, and its fan is at the percentage of the request. A card that was read
busy or hot, or whose readings failed or were not taken, ends the tick with an automatic fan. -/
theorem manual_fans_cool (c : Config) (cards : Int → Card) (dir : Dir) (w w' : World)
    (h : ComesTo c settersSucceed cards dir .wait w)
    (he : (gpuTick c).Exec (Step settersSucceed) (w.next .select .gpuTicker) () w') (i : Int)
    (hi : SupportedIndex c i) :
    (∀ percent, (w'.cards i).fan = .manual percent →
      w'.gov.active ∧ i ∈ w'.gov.control.indices ∧ (w'.cards i).pstate = 8 ∧
      (percent.toNat : Int) = w'.gov.control.idleFanPercent ∧ w'.gov.control.idleFanPercent ≠ 0 ∧
      ∃ u t, u ≤ c.options.utilThreshold ∧ t < c.options.fanAutoTemp ∧
        readingsOf i (w'.since (w.next .select .gpuTicker)) = [.temperature (.ok t), .utilization (.ok u)]) ∧
    ((∀ u t, u ≤ c.options.utilThreshold → t < c.options.fanAutoTemp →
        readingsOf i (w'.since (w.next .select .gpuTicker)) ≠ [.temperature (.ok t), .utilization (.ok u)]) →
      (w'.cards i).fan = .auto) := by
  have hmanual : ∀ percent, (w'.cards i).fan = .manual percent →
      w'.gov.active ∧ i ∈ w'.gov.control.indices ∧ (w'.cards i).pstate = 8 ∧
      (percent.toNat : Int) = w'.gov.control.idleFanPercent ∧ w'.gov.control.idleFanPercent ≠ 0 ∧
      ∃ u t, u ≤ c.options.utilThreshold ∧ t < c.options.fanAutoTemp ∧
        readingsOf i (w'.since (w.next .select .gpuTicker)) = [.temperature (.ok t), .utilization (.ok u)] := by
    intro percent hfan
    obtain ⟨hactive, hindex, hpstate, hpercent, hpos, u, t, hu, ht, hreadings⟩ := gpuTick_manual h he hi hfan
    exact ⟨hactive, hindex, hpstate, hpercent, hpos, u, t, BitVec.not_lt.mp hu, BitVec.not_le.mp ht, hreadings⟩
  refine ⟨hmanual, fun hreadings => ?_⟩
  cases hfan : (w'.cards i).fan with
  | auto => rfl
  | manual percent =>
      obtain ⟨-, -, -, -, -, u, t, hu, ht, hread⟩ := hmanual percent hfan
      exact absurd hread (hreadings u t hu ht)

theorem manual_fans_cool_sample : ∃ w w' : World, ComesTo sampleConfig settersSucceed sampleCards sampleDir .wait w ∧
    (w'.cards 0).fan = .manual 30 ∧ w'.gov.control.idleFanPercent = 30 ∧
    ∃ u t, u ≤ 5 ∧ t < 55 ∧
      readingsOf 0 (w'.since (w.next .select .gpuTicker)) = [.temperature (.ok t), .utilization (.ok u)] := by
  obtain ⟨w, w', hw, he, hfan⟩ := Bench.comesTo_gpuTick (n := 2) Bench.permits_settersSucceed
    (b := sampleBench [.gpuTicker] [some (sampleControl 30)]) rfl (P := fun w => (w.cards 0).fan == .manual 30)
    rfl
  have hmanual : (w'.cards 0).fan = .manual 30 := eq_of_beq hfan
  obtain ⟨-, -, -, hpercent, -, hreadings⟩ :=
    (manual_fans_cool sampleConfig sampleCards sampleDir w w' hw he 0 sample_supported).1 30 hmanual
  exact ⟨w, w', hw, hmanual, hpercent.symm, hreadings⟩

/-! ## Status files -/

/-- When the calls on the status files succeed: while `Run` waits, the files tell what the governor does, unless files
of an earlier process were there and the only look at the request found none. After `Run` returned, they tell that
nothing runs just when, besides, no request was followed in the end. -/
theorem status_told_iff (c : Config) (cards : Int → Card) (dir : Dir) :
    (∀ w, StatusComesTo c cards dir .wait w → (Told True w ↔ ¬ (Stale dir ∧ FoundNothing w.log))) ∧
    (∀ w, StatusEnds c cards dir w →
      (Told False w ↔ w.gov.active = false ∧ ¬ (Stale dir ∧ FoundNothing w.log))) := by
  refine ⟨fun w h => ?_, fun w h => ?_⟩
  · rw [told_iff (written_of_reaches h) (reported_of_reaches h) True]
    exact and_iff_right fun _ => trivial
  · obtain ⟨hwritten, hwaits⟩ := written_of_call h
    rw [told_iff hwritten hwaits False, Bool.eq_false_iff]

theorem status_told_sample : ∃ w, StatusComesTo sampleConfig sampleCards sampleDir .wait w ∧ w.gov.active = true ∧
    Told True w := by
  obtain ⟨w, hw, hactive⟩ := Bench.statusComesTo (n := 2) (l := .wait) (fun _ => false)
    (b := sampleBench [] [some (sampleControl 0)]) rfl (P := fun w => w.gov.active) rfl
  refine ⟨w, hw, hactive, ((status_told_iff sampleConfig sampleCards sampleDir).1 w hw).mpr fun h => ?_⟩
  exact h.1.elim (fun hprofile => hprofile rfl) fun hfan => hfan rfl

/-- An earlier process was killed while it followed a request. -/
def staleDir : Dir := sampleDir.set "active-profile" (some [])

/-- The panel has not asked for anything yet: the governor is not active, but the file of the earlier process is
still there. -/
theorem status_stale : ∃ w, StatusComesTo sampleConfig sampleCards staleDir .wait w ∧ w.gov.active = false ∧
    w.dir "active-profile" ≠ none ∧ ¬ Told True w := by
  obtain ⟨w, hw, hP⟩ := Bench.statusComesTo (n := 2) (l := .wait) (fun _ => false)
    (b := { sampleBench [] [] with world := start sampleConfig sampleCards staleDir })
    (show _ = start sampleConfig sampleCards staleDir from rfl) (P := fun w => !w.gov.active &&
      (w.dir "active-profile").isSome) rfl
  simp only [Bool.and_eq_true, Bool.not_eq_true', Option.isSome_iff_ne_none] at hP
  refine ⟨w, hw, hP.1, hP.2, fun htold => ?_⟩
  have hactive := (htold.profile.mp hP.2).2
  rw [hP.1] at hactive
  cases hactive

/-! ## Idle polls -/

/-- P8 is forced by a poll that reads the card idle. It completes `IdleAfter` idle polls of the current activation just
when the row it completes did not begin before that activation. While `Run` waits, the counter of a supported card is
the length of its row. -/
theorem idle_debounce (c : Config) (cards : Int → Card) (dir : Dir) (hafter : 0 < c.options.idleAfter) :
    (∀ i w, Issues c anyAnswer cards dir (.call (.setPState i 8)) w →
      PolledNow c i w.log ∧ (Debounced c i w.log ↔ ¬ CarriedOver c i w.log)) ∧
    (∀ w, ComesTo c anyAnswer cards dir .wait w → ∀ i, SupportedIndex c i →
      (w.gov.state i).idlePolls = pollsSince (endsRow c i) i w.log) := by
  refine ⟨fun i w h => ?_, fun w h i hi => (ComesTo.countInv hafter h).counted i hi⟩
  obtain ⟨hcount, hreached, hpolled⟩ := Issues.due hafter h rfl
  refine ⟨hpolled, ?_⟩
  rw [Debounced, carriedOver_iff, ← hreached, hcount, Nat.not_lt, Int.ofNat_le]

/-- The second idle poll forces P8. -/
def slowConfig : Config := { sampleConfig with options := ⟨2, 5, 55⟩ }

theorem idle_debounce_sample : ∃ w, Issues slowConfig anyAnswer sampleCards sampleDir (.call (.setPState 0 8)) w ∧
    pollsSince (endsRow slowConfig 0) 0 w.log = 2 ∧
    (Debounced slowConfig 0 w.log ↔ ¬ CarriedOver slowConfig 0 w.log) := by
  obtain ⟨w, hw, hcount⟩ := Bench.issues (c := slowConfig) (n := 3) (Bench.permits_anyAnswer fun _ => false)
    (b := sampleBench [.gpuTicker, .gpuTicker] [some (sampleControl 0)]) rfl (.call (.setPState 0 8))
    (P := fun w => pollsSince (endsRow slowConfig 0) 0 w.log == 2) rfl
  exact ⟨w, hw, eq_of_beq hcount, ((idle_debounce slowConfig sampleCards sampleDir (by decide)).1 0 w hw).2⟩

/-- The request is changed between two idle polls: the second one is the first of its activation, and forces P8. -/
theorem idle_carried_over : ∃ w, Issues slowConfig anyAnswer sampleCards sampleDir (.call (.setPState 0 8)) w ∧
    ¬ Debounced slowConfig 0 w.log := by
  obtain ⟨w, hw, hcount⟩ := Bench.issues (c := slowConfig) (n := 4) (Bench.permits_anyAnswer fun _ => false)
    (b := sampleBench [.gpuTicker, .controlTicker, .gpuTicker] [some (sampleControl 0), some (sampleControl 30)]) rfl
    (.call (.setPState 0 8)) (P := fun w => pollsSince (fun e => endsRow slowConfig 0 e || switches e) 0 w.log == 1)
    rfl
  refine ⟨w, hw, ?_⟩
  rw [Debounced, eq_of_beq hcount]
  decide

/-! ## One card and the others -/

/-- Two runs in which no call of the hardware fails, with the same outcomes so far, and the same readings of the cards
of `S`: while they wait and after they returned, the commands to each card of `S` and what is remembered of it are the
same, whatever the other cards read and in whatever order the map is iterated. If all cards show the same, all of
them are set to the same. -/
theorem cards_independent (c : Config) (S : Int → Prop) (ρ : Int → Nat → Readings) (cards cards' : Int → Card)
    (dir dir' : Dir) :
    (∀ w w', ShownComesTo c S ρ cards dir .wait w → ShownComesTo c S ρ cards' dir' .wait w' →
      outcomes w.log = outcomes w'.log → ∀ i, S i →
        callsOf i w.log = callsOf i w'.log ∧ w.gov.state i = w'.gov.state i) ∧
    (∀ w w', ShownEnds c S ρ cards dir w → ShownEnds c S ρ cards' dir' w' → outcomes w.log = outcomes w'.log →
      ∀ i, S i → callsOf i w.log = callsOf i w'.log ∧ w.gov.state i = w'.gov.state i) ∧
    (cards = cards' → (∀ i, S i) →
      (∀ w w', ShownComesTo c S ρ cards dir .wait w → ShownComesTo c S ρ cards' dir' .wait w' →
        outcomes w.log = outcomes w'.log → w.cards = w'.cards) ∧
      (∀ w w', ShownEnds c S ρ cards dir w → ShownEnds c S ρ cards' dir' w' → outcomes w.log = outcomes w'.log →
        w.cards = w'.cards)) := by
  have hwait : ∀ w w', ShownComesTo c S ρ cards dir .wait w → ShownComesTo c S ρ cards' dir' .wait w' →
      outcomes w.log = outcomes w'.log → ∀ i, S i → w.solo i = w'.solo i := by
    intro w w' h h' houts i hi
    rw [(soloInv_of_reaches hi h).solo (by decide), (soloInv_of_reaches hi h').solo (by decide), houts]
  have hends : ∀ w w', ShownEnds c S ρ cards dir w → ShownEnds c S ρ cards' dir' w' →
      outcomes w.log = outcomes w'.log → ∀ i, S i → w.solo i = w'.solo i := by
    intro w w' h h' houts i hi
    obtain ⟨older, holder, hsolo⟩ := solo_of_ends hi h
    obtain ⟨older', holder', hsolo'⟩ := solo_of_ends hi h'
    obtain rfl := (List.cons.inj (holder.symm.trans (houts.trans holder'))).2
    rw [hsolo, hsolo']
  refine ⟨fun w w' h h' houts i hi => ?_, fun w w' h h' houts i hi => ?_, ?_⟩
  · have hsolo := hwait w w' h h' houts i hi
    exact ⟨congrArg Solo.calls hsolo, congrArg Solo.state hsolo⟩
  · have hsolo := hends w w' h h' houts i hi
    exact ⟨congrArg Solo.calls hsolo, congrArg Solo.state hsolo⟩
  · rintro rfl hall
    refine ⟨fun w w' h h' houts => funext fun i => ?_, fun w w' h h' houts => funext fun i => ?_⟩
    · have hcalls : callsOf i w.log = callsOf i w'.log := congrArg Solo.calls (hwait w w' h h' houts i (hall i))
      rw [replay_of_reaches h, replay_of_reaches h', hcalls]
    · have hcalls : callsOf i w.log = callsOf i w'.log := congrArg Solo.calls (hends w w' h h' houts i (hall i))
      rw [replay_of_ends h, replay_of_ends h', hcalls]

/-- Two cards, and the first idle poll forces P8. -/
def pairConfig : Config := { sampleConfig with gpus := [sampleGPU, { sampleGPU with index := 1 }] }

def pairControl (idleFanPercent : Int) : Control := ⟨true, "cmp50-2x20gb", idleFanPercent⟩

theorem pair_entries (i : Int) :
    i ∈ [(0 : Int), 1] ↔ ((start pairConfig sampleCards sampleDir).gov.states i).isSome := by
  simp only [start, newGovernor, pairConfig, sampleGPU]
  by_cases h : i = 0 ∨ i = 1 <;> simp [h]

/-- The host with two idle cards, and a map that is iterated in the order of `keys`. -/
def pairBench (keys : List Int) (hperm : keys.Perm [0, 1]) : Bench where
  world := start pairConfig sampleCards sampleDir
  keys := keys
  wakes := [.gpuTicker, .controlTicker]
  requests := [some (pairControl 30), some (pairControl 0)]
  utilizations := []
  temperature := 40
  nodup := hperm.nodup_iff.mpr (by decide)
  entries i := hperm.mem_iff.trans (pair_entries i)

/-- The outcomes of its first two ticks. -/
def pairOutcomes : List Outcome := [.publish none, .look (.ok (pairControl 0)), .wake .controlTicker, .wake .gpuTicker,
  .publish none, .look (.ok (pairControl 30))]

theorem pair_comesTo (keys : List Int) (hperm : keys.Perm [0, 1]) {P : World → Bool}
    (h : (Goto.jump (Prog.checked (Bench.run fun _ => false) (Bench.shows ⟨0, 40⟩)) (run pairConfig) 4 .entry
      (pairBench keys hperm, true)).any fun x =>
        x.1 == .wait && x.2.2 && (outcomes x.2.1.world.log == pairOutcomes && P x.2.1.world)) :
    ∃ w, ShownComesTo pairConfig (fun _ => True) (fun _ _ => ⟨0, 40⟩) sampleCards sampleDir .wait w ∧
      outcomes w.log = pairOutcomes ∧ P w := by
  obtain ⟨w, hw, hP⟩ := Bench.shownComesTo (b := pairBench keys hperm)
    (P := fun w => outcomes w.log == pairOutcomes && P w) rfl h
  rw [Bool.and_eq_true] at hP
  exact ⟨w, hw, eq_of_beq hP.1, hP.2⟩

/-- The event is an iteration over the map in this order. -/
def iterates (keys : List Int) : Event → Bool
  | ⟨.rangeStates, keys'⟩ => keys' == keys
  | _ => false

/-- When the request changes, both cards are released, in either order. -/
theorem cards_independent_sample : ∃ w w' : World, w.log.any (iterates [0, 1]) ∧ w'.log.any (iterates [1, 0]) ∧
    (.setFanAuto 1, none) ∈ callsOf 1 w.log ∧ callsOf 1 w.log = callsOf 1 w'.log ∧ w.cards = w'.cards := by
  obtain ⟨w, hw, houts, hP⟩ := pair_comesTo [0, 1] (.refl _) (P := fun w => w.log.any (iterates [0, 1]) &&
    (callsOf 1 w.log).contains (.setFanAuto 1, none)) (by rfl)
  obtain ⟨w', hw', houts', hP'⟩ := pair_comesTo [1, 0] (by decide) (P := fun w => w.log.any (iterates [1, 0]))
    (by rfl)
  rw [Bool.and_eq_true, List.contains_iff_mem] at hP
  have hboth := cards_independent pairConfig (fun _ => True) (fun _ _ =>
    ⟨0, 40⟩) sampleCards sampleCards sampleDir sampleDir
  exact ⟨w, w', hP.1, hP', hP.2, (hboth.1 w w' hw hw' (houts.trans houts'.symm) 1 trivial).1,
    (hboth.2.2 rfl fun _ => trivial).1 w w' hw hw' (houts.trans houts'.symm)⟩

/-! ## Lost releases -/

/-- Between two ticks, every hold of a supported card shows in its flags just when no release was lost; and a poll
that finds a card busy and returns no error leaves it without a hold just when no release of it was lost before. -/
theorem holds_recorded_iff (c : Config) (cards : Int → Card) (dir : Dir) :
    (∀ l w, l ≠ .entry → ComesTo c anyAnswer cards dir l w →
      ((∀ i, SupportedIndex c i → ∀ h : Hold, h.held (callsOf i w.log) → h.flag (w.gov.state i)) ↔
        ∀ i, SupportedIndex c i → ∀ h : Hold, ¬ h.Lost (callsOf i w.log))) ∧
    (∀ w w' i u, ComesTo c anyAnswer cards dir .wait w → w.gov.active → i ∈ w.gov.control.indices →
      (poll c).Exec (Step anyAnswer) w.polling none w' → ⟨.utilization i, .ok u⟩ ∈ w'.since w.polling →
      u > c.options.utilThreshold →
      ((∀ h : Hold, h.held (callsOf i w'.log) = false) ↔ ∀ h : Hold, ¬ h.Lost (callsOf i w.log))) := by
  refine ⟨fun l w hl h => ?_, fun w w' i u h hactive hi he hread hu => ?_⟩
  · have hrecorded := recordedRule.comesTo h hl
    refine forall_congr' fun i => forall_congr' fun hi => forall_congr' fun hold => ?_
    have hflag : hold.flag (w.gov.state i) = hold.recorded (callsOf i w.log) := hrecorded i hi hold
    rw [hflag, Hold.lost_iff, not_and, Bool.not_eq_false]
  · have hinv := (ComesTo.runInv h).inv
    have hsupported := validate_supported (hinv.governs hactive).validated hi
    have hstate : (w.polling.view i).state.isSome := (hinv.domain i).mpr hsupported.mem
    obtain ⟨ρ, hview, hreadings⟩ := poll_card (w := w.polling) hstate hi he
    obtain ⟨new, hlog, -⟩ := within_log poll_uses he
    have hmem := mem_readingsOf hread
    rw [readings_since ⟨new, hlog⟩ hreadings] at hmem
    obtain rfl := pollReadings_utilization hmem
    have hrecorded : Recorded w.gov.control (w.polling.view i) := recordedRule.comesTo h (by decide) i hsupported
    have hbusy : ∀ hold : Hold, hold.held (w'.view i).calls = true ↔ hold.Lost (callsOf i w.log) := by
      rw [hview]
      exact busy_held_iff hrecorded (hinv.fan i) (@pollStep_polled c w.gov.control i _ ρ) hu
    refine forall_congr' fun hold => ?_
    rw [← Bool.not_eq_true]
    exact not_congr (hbusy hold)

/-- A card refuses P16 when its profile is applied again: it stays in P8, and no flag says so. -/
theorem release_lost : ∃ w, ComesTo sampleConfig anyAnswer sampleCards sampleDir .wait w ∧
    SupportedIndex sampleConfig 0 ∧ Hold.lowPower.held (callsOf 0 w.log) = true ∧ (w.cards 0).pstate = 8 ∧
    Hold.lowPower.flag (w.gov.state 0) = false := by
  obtain ⟨w, hw, hP⟩ := Bench.comesTo (n := 4) (l := .wait)
    (Bench.permits_anyAnswer fun cmd => cmd = .setPState 0 autoPState)
    (b := sampleBench [.gpuTicker, .controlTicker] [some (sampleControl 0), some (sampleControl 30)]) rfl
    (P := fun w => Hold.lowPower.held (callsOf 0 w.log) && (w.cards 0).pstate == 8 &&
      !Hold.lowPower.flag (w.gov.state 0)) rfl
  simp only [Bool.and_eq_true, beq_iff_eq, Bool.not_eq_true'] at hP
  exact ⟨w, hw, sample_supported, hP.1.1, hP.1.2, hP.2⟩

/-! ## Cleanup -/

/-- `Cleanup`, from any memory and any state of the cards, and whichever calls fail: it attempts the whole release of
every supported card in the order of the list, commands no other card, and clears the entries of just the supported
cards. Every command that succeeds is in effect in the end, so a card whose own commands succeed is released; a second
`Cleanup` whose commands succeed changes nothing of it, nor of the memory. -/
theorem cleanup_isolates (c : Config) (w w' : World) (r : Option GoError)
    (he : (cleanup c).Exec (Step anyAnswer) w r w') :
    ∃ calls : Calls, commands w'.log = calls.reverse ++ commands w.log ∧
      calls.map Prod.fst = (c.gpus.filter fun gpu => gpu.Supported).flatMap
        (fun gpu => releaseCalls c gpu.index true) ∧
      (r = none ↔ ∀ x ∈ calls, x.2 = none) ∧
      (∀ x ∈ calls, ∃ gpu ∈ c.gpus, gpu.index = x.1.index ∧ gpu.Supported ∧
        ((c.gpus.map GPU.index).Nodup → ∀ gpu' ∈ c.gpus, gpu'.index = x.1.index → gpu' = gpu)) ∧
      (∀ i, SupportedIndex c i → w'.gov.states i = (w.gov.states i).map fun _ => .zero) ∧
      (∀ i, ¬ SupportedIndex c i → w'.gov.states i = w.gov.states i ∧ w'.cards i = w.cards i) ∧
      w'.gov.control = w.gov.control ∧ w'.gov.active = w.gov.active ∧ w'.dir = w.dir ∧
      (∀ cmd, (cmd, none) ∈ calls → (w'.cards cmd.index).Settled cmd) ∧
      (∀ i, SupportedIndex c i → (∀ x ∈ calls, x.1.index = i → x.2 = none) →
        Released c (w.cards i).coreOffset (w'.cards i)) ∧
      ∀ r' w'', (cleanup c).Exec (Step settersSucceed) w' r' w'' → r' = none ∧ w''.gov = w'.gov ∧ w''.dir = w'.dir ∧
        ∀ i, (∀ x ∈ calls, x.1.index = i → x.2 = none) → w''.cards i = w'.cards i := by
  obtain ⟨calls, hcalls, hr, hcmd, hclear⟩ := cleanup_commands.exec he
  refine ⟨calls, hcmd.commands, hcalls.cmds, hr.trans (and_iff_right rfl), ?_, hclear.cleared, ?_, hclear.control,
    hclear.active, hcmd.dir, fun cmd hmem => settled_of_commanded hcalls hcmd hmem,
    fun i hi hsucceed => released_of_commanded hcalls hcmd hi hsucceed, ?_⟩
  · intro x hx
    obtain ⟨gpu, hmem, hindex, hs⟩ := covers_of_mem hcalls hx
    refine ⟨gpu, hmem, hindex, hs, fun hnodup gpu' hmem' hindex' => ?_⟩
    exact List.inj_on_of_nodup_map hnodup hmem' hmem (hindex'.trans hindex.symm)
  · intro i hi
    refine ⟨hclear.kept i hi, hcmd.keeps fun x hx hindex => hi ?_⟩
    exact hindex ▸ covers_of_mem hcalls hx
  · intro r' w'' he'
    obtain ⟨calls', hcalls', hr', hcmd', hclear'⟩ := cleanup_commands.exec he'
    have hsucceed : AllSucceed calls' := fun x hx => hcalls'.answers x hx
    refine ⟨hr'.2 ⟨rfl, hsucceed⟩, hclear.again hclear', hcmd'.dir, fun i hown => ?_⟩
    have hany : Attempts anyAnswer (cleanupCalls c c.gpus) calls' := ⟨hcalls'.cmds, fun _ _ => trivial⟩
    rw [hcmd'.cards]
    exact applyCalls_again hcalls hcmd hany hown

/-- The host on which an earlier process was killed while the card was in P8 with a manual fan. -/
def killedBench : Bench :=
  { sampleBench [] [] with world := start sampleConfig (fun _ => ⟨8, .manual 30, .default, 0⟩) sampleDir }

/-- The card refuses to leave P8: its fan is automatic all the same. -/
theorem cleanup_isolates_sample : ∃ w w' r, (cleanup sampleConfig).Exec (Step anyAnswer) w r w' ∧
    (w.cards 0).fan = .manual 30 ∧ r ≠ none ∧ (w'.cards 0).fan = .auto := by
  have he := Prog.exec_interp Bench.world
    (Bench.run_step (Bench.permits_anyAnswer fun cmd => cmd = .setPState 0 autoPState))
    (cleanup sampleConfig) killedBench
  obtain ⟨calls, hcommands, -, -, -, -, -, -, -, -, hsettled, -⟩ := cleanup_isolates sampleConfig _ _ _ he
  have hmem : (.setFanAuto 0, none) ∈ calls := by
    rw [← List.mem_reverse, ← List.append_nil calls.reverse]
    exact hcommands ▸ List.contains_iff_mem.1 rfl
  exact ⟨_, _, _, he, rfl, by decide, hsettled _ hmem⟩

/-! ## Holds at any time -/

/-- In front of every operation of every run, whichever commands fail: a card that is kept in P8 is in P8 with reset
clocks and no offset, and a card whose fan is kept manual is kept in P8. -/
theorem holds_safe {c : Config} {cards : Int → Card} {dir : Dir} {o : Op} {w : World}
    (h : Issues c anyAnswer cards dir o w) (i : Int) :
    (Hold.lowPower.Kept (callsOf i w.log) → (w.cards i).pstate = 8 ∧ (w.cards i).Bare c) ∧
      (Hold.manualFan.Kept (callsOf i w.log) → Hold.lowPower.Kept (callsOf i w.log)) := by
  have hsafe := (Issues.ordered h).2 i
  rw [Hold.kept_iff, Hold.kept_iff]
  exact ⟨hsafe.lowPower, hsafe.manualFan⟩

/-- The card with clocks and an offset for load. -/
def loadConfig : Config := ⟨[sampleGPU], ⟨1, 5, 55⟩, 1500, 1700, true, 150, true⟩

/-- The card is busy after an idle poll. -/
def busyBench : Bench :=
  { sampleBench [.gpuTicker, .gpuTicker] [some (sampleControl 30)] with
    world := start loadConfig sampleCards sampleDir
    utilizations := [0, 90]
    entries := sample_entries }

/-- In the middle of a release, the fan has been given back and the card is still in P8. -/
theorem holds_safe_sample : ∃ w, Issues loadConfig anyAnswer sampleCards sampleDir (.call (.setPState 0 autoPState)) w ∧
    (w.cards 0).fan = .auto ∧ (w.cards 0).pstate = 8 ∧ (w.cards 0).Bare loadConfig := by
  obtain ⟨w, hw, hP⟩ :=
    Bench.issues (c := loadConfig) (n := 3) (Bench.permits_anyAnswer fun _ => false) (b := busyBench) rfl
    (.call (.setPState 0 autoPState))
    (P := fun w => Hold.lowPower.recorded (callsOf 0 w.log) && (w.cards 0).fan == .auto) rfl
  rw [Bool.and_eq_true, beq_iff_eq] at hP
  exact ⟨w, hw, hP.2, (holds_safe hw 0).1 (Hold.lowPower.kept_iff.mpr hP.1)⟩

end Cmp50Unlock.IdleGovernor
