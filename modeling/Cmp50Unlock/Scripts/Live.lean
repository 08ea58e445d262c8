import Cmp50Unlock.Scripts.Lemmas.Host

/-!
# The live verification covers the right cards

It passes the index of a card to a probe that takes a minor, and so it covers the right cards where these are the same.
-/

namespace Cmp50Unlock.Scripts

open Lib
open Verify (HostRm Answers CardAnswers Instances IsReport)

/-! ## Hosts whose minors are the indices -/

section

variable {host : Host} {readings : Readings} {m : Machine} {g : Gpu}

theorem passes_of_result (h : readings.On host m) (hminors : ∀ g ∈ host.cmps, g.minor = g.index)
    (hresult : (verifyLive m).result = .ok ⟨⟩) : Passes host readings m := by
  obtain ⟨hstarts, hcards, hmemory, hservice⟩ := result_verifyLive.mp hresult
  rw [gpuIndices_eq h, List.forall_mem_map] at hcards
  have hgen2 : ∀ henabled : m.isEnabled, _ := fun henabled => result_checkGen2.mp (hservice henabled)
  refine ⟨fun hnil => hstarts.listed ?_, fun g hg => ?_, (enough_iff h h.memory).mp hmemory,
    fun henabled => (hgen2 henabled).1,
    fun henabled => (enough_iff h h.bar1).mp (hgen2 henabled).2.1, fun henabled => ?_⟩
  · rw [gpuIndices_eq h, hnil, List.map_nil]
  · rw [← accepts_minor h (mem_gpus_of_mem_cmps hg), hminors g hg]
    exact hcards g hg
  · obtain ⟨k, hk, hspeeds⟩ := gen2_of_waitForGen2 (hgen2 henabled).2.2
    exact ⟨0 + k, by omega, (gen2At_iff h).mp hspeeds⟩

theorem result_of_passes (h : readings.On host m) (hminors : ∀ g ∈ host.cmps, g.minor = g.index) (hready : m.Ready)
    (hpasses : Passes host readings m) : (verifyLive m).result = .ok ⟨⟩ := by
  have hlisted : m.gpuIndices ≠ [] := by
    rw [gpuIndices_eq h]
    exact fun hnil => hpasses.listed (List.map_eq_nil_iff.mp hnil)
  refine result_verifyLive.mpr ⟨⟨hlisted, hready.table, hready.artifact, hready.temporary⟩, ?_,
    (enough_iff h h.memory).mpr hpasses.memory, fun henabled => ?_⟩
  · rw [gpuIndices_eq h, List.forall_mem_map]
    intro g hg
    rw [← hminors g hg]
    exact (accepts_minor h (mem_gpus_of_mem_cmps hg)).mpr (hpasses.rm g hg)
  · obtain ⟨k, hk, hspeeds⟩ := hpasses.gen2 henabled
    refine result_checkGen2.mpr ⟨hpasses.active henabled, (enough_iff h h.bar1).mpr (hpasses.bar1 henabled), ?_⟩
    refine waitForGen2_of_gen2 (readsSpeeds h) hready.sleep hk ?_
    rw [Nat.zero_add]
    exact (gen2At_iff h).mpr hspeeds

theorem covers_of_minors (h : readings.On host m) (hminors : ∀ g ∈ host.cmps, g.minor = g.index) :
    Covers host readings m where
  checked index report hevent := by
    obtain ⟨hindex, hprobe⟩ := check_mem_verifyLive hevent
    rw [gpuIndices_eq h] at hindex
    obtain ⟨g, hg, rfl⟩ := List.mem_map.mp hindex
    rw [← hminors g hg] at hprobe
    exact ⟨g, hg, rfl, probe_minor h (mem_gpus_of_mem_cmps hg) hprobe⟩
  passedRm index hevent := by
    obtain ⟨-, haccepts, before, after, hindices, -⟩ := passRm_mem_verifyLive.mp hevent
    have hindex : index ∈ m.gpuIndices := by simp [hindices]
    rw [gpuIndices_eq h] at hindex
    obtain ⟨g, hg, rfl⟩ := List.mem_map.mp hindex
    rw [← hminors g hg] at haccepts
    exact ⟨g, hg, rfl, (accepts_minor h (mem_gpus_of_mem_cmps hg)).mp haccepts⟩
  passedLive count hevent := passes_of_result h hminors (passLive_mem_verifyLive.mp hevent).1
  passes hready hpasses := by
    have hlength : m.gpuIndices.length = host.cmps.length := by rw [gpuIndices_eq h, List.length_map]
    exact passLive_mem_verifyLive.mpr ⟨result_of_passes h hminors hready hpasses, by rw [hlength]⟩
  succeeds := passes_of_result h hminors

end

/-! ## Hosts where a minor is not the index

The instances of their RM are the minors, and only the GPU with the minor `locked` is locked.
-/

def unlockedAnswers : Answers
  | .idInfo gpuId => ⟨none, 0, ⟨gpuId, 0⟩⟩
  | c => Verify.unlockedCard c

def lockedAnswers : Answers
  | .issueRate => ⟨none, 0, ⟨1, 1, 1, 1, 1, 1, 1, 1, 1⟩⟩
  | c => unlockedAnswers c

theorem unlockedAnswers_keepsIndices : unlockedAnswers.KeepsIndices := ⟨by decide, by decide⟩

theorem lockedAnswers_keepsIndices : lockedAnswers.KeepsIndices := ⟨by decide, by decide⟩

theorem unlockedAnswers_passes : unlockedAnswers.Passes :=
  ⟨⟨rfl, rfl⟩, by decide, ⟨rfl, rfl⟩, rfl, by decide, ⟨rfl, rfl⟩, by decide, by decide, ⟨rfl, rfl⟩, by decide,
    by decide, by decide⟩

theorem lockedAnswers_fails : ¬lockedAnswers.Passes := fun h => absurd h.v1_full (by decide)

/-- The entry of a minor in the table of cards. -/
def Host.card (host : Host) (minor : Fin 128) : Verify.CardInfo :=
  ⟨if minor.val ∈ host.gpus.map Gpu.minor then 1 else 0, 0, 0, 0, 0, BitVec.ofNat 32 minor, BitVec.ofNat 32 minor⟩

def Host.rm (host : Host) (locked : Option Nat) : HostRm where
  cards := .ok (Vector.ofFn host.card)
  lookup gpuId := ⟨none, 0, ⟨gpuId, 0⟩⟩
  gpu instances := if locked = some instances.device.toNat then lockedAnswers else unlockedAnswers

def instancesOf (minor : Nat) : Instances := ⟨BitVec.ofNat 32 minor, 0⟩

def Host.readings (host : Host) (locked : Option Nat) : Readings where
  rm := host.rm locked
  answers g := (host.rm locked).gpu (instancesOf g.minor)
  memory _ := 20480
  bar1 _ := 16384
  speed _ _ := gen2Speed.toList

/-- The line of `lspci -Dn` for a card. -/
def Gpu.pciLine (g : Gpu) : List Char := g.bdf ++ " 0300: 10de:1e09".toList

/-- The service is not enabled. -/
def Host.machine (host : Host) (locked : Option Nat) : Machine where
  uname := .ok ""
  gpuLines := host.gpus.map Gpu.line
  gpuTable := .ok ""
  findProbe _ := .ok "rm-issue-rate"
  isExecutable _ := true
  mktemp := .ok "probe.json"
  probe argument := (host.rm locked).run (Verify.main [String.ofList argument])
  memoryTotals _ := host.cmps.map fun _ => ⟨"20480", some 20480⟩
  isEnabled := false
  isActive := false
  pciLines := host.cmps.map Gpu.pciLine
  bar1Totals _ := host.cmps.map fun _ => ⟨"16384", some 16384⟩
  linkSpeed _ _ := some (gen2Speed ++ "\n")
  sleep := .ok ⟨⟩

variable {host : Host} {g : Gpu} {locked : Option Nat} {minor : Nat} {instances : Instances}

theorem byDevice : (host.rm locked).ByDevice where
  device _ _ := rfl
  lookup i gpuId := by
    change (if _ then lockedAnswers else unlockedAnswers) _ = _
    split
    · rfl
    · rfl

theorem selected_rm {minor : Int} : (host.rm locked).selected minor =
    (List.ofFn host.card).find? fun card => CardAnswers.Matches minor card := by
  rw [CardAnswers.selected, ← Vector.toList_ofFn]
  rfl

theorem card_matches_iff {k : Fin 128} (hlt : minor < 128) :
    CardAnswers.Matches minor (host.card k) ↔ minor ∈ host.gpus.map Gpu.minor ∧ k.val = minor := by
  have hminor : BitVec.ofNat 32 k.val = BitVec.ofInt 32 minor ↔ k.val = minor := by
    rw [BitVec.ofInt_natCast, ← BitVec.toNat_inj, BitVec.toNat_ofNat, BitVec.toNat_ofNat]
    omega
  have hvalid : (if k.val ∈ host.gpus.map Gpu.minor then (1 : Verify.NvU8) else 0) ≠ 0 ↔
      k.val ∈ host.gpus.map Gpu.minor := by
    split
    next hmem => exact iff_of_true (by decide) hmem
    next hmem => exact iff_of_false (by decide) hmem
  rw [CardAnswers.Matches, Host.card, hvalid, hminor]
  constructor
  · rintro ⟨hmem, rfl⟩
    exact ⟨hmem, rfl⟩
  · rintro ⟨hmem, rfl⟩
    exact ⟨hmem, rfl⟩

theorem eq_card_of_selected {card : Verify.CardInfo} (hlt : minor < 128)
    (hcard : (host.rm locked).selected minor = some card) :
    minor ∈ host.gpus.map Gpu.minor ∧ card = host.card ⟨minor, hlt⟩ := by
  rw [selected_rm] at hcard
  obtain ⟨k, rfl⟩ := List.mem_ofFn.mp (List.mem_of_find?_eq_some hcard)
  have hmatches := List.find?_some hcard
  obtain ⟨hmem, rfl⟩ := (card_matches_iff hlt).mp (of_decide_eq_true hmatches)
  exact ⟨hmem, rfl⟩

/-- The minors of the GPUs resolve, and no others. -/
theorem rm_resolves_iff (hlt : minor < 128) : (host.rm locked).Resolves minor instances ↔
    minor ∈ host.gpus.map Gpu.minor ∧ instances = instancesOf minor := by
  constructor
  · rintro ⟨card, hcard, -, rfl⟩
    obtain ⟨hmem, rfl⟩ := eq_card_of_selected hlt hcard
    exact ⟨hmem, rfl⟩
  · rintro ⟨hmem, rfl⟩
    have hmatches : CardAnswers.Matches minor (host.card ⟨minor, hlt⟩) := (card_matches_iff hlt).mpr ⟨hmem, rfl⟩
    have hsome : ((host.rm locked).selected minor).isSome := by
      rw [selected_rm, List.find?_isSome]
      exact ⟨host.card ⟨minor, hlt⟩, List.mem_ofFn.mpr ⟨_, rfl⟩, decide_eq_true hmatches⟩
    obtain ⟨card, hcard⟩ := Option.isSome_iff_exists.mp hsome
    obtain ⟨-, rfl⟩ := eq_card_of_selected hlt hcard
    exact ⟨_, hcard, ⟨rfl, rfl⟩, rfl⟩

theorem word_address : word g.pciLine = (g.bdf, " 0300: 10de:1e09".toList) := by
  have htrim : g.pciLine.dropWhile isIfs = g.pciLine := by
    rw [Gpu.pciLine]
    cases hbdf : g.bdf with
    | nil => exact absurd hbdf g.address.1
    | cons c bdf =>
        have hc := g.address.2 c (by simp [hbdf])
        rw [List.cons_append, List.dropWhile_cons_of_neg (by simp [hc])]
  have hall : ∀ c ∈ g.bdf, (!isIfs c) = true := fun c hc => by simp [g.address.2 c hc]
  rw [word, htrim, List.span_eq_takeWhile_dropWhile, Gpu.pciLine, List.takeWhile_append_of_pos hall,
    List.dropWhile_append_of_pos hall]
  simp [isIfs]

theorem readFunction_pciLine : readFunction g.pciLine = ⟨g.bdf, "0300:".toList, "10de:1e09".toList⟩ := by
  rw [readFunction, word_address]
  rfl

theorem cmpBdfs_machine : (host.machine locked).cmpBdfs = host.cmps.map Gpu.bdf := by
  change (((host.cmps.map Gpu.pciLine).map readFunction).filter fun f => f.device = "10de:1e09".toList).map
    PciFunction.bdf = _
  induction host.cmps with
  | nil => rfl
  | cons g cmps ih =>
      have hdevice : decide ((⟨g.bdf, "0300:".toList, "10de:1e09".toList⟩ : PciFunction).device =
          "10de:1e09".toList) = true := decide_eq_true rfl
      rw [List.map_cons, List.map_cons, readFunction_pciLine, List.filter_cons, if_pos hdevice, List.map_cons, ih,
        List.map_cons]

theorem readings_on : (host.readings locked).On host (host.machine locked) where
  lines := rfl
  gpus minor hlt instances hresolves := by
    obtain ⟨hmem, rfl⟩ := (rm_resolves_iff hlt).mp hresolves
    obtain ⟨g, hg, rfl⟩ := List.mem_map.mp hmem
    exact ⟨g, hg, rfl, rfl⟩
  indices g _ := by
    change Answers.KeepsIndices (if _ then lockedAnswers else unlockedAnswers)
    split
    · exact lockedAnswers_keepsIndices
    · exact unlockedAnswers_keepsIndices
  probe argument := Verify.exec_run byDevice _
  memory := by simp [Host.machine, Host.readings]
  bar1 := by simp [Host.machine, Host.readings]
  bdfs := by rw [cmpBdfs_machine]
  speed round g _ := by
    have hspeed : (some (gen2Speed ++ "\n")).bind readLine = some gen2Speed.toList := by decide
    exact hspeed

/-! ### What the script says of them -/

theorem artifactProbe_machine {release : String} :
    (host.machine locked).artifactProbe release = .ok "rm-issue-rate" := by
  have hfound : (if "rm-issue-rate" = "" then (Except.ok "rm-issue-rate" : Except Nat String)
    else .ok "rm-issue-rate") =
      .ok "rm-issue-rate" := ite_self _
  exact hfound

theorem machine_ready : (host.machine locked).Ready where
  table := ⟨_, rfl⟩
  artifact := ⟨"", _, rfl, artifactProbe_machine, rfl⟩
  temporary := ⟨_, rfl⟩
  sleep := rfl

theorem machine_starts (hcmps : host.cmps ≠ []) : (host.machine locked).Starts where
  listed := by
    rw [gpuIndices_eq readings_on]
    exact fun hnil => hcmps (List.map_eq_nil_iff.mp hnil)
  table := machine_ready.table
  artifact := machine_ready.artifact
  temporary := machine_ready.temporary

theorem answers_eq (hg : g ∈ host.gpus) : (host.readings locked).answers g =
    if locked = some g.minor then lockedAnswers else unlockedAnswers := by
  have hminor : (instancesOf g.minor).device.toNat = g.minor := by
    have hlt := host.minors_lt g hg
    rw [instancesOf, BitVec.toNat_ofNat]
    omega
  change (if locked = some (instancesOf g.minor).device.toNat then lockedAnswers else unlockedAnswers) = _
  rw [hminor]

theorem probeStatus_rm {instances : Instances} : Verify.probeStatus ((host.rm locked).gpu instances) = 0 := by
  change Verify.probeStatus (if _ then lockedAnswers else unlockedAnswers) = 0
  split
  · rfl
  · rfl

theorem probe_machine {argument : List Char} :
    (host.machine locked).probe argument = (host.rm locked).run (Verify.main [String.ofList argument]) := by
  rw [Host.machine]

/-- The probe of every GPU succeeds. -/
theorem probe_succeeds (hg : g ∈ host.gpus) :
    ∃ report, (host.machine locked).probe (digits g.minor) = some (0, report) := by
  have hlt := host.minors_lt g hg
  have hresolves : (host.rm locked).Resolves g.minor (instancesOf g.minor) :=
    (rm_resolves_iff hlt).mpr ⟨List.mem_map_of_mem hg, rfl⟩
  have hargs : [String.ofList (digits g.minor)].map Verify.parseDeviceIndex = [some (g.minor : Int)] := by
    rw [List.map_singleton, parseDeviceIndex_digits.mpr ⟨hlt, rfl⟩]
  obtain ⟨text, hrun, -⟩ := Verify.run_main byDevice hresolves hargs
  rw [probeStatus_rm] at hrun
  refine ⟨text, ?_⟩
  rw [probe_machine, hrun]

theorem passesRm_iff (hg : g ∈ host.gpus) :
    PassesRm (host.readings locked) (host.machine locked) g ↔ locked ≠ some g.minor := by
  rw [PassesRm, answers_eq hg]
  split
  next hlocked => simp [hlocked, lockedAnswers_fails]
  next hlocked => simp [hlocked, probe_succeeds hg, unlockedAnswers_passes]

/-- The first card whose minor is not its index. -/
theorem exists_first (h : ¬∀ g ∈ host.cmps, g.minor = g.index) : ∃ before g after, host.cmps = before ++ g :: after ∧
    g.minor ≠ g.index ∧ ∀ b ∈ before, b.minor = b.index := by
  have hsome : (host.cmps.find? fun g => g.minor ≠ g.index).isSome := by
    rw [List.find?_isSome]
    simpa using h
  obtain ⟨g, hg⟩ := Option.isSome_iff_exists.mp hsome
  obtain ⟨hne, before, after, hcmps, hbefore⟩ := List.find?_eq_some_iff_append.mp hg
  exact ⟨before, g, after, hcmps, by simpa using hne, fun b hb => by simpa using hbefore b hb⟩

/-- The index of the card is the minor of another GPU. Where the card is locked, it is reported to pass. -/
theorem not_covers_of_other {g' : Gpu} {before after : List Gpu} (hcmps : host.cmps = before ++ g :: after)
    (hne : g.minor ≠ g.index) (hbefore : ∀ b ∈ before, b.minor = b.index) (hg' : g' ∈ host.gpus)
    (hminor : g'.minor = g.index) :
    ¬Covers host (host.readings (some g.minor)) (host.machine (some g.minor)) := by
  intro hcovers
  have hcmp : ∀ b ∈ before ++ g :: after, b ∈ host.cmps := fun b hb => by rwa [hcmps]
  have hgpu : ∀ b ∈ before ++ g :: after, b ∈ host.gpus := fun b hb => mem_gpus_of_mem_cmps (hcmp b hb)
  have hg : g ∈ before ++ g :: after := List.mem_append_right _ (.head _)
  have haccepts : ∀ b ∈ host.gpus, b.minor ≠ g.minor → (host.machine (some g.minor)).Accepts (digits b.minor) := by
    intro b hb hother
    rw [accepts_minor readings_on hb, passesRm_iff hb]
    exact fun heq => hother (Option.some.inj heq).symm
  have hevent : .line (passRmLine (digits g.index)) ∈ (verifyLive (host.machine (some g.minor))).events := by
    have hindices : (host.machine (some g.minor)).gpuIndices =
        before.map (fun b => digits b.index) ++ digits g.index :: after.map fun b => digits b.index := by
      rw [gpuIndices_eq readings_on, hcmps, List.map_append, List.map_cons]
    refine passRm_mem_verifyLive.mpr ⟨machine_starts (by simp [hcmps]), ?_, _, _, hindices, ?_⟩
    · rw [← hminor]
      exact haccepts g' hg' (by rwa [hminor, ne_comm])
    · rw [List.forall_mem_map]
      intro b hb
      rw [← hbefore b hb]
      refine haccepts b (hgpu b (List.mem_append_left _ hb)) fun heq => hne ?_
      rw [← eq_of_minor (hgpu b (List.mem_append_left _ hb)) (hgpu g hg) heq]
      exact hbefore b hb
  obtain ⟨g'', hg'', hindex, hpasses⟩ := hcovers.passedRm _ hevent
  have heq : g = g'' :=
    List.inj_on_of_nodup_map host.indices (hgpu g hg) (mem_gpus_of_mem_cmps hg'') (digits_injective hindex)
  rw [← heq, passesRm_iff (hgpu g hg)] at hpasses
  exact hpasses rfl

/-- The index of the card is no minor. All cards pass, and the script does not say so. -/
theorem not_covers_of_none (hg : g ∈ host.cmps) (hnone : ∀ g' ∈ host.gpus, g'.minor ≠ g.index) :
    ¬Covers host (host.readings none) (host.machine none) := by
  intro hcovers
  have hmemory : 9500 ≤ 20480 := by decide
  have hpasses : Passes host (host.readings none) (host.machine none) :=
    ⟨List.ne_nil_of_mem hg, fun g hg => (passesRm_iff (mem_gpus_of_mem_cmps hg)).mpr nofun, fun _ _ => hmemory, nofun,
      nofun, nofun⟩
  obtain ⟨hresult, -⟩ := passLive_mem_verifyLive.mp (hcovers.passes machine_ready hpasses)
  obtain ⟨-, haccepts, -⟩ := result_verifyLive.mp hresult
  rw [gpuIndices_eq readings_on, List.forall_mem_map] at haccepts
  obtain ⟨report, hprobe, -⟩ := haccepts g hg
  obtain ⟨g', hg', hminor, -⟩ := report_of_probe readings_on hprobe
  exact hnone g' hg' hminor

/-- On every host: whatever its GPUs answer and whatever their instances in RM are, the script checks the cards that it
names and tells the truth of them, if and only if the minors of the CMP 50HX cards are their indices. -/
theorem live_covers_iff (host : Host) :
    (∀ readings m, readings.On host m → Covers host readings m) ↔ ∀ g ∈ host.cmps, g.minor = g.index := by
  constructor
  · intro hcovers
    by_contra h
    obtain ⟨before, g, after, hcmps, hne, hbefore⟩ := exists_first h
    by_cases hother : ∃ g' ∈ host.gpus, g'.minor = g.index
    · obtain ⟨g', hg', hminor⟩ := hother
      exact not_covers_of_other hcmps hne hbefore hg' hminor (hcovers _ _ readings_on)
    · have hg : g ∈ host.cmps := by simp [hcmps]
      refine not_covers_of_none hg (fun g' hg' hminor => hother ⟨g', hg', hminor⟩) (hcovers _ _ readings_on)
  · intro hminors readings m h
    exact covers_of_minors h hminors

/-- The first of two cards, which has the minor 1. -/
def firstCard : Gpu where
  index := 0
  minor := 1
  deviceId := "1E0910DE".toList
  bdf := "0000:01:00.0".toList
  eight := rfl
  hexadecimal := List.all_eq_true.mp rfl
  address := ⟨nofun, fun c hc => Bool.eq_false_iff.mpr (List.any_eq_false.mp rfl c hc)⟩

/-- The second, which has the minor 0. -/
def secondCard : Gpu where
  index := 1
  minor := 0
  deviceId := "1E0910DE".toList
  bdf := "0000:02:00.0".toList
  eight := rfl
  hexadecimal := List.all_eq_true.mp rfl
  address := ⟨nofun, fun c hc => Bool.eq_false_iff.mpr (List.any_eq_false.mp rfl c hc)⟩

def swapped : Host where
  gpus := [firstCard, secondCard]
  indices := by decide
  minors := by decide
  minors_lt := by decide

/-- The first card is locked, and the line that it passes is printed. -/
theorem swapped_not_covered : (swapped.readings (some 1)).On swapped (swapped.machine (some 1)) ∧
    ¬Covers swapped (swapped.readings (some 1)) (swapped.machine (some 1)) := by
  have hcmps : swapped.cmps = [] ++ firstCard :: [secondCard] := by decide
  have hsecond : secondCard ∈ swapped.gpus := .tail _ (.head _)
  exact ⟨readings_on, not_covers_of_other hcmps (by decide) nofun hsecond rfl⟩

end Cmp50Unlock.Scripts
