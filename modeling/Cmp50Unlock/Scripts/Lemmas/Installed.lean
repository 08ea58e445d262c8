import Cmp50Unlock.IdleGovernor.Decode
import Cmp50Unlock.IdleGovernor.Run
import Cmp50Unlock.Scripts.Lemmas.GovernorProfile

/-!
# The daemon accepts what is installed
-/

namespace Cmp50Unlock.Scripts

open Lib
open Lib.Json (PlainText feeds_word feeds_delimiter)
open IdleGovernor

/-! ## The document -/

/-- The members of the document for a profile. -/
def controlMembers (profile : String) : List (List Char × Json) :=
  [("enabled".toList, .bool true), ("profile".toList, .str profile.toList), ("idle_fan_percent".toList, .int 0)]

theorem controlDocument_eq (profile : List Char) : controlDocument profile =
    "\x7b\"enabled\":true,\"profile\":\"" ++ String.ofList profile ++ "\",\"idle_fan_percent\":0\x7d\n" := rfl

theorem loads_controlDocument {profile : String} (h : PlainText profile) :
    Json.loads (controlDocument profile.toList) = some (.obj (controlMembers profile)) := by
  have hleft : "\x7b\"enabled\":true,\"profile\":\"" = String.join ["\x7b\"enabled\":", "true", ",\"profile\":\""] := by
    simp
  have hright : "\",\"idle_fan_percent\":0\x7d\n" = String.join ["\",\"idle_fan_percent\":", "0", "\x7d\n"] := by simp
  have hbefore : Feeds Json.step Json.start ["\x7b\"enabled\":", "true", ",\"profile\":\""]
      ⟨.string .value [] .none, [.obj [("enabled".toList, .bool true)] "profile".toList]⟩ :=
    .lit rfl (feeds_word (Json.word_bool true) (feeds_delimiter (Json.word_bool true) rfl rfl rfl rfl))
  have hafter : Feeds Json.step
      ⟨.string .value profile.toList .none, [.obj [("enabled".toList, .bool true)] "profile".toList]⟩
      ["\",\"idle_fan_percent\":", "0", "\x7d\n"] ⟨.after (.obj (controlMembers profile)), []⟩ :=
    .lit rfl (feeds_word (Json.word_nat 0) (feeds_delimiter (Json.word_nat 0) rfl rfl rfl rfl))
  have hfeed : feed Json.step Json.start (controlDocument profile.toList) =
      some ⟨.after (.obj (controlMembers profile)), []⟩ := by
    rw [controlDocument_eq, String.ofList_toList, feed_append, feed_append, hleft, feed_join hbefore, Option.bind_some,
      feed, Json.foldlM_plain .value [] (List.all_eq_true.mp h), Option.bind_some, List.nil_append,
      hright, feed_join hafter]
  rw [Json.loads, hfeed]
  rfl

/-- The request in the document for a profile. -/
theorem decodeDocument_controlMembers (profile : String) :
    decodeDocument (.obj (controlMembers profile)) = some ⟨true, profile, 0⟩ := by
  have henabled : ∀ c v, decodeMember c ("enabled".toList, v) = decodeEnabled c v := fun _ _ => rfl
  have hprofile : ∀ c v, decodeMember c ("profile".toList, v) = decodeProfile c v := fun _ _ => rfl
  have hfan : ∀ c v, decodeMember c ("idle_fan_percent".toList, v) = decodeIdleFanPercent c v := fun _ _ => rfl
  simp [decodeDocument, controlMembers, henabled, hprofile, hfan, decodeEnabled, decodeProfile, decodeIdleFanPercent,
    -String.reduceToList]

/-! ## The profiles -/

/-- The numbers of cards that the script accepts are those of the daemon's profiles. -/
theorem lookup_profileName : ∀ n ∈ [1, 2, 4, 6, 8], profiles.lookup (profileName n) = some n := by decide

theorem plain_profileName : ∀ n ∈ [1, 2, 4, 6, 8], PlainText (profileName n) := by decide

theorem size_profileName : ∀ n ∈ [1, 2, 4, 6, 8], (profileName n).utf8ByteSize = 12 := by decide

theorem size_controlDocument (profile : String) :
    (bytesOf (controlDocument profile.toList)).length = 27 + profile.utf8ByteSize + 24 := by
  have hleft : "\x7b\"enabled\":true,\"profile\":\"".utf8ByteSize = 27 := by decide
  have hright : "\",\"idle_fan_percent\":0\x7d\n".utf8ByteSize = 24 := by decide
  rw [length_bytesOf, controlDocument_eq, String.utf8ByteSize_append, String.utf8ByteSize_append, String.ofList_toList,
    hleft, hright]

/-- The document of a profile holds the request for it. -/
theorem holds_controlDocument {n : Nat} (hn : n ∈ [1, 2, 4, 6, 8]) :
    Holds (controlDocument (profileName n).toList) ⟨true, profileName n, 0⟩ where
  size := by
    rw [size_controlDocument, size_profileName n hn]
    decide
  document := ⟨_, loads_controlDocument (plain_profileName n hn), decodeDocument_controlMembers (profileName n)⟩

theorem acceptControl_profileName {n : Nat} (hn : n ∈ [1, 2, 4, 6, 8]) :
    acceptControl ⟨true, profileName n, 0⟩ = .ok ⟨true, profileName n, 0⟩ := by
  simp [acceptControl, lookup_profileName n hn]

theorem substitution_profileName :
    ∀ n ∈ [1, 2, 4, 6, 8], substitution (profileName n ++ "\n") = (profileName n).toList := by
  decide

/-! ## The cards of the daemon -/

/-- A number in hexadecimal. -/
def hexNumber (digits : List Char) : Option Nat :=
  (digits.mapM Json.hexValue).map fun values => values.foldl (fun n d => 16 * n + d) 0

/-- What the daemon has for a card of the inventory: the same identities, as numbers. -/
structure IsCard (sysfs : Sysfs) (gpu : GPU) (f : PciFunction) : Prop where
  device : ∃ digits, f.device = "10de:".toList ++ digits ∧ hexNumber digits = some gpu.deviceID.toNat
  vendor : ∃ digits, f.read sysfs "subsystem_vendor" = some ("0x".toList ++ digits) ∧
    hexNumber digits = some (gpu.subsystemID &&& 0xffff).toNat
  subsystem : ∃ digits, f.read sysfs "subsystem_device" = some ("0x".toList ++ digits) ∧
    hexNumber digits = some (gpu.subsystemID >>> 16).toNat

/-- The daemon finds the cards of an inventory, in any order, with contiguous indices and 20 GB each. -/
structure Finds (sysfs : Sysfs) (inventory : String) (gpus : List GPU) : Prop where
  cards : ∃ functions, functions.Perm (displays inventory) ∧ List.Forall₂ (IsCard sysfs) gpus functions
  indices : gpus.map GPU.index = (List.range gpus.length).map Int.ofNat
  memory : ∀ gpu ∈ gpus, gib20 - gib20Tolerance ≤ gpu.memoryBytes ∧ gpu.memoryBytes ≤ gib20 + gib20Tolerance

variable {sysfs : Sysfs} {f : PciFunction} {gpu : GPU} {inventory : String}

/-- A number after a fixed beginning of the word. -/
theorem eq_ofNat_of_word {beginning number digits : List Char} {x : BitVec 32} {n : Nat}
    (hword : beginning ++ number = beginning ++ digits) (hdigits : hexNumber digits = some x.toNat)
    (hnumber : hexNumber number = some n) : x = BitVec.ofNat 32 n := by
  rw [List.append_cancel_left hword, hdigits] at hnumber
  cases hnumber
  simp

/-- The numbers of a supported card. -/
theorem IsCard.numbers (h : IsCard sysfs gpu f) (hf : f.Supported sysfs) :
    gpu.deviceID = 0x1e09 ∧ ((gpu.subsystemID &&& 0xffff = 0x10de ∧ gpu.subsystemID >>> 16 = 0x1554) ∨
      (gpu.subsystemID &&& 0xffff = 0x1462 ∧ gpu.subsystemID >>> 16 = 0x371f)) := by
  obtain ⟨device, hdevice, hdeviceID⟩ := h.device
  obtain ⟨vendor, hvendor, hvendorID⟩ := h.vendor
  obtain ⟨subsystem, hsubsystem, hsubsystemID⟩ := h.subsystem
  obtain ⟨vendor', subsystem', hvendor', hsubsystem', hmem⟩ := hf.subsystem
  have hdeviceWord : "10de:".toList ++ "1e09".toList = "10de:".toList ++ device := hf.device.symm.trans hdevice
  have hvendorWord : vendor' = "0x".toList ++ vendor := Option.some.inj (hvendor'.symm.trans hvendor)
  have hsubsystemWord : subsystem' = "0x".toList ++ subsystem := Option.some.inj (hsubsystem'.symm.trans hsubsystem)
  constructor
  · exact eq_ofNat_of_word hdeviceWord hdeviceID (by decide)
  · simp only [subsystems, List.mem_cons, List.not_mem_nil, or_false, Prod.mk.injEq] at hmem
    rcases hmem with ⟨rfl, rfl⟩ | ⟨rfl, rfl⟩
    · have hten : "0x".toList ++ "10de".toList = "0x".toList ++ vendor := hvendorWord
      have hcard : "0x".toList ++ "1554".toList = "0x".toList ++ subsystem := hsubsystemWord
      exact .inl ⟨eq_ofNat_of_word hten hvendorID (by decide), eq_ofNat_of_word hcard hsubsystemID (by decide)⟩
    · have hten : "0x".toList ++ "1462".toList = "0x".toList ++ vendor := hvendorWord
      have hcard : "0x".toList ++ "371f".toList = "0x".toList ++ subsystem := hsubsystemWord
      exact .inr ⟨eq_ofNat_of_word hten hvendorID (by decide), eq_ofNat_of_word hcard hsubsystemID (by decide)⟩

theorem validateGPU_eq_none (h : IsCard sysfs gpu f) (hf : f.Supported sysfs) {index : Nat} (hindex : gpu.index = index)
    (hmemory : gib20 - gib20Tolerance ≤ gpu.memoryBytes ∧ gpu.memoryBytes ≤ gib20 + gib20Tolerance) :
    validateGPU index gpu = none := by
  obtain ⟨hdevice, hsubsystem⟩ := h.numbers hf
  have hrange : ¬(gpu.memoryBytes < gib20 - gib20Tolerance ∨ gpu.memoryBytes > gib20 + gib20Tolerance) := by
    rw [not_or, BitVec.not_lt, BitVec.not_lt]
    exact hmemory
  simp only [validateGPU]
  rw [if_neg (not_not.mpr hindex), if_neg (not_not.mpr hdevice), if_neg (not_not.mpr hsubsystem), if_neg hrange]

theorem Finds.length_eq {gpus : List GPU} (h : Finds sysfs inventory gpus) :
    gpus.length = (displays inventory).length := by
  obtain ⟨functions, hperm, hcards⟩ := h.cards
  exact hcards.length_eq.trans hperm.length_eq

/-- The card at a position of the daemon's list. -/
theorem Finds.at {gpus : List GPU} (h : Finds sysfs inventory gpus) {i : Nat} (hi : i < gpus.length) :
    gpus[i].index = i ∧ ∃ f ∈ displays inventory, IsCard sysfs gpus[i] f := by
  obtain ⟨functions, hperm, hcards⟩ := h.cards
  constructor
  · have hindex : (gpus.map GPU.index)[i]? = ((List.range gpus.length).map Int.ofNat)[i]? := by rw [h.indices]
    simpa [hi] using hindex
  · have hi' : i < functions.length := hcards.length_eq ▸ hi
    exact ⟨functions.get ⟨i, hi'⟩, hperm.mem_iff.mp (List.get_mem ..), hcards.get hi hi'⟩

/-- The daemon accepts the request on the host that it was made for. -/
theorem validate_eq_none {c : Config} (hq : Qualifies sysfs inventory) (h : Finds sysfs inventory c.gpus) :
    validate c ⟨true, profileName (displays inventory).length, 0⟩ = none := by
  have hcount : Control.count ⟨true, profileName (displays inventory).length, 0⟩ = c.gpus.length := by
    rw [Control.count, lookup_profileName _ hq.count, Option.getD_some, h.length_eq]
  rw [validate, hcount, if_neg (Nat.lt_irrefl _), List.take_length, List.findSome?_eq_none_iff]
  rintro ⟨gpu, i⟩ hmem
  obtain ⟨hi, hgpu⟩ := List.mem_zipIdx' hmem
  obtain ⟨hindex, f, hf, hcard⟩ := h.at hi
  rw [hgpu]
  exact validateGPU_eq_none hcard (hq.supported f hf) hindex (h.memory _ (List.getElem_mem hi))

/-! ## There is such a daemon -/

/-- The identities of a supported card are those of some GPU. -/
theorem exists_isCard (hf : f.Supported sysfs) :
    ∃ subsystemID, ∀ index, IsCard sysfs ⟨index, 0x1e09, subsystemID, gib20⟩ f := by
  obtain ⟨vendor, subsystem, hvendor, hsubsystem, hmem⟩ := hf.subsystem
  have hdevice : ∃ digits, f.device = "10de:".toList ++ digits ∧ hexNumber digits = some (0x1e09 : BitVec 32).toNat :=
    ⟨"1e09".toList, hf.device, by decide⟩
  simp only [subsystems, List.mem_cons, List.not_mem_nil, or_false, Prod.mk.injEq] at hmem
  rcases hmem with ⟨rfl, rfl⟩ | ⟨rfl, rfl⟩
  · have hvendorID : hexNumber "10de".toList = some ((0x155410de : BitVec 32) &&& 0xffff).toNat := by decide
    have hsubsystemID : hexNumber "1554".toList = some ((0x155410de : BitVec 32) >>> 16).toNat := by decide
    exact ⟨0x155410de, fun _ => ⟨hdevice, ⟨_, hvendor, hvendorID⟩, _, hsubsystem, hsubsystemID⟩⟩
  · have hvendorID : hexNumber "1462".toList = some ((0x371f1462 : BitVec 32) &&& 0xffff).toNat := by decide
    have hsubsystemID : hexNumber "371f".toList = some ((0x371f1462 : BitVec 32) >>> 16).toNat := by decide
    exact ⟨0x371f1462, fun _ => ⟨hdevice, ⟨_, hvendor, hvendorID⟩, _, hsubsystem, hsubsystemID⟩⟩

theorem exists_gpus {functions : List PciFunction} (h : ∀ f ∈ functions, f.Supported sysfs) (start : Nat) :
    ∃ gpus : List GPU, List.Forall₂ (IsCard sysfs) gpus functions ∧
      gpus.map GPU.index = (List.range' start functions.length).map Int.ofNat ∧
      ∀ gpu ∈ gpus, gpu.memoryBytes = gib20 := by
  induction functions generalizing start with
  | nil => exact ⟨[], .nil, rfl, fun _ h => by cases h⟩
  | cons f functions ih =>
      obtain ⟨hf, hrest⟩ := List.forall_mem_cons.mp h
      obtain ⟨subsystemID, hcard⟩ := exists_isCard hf
      obtain ⟨gpus, hcards, hindices, hmemory⟩ := ih hrest (start + 1)
      exact ⟨⟨start, 0x1e09, subsystemID, gib20⟩ :: gpus, .cons (hcard start) hcards,
        by simp [hindices, List.range'_succ], List.forall_mem_cons.mpr ⟨rfl, hmemory⟩⟩

theorem exists_finds (hq : Qualifies sysfs inventory) : ∃ gpus, Finds sysfs inventory gpus := by
  obtain ⟨gpus, hcards, hindices, hmemory⟩ := exists_gpus hq.supported 0
  refine ⟨gpus, ⟨_, .refl _, hcards⟩, ?_, fun gpu hgpu => ?_⟩
  · rw [hindices, hcards.length_eq, List.range_eq_range']
  · rw [hmemory gpu hgpu]
    decide

end Cmp50Unlock.Scripts
