import Cmp50Unlock.IdleGovernor.Service
import Cmp50Unlock.Install.Governor.Answer
import Cmp50Unlock.Install.Governor.Lemmas.Runs
import Cmp50Unlock.Scripts.Theorems

/-!
# Theorems on the governor's installer

The runs of `install-governor.sh` are those of `Installs`: any command may fail, a signal may end the script at any of
them, and the panel may write requests at any time.
-/

namespace Cmp50Unlock.Install.Governor

open Lib
open IdleGovernor (RequestStep loadControl validate Accepts serviceFlags settings new trimSpace env envInt_unset)
open Scripts (Qualifies displays profileName Finds installs_of_qualifies)

variable {h : Host} {args : List String} {w w' : World} {r : Except Nat Options} {o : Options}

/-! ## The example -/

def exampleHost : Host where
  root := true
  machine := "x86_64"
  tools := fun _ => true
  lspci := some "0000:01:00.0 0302: 10de:1e09 (rev a1)\n"
  sysfs := fun _ name => if name = "subsystem_vendor" then some "0x10de\n" else some "0x1554\n"
  binary := some [1]
  verified := true
  executes := true
  unit := [2]
  driver := none
  linked := fun _ => false
  dataOwner := fun _ => (1000, 1000)
  vendorLegacy := false

/-- A server with the earlier version of the governor. -/
def exampleWorld : World where
  directory := none
  requests := []
  temp := none
  environment := none
  binary := none
  unit := none
  legacy := true
  enabled := false
  log := []

def exampleRun (w : World) : Except Nat Options × World := (install []).run.interp exampleHost.answer w.begin

theorem exampleRun_installs (w : World) : Installs exampleHost [] w (exampleRun w).1 (exampleRun w).2 :=
  installs_answer exampleHost [] w

/-- A run in which no command fails. -/
theorem exampleRun_ok : Installs exampleHost [] exampleWorld (.ok defaultOptions) (exampleRun exampleWorld).2 := by
  have hresult : (exampleRun exampleWorld).1.toOption = some defaultOptions := by decide +kernel
  have hrun := exampleRun_installs exampleWorld
  cases hend : (exampleRun exampleWorld).1 with
  | error n =>
      rw [hend] at hresult
      cases hresult
  | ok o =>
      rw [hend] at hresult hrun
      cases hresult
      exact hrun

/-! ## Any run -/

/-- A run that changes anything has passed the checks, with options that were given. It adds a request only where there
is none, and then the complete one; an environment that is there stays; the files of the service are changed only where
the environment names the control directory; and the governor's file is replaced only while it is down. -/
theorem governor_safe (hrun : Installs h args w r w') :
    Unchanged w w' ∨ ∃ o profile, Asked args o ∧ Ready h o profile ∧ Safe h o profile w w' := by
  have hmeets := install_meets (parseOptions_shows asked_default) r w' hrun
  cases r with
  | ok o =>
      obtain ⟨hasked, profile, hready, hsafe, -⟩ := hmeets
      exact .inr ⟨o, profile, hasked, hready, hsafe⟩
  | error n => exact hmeets

/-- The panel has turned the governor off. -/
def disabledWorld : World :=
  { exampleWorld with requests := [⟨.panel, some ⟨"\x7b\"enabled\":false\x7d\n", 0o644, (1000, 1000)⟩⟩] }

theorem governor_safe_example : Unchanged disabledWorld (exampleRun disabledWorld).2 ∨ ∃ o profile, Asked [] o ∧
    Ready exampleHost o profile ∧ Safe exampleHost o profile disabledWorld (exampleRun disabledWorld).2 :=
  governor_safe (exampleRun_installs disabledWorld)

/-! ## A run that succeeds -/

theorem governor_installed (hrun : Installs h args w (.ok o) w') :
    Asked args o ∧ ∃ profile, Ready h o profile ∧ Safe h o profile w w' ∧ Installed h o profile w w' :=
  install_meets (parseOptions_shows asked_default) _ w' hrun

theorem governor_installed_example : Asked [] defaultOptions ∧ ∃ profile, Ready exampleHost defaultOptions profile ∧
    Safe exampleHost defaultOptions profile exampleWorld (exampleRun exampleWorld).2 ∧
      Installed exampleHost defaultOptions profile exampleWorld (exampleRun exampleWorld).2 :=
  governor_installed exampleRun_ok

/-! ## The daemon -/

/-- The other settings of the governor. -/
def settingNames : List String :=
  ["CMP_POLL", "CMP_IDLE_AFTER", "CMP_UTIL", "CMP_FAN_AUTO_TEMP", "CMP_LOAD_CLOCK", "CMP_LOAD_CORE_OFFSET"]

/-- What systemd makes of the lines of an `EnvironmentFile=`: of one variable with a plain value. -/
def ReadsPlain (reads : List (List Char) → IdleGovernor.Environment) : Prop :=
  ∀ value : List Char, Install.Check.dataDirAllowed value →
    reads ["CMP50_POWER_CONTROL_DIR=".toList ++ value] "CMP50_POWER_CONTROL_DIR" = String.ofList value ∧
      ∀ name ∈ settingNames, reads ["CMP50_POWER_CONTROL_DIR=".toList ++ value] name = ""

/-- What the daemon does with a request that it finds in the control directory, on the host of the inventory. -/
structure Obeyed (h : Host) (o : Options) (environment : IdleGovernor.Environment) (inventory : String)
    (file : Owned) : Prop where
  loads : ∃ profile, ∀ r, loadControl.Exec (RequestStep file.content) () r () ↔ r = .ok ⟨true, profile, 0⟩
  found : ∃ gpus, Finds h.sysfs inventory gpus
  starts : ∀ gpus, Finds h.sysfs inventory gpus → ∃ controller, Accepts gpus environment controller ∧
    controller.controlDirectory = String.ofList (controlDir o.dataDir)
  accepts : ∀ gpus controller control, Finds h.sysfs inventory gpus → Accepts gpus environment controller →
    loadControl.Exec (RequestStep file.content) () (.ok control) () → validate controller.config control = none

theorem bounds_of_isAlphanum {c : Char} (hc : c.isAlphanum = true) : 0x30 ≤ c.toNat ∧ c.toNat ≤ 0x7a := by
  have hranges : (decide ('A'.val ≤ c.val ∧ c.val ≤ 'Z'.val) ||
    (decide ('a'.val ≤ c.val) && decide (c.val ≤ 'z'.val)) ||
      (decide ('0'.val ≤ c.val) && decide (c.val ≤ '9'.val))) = true := hc
  simp only [Bool.or_eq_true, Bool.and_eq_true, decide_eq_true_eq, UInt32.le_iff_toNat_le] at hranges
  have hzero : '0'.val.toNat = 0x30 ∧ '9'.val.toNat = 0x39 := ⟨rfl, rfl⟩
  have hupper : 'A'.val.toNat = 0x41 ∧ 'Z'.val.toNat = 0x5a := ⟨rfl, rfl⟩
  have hlower : 'a'.val.toNat = 0x61 ∧ 'z'.val.toNat = 0x7a := ⟨rfl, rfl⟩
  have hval : c.toNat = c.val.toNat := rfl
  omega

/-- The characters of a data directory are printable. -/
theorem bounds_of_allowed {c : Char} (hc : (c.isAlphanum || c == '_' || c == '.' || c == '/' || c == '-') = true) :
    0x2d ≤ c.toNat ∧ c.toNat ≤ 0x7a := by
  simp only [Bool.or_eq_true, beq_iff_eq] at hc
  rcases hc with (((hc | rfl) | rfl) | rfl) | rfl
  · obtain ⟨hlo, hhi⟩ := bounds_of_isAlphanum hc
    exact ⟨by omega, hhi⟩
  all_goals decide

theorem not_isSpace_of_bounds {c : Char} (hc : 0x2d ≤ c.toNat ∧ c.toNat ≤ 0x7a) : IdleGovernor.isSpace c = false := by
  simp only [IdleGovernor.isSpace, Bool.or_eq_false_iff, Bool.and_eq_false_iff, beq_eq_false_iff_ne,
    decide_eq_false_iff_not]
  omega

theorem allowed_controlDir {dataDir : List Char} (hdir : Install.Check.dataDirAllowed dataDir) :
    Install.Check.dataDirAllowed (controlDir dataDir) := by
  rw [Install.Check.dataDirAllowed, controlDir, List.all_append, Bool.and_eq_true]
  exact ⟨hdir, by decide⟩

theorem trimSpace_of_allowed {value : List Char} (hvalue : Install.Check.dataDirAllowed value) (hne : value ≠ []) :
    trimSpace (String.ofList value) = String.ofList value := by
  have htight : Tight IdleGovernor.isSpace value :=
    .of_all fun c hc => not_isSpace_of_bounds (bounds_of_allowed (List.all_eq_true.mp hvalue c hc))
  have htrim := trim_of_tight (p := IdleGovernor.isSpace) (l := []) (r := []) (by simp) (by simp) htight hne
  rw [List.nil_append, List.append_nil] at htrim
  rw [← String.toList_inj, IdleGovernor.toList_trimSpace, String.toList_ofList, htrim]

/-- The governor starts with the directory, and the defaults for the rest. -/
theorem accepts_directory {gpus : List IdleGovernor.GPU} {environment : IdleGovernor.Environment} {value : List Char}
    (hvalue : Install.Check.dataDirAllowed value) (hne : value ≠ [])
    (hdir : environment "CMP50_POWER_CONTROL_DIR" = String.ofList value)
    (hunset : ∀ name ∈ settingNames, environment name = "") :
    ∃ controller, Accepts gpus environment controller ∧ controller.controlDirectory = String.ofList value := by
  simp only [settingNames, List.forall_mem_cons] at hunset
  obtain ⟨hpoll, hidle, hutil, hfan, hclock, hoffset, -⟩ := hunset
  have hnonempty : String.ofList value ≠ "" := fun heq => hne (String.toList_inj.mpr heq ▸ String.toList_ofList).symm
  have henv : env environment "CMP50_POWER_CONTROL_DIR" "/opt/stacks/ai-server-manager/data/cmp50-power" =
      String.ofList value := by
    rw [env, hdir, trimSpace_of_allowed hvalue hne]
    exact if_pos hnonempty
  have hsettings : settings (serviceFlags false) environment =
      .ok ⟨String.ofList value, IdleGovernor.seconds 5, 6, 5, 55, "", ""⟩ := by
    rw [settings, envInt_unset hpoll, envInt_unset hidle, envInt_unset hutil, envInt_unset hfan, hclock, hoffset, henv]
    rfl
  let config : IdleGovernor.Config := ⟨gpus, ⟨6, 5, 55⟩, 0, 0, false, 0, false⟩
  refine ⟨⟨String.ofList value, IdleGovernor.seconds 5, config, IdleGovernor.newGovernor config⟩,
    ⟨_, hsettings, ?_⟩, rfl⟩
  simp only [new, if_neg (show ¬((IdleGovernor.seconds 5).toInt ≤ 0 ∨ (6 : Int) ≤ 0) by decide)]
  rfl

/-- The request that is there is the installer's, if the panel has not written one since. -/
theorem current_of_latest {file : Owned} {requests requests' : List Request}
    (hrequests : (∃ seen, Written requests seen ∧ current seen ≠ none ∧ Written seen requests') ∨
      Placed file requests requests')
    (habsent : current requests = none) (hlatest : ∀ entry, requests'.head? = some entry → entry.author = .installer) :
    current requests' = some file := by
  -- an entry of the panel is not the latest one
  have hnone : ∀ seen seen', Written seen seen' → (∀ entry, seen'.head? = some entry → entry.author = .installer) →
      seen' = seen := by
    rintro seen seen' ⟨entries, rfl, hpanel⟩ hhead
    cases entries with
    | nil => rfl
    | cons entry entries => exact absurd ((hpanel entry (.head _)).symm.trans (hhead entry rfl)) (by decide)
  obtain ⟨seen, hseen, hthere, hafter⟩ | ⟨earlier, -, -, hafter⟩ := hrequests
  · obtain rfl := hnone _ _ hafter hlatest
    obtain rfl := hnone _ _ hseen hlatest
    exact absurd habsent hthere
  · rw [hnone _ _ hafter hlatest]
    rfl

/-- After a first installation, and as long as the panel writes nothing, the daemon starts on the cards of the host,
reads the directory of the request from the environment, and accepts the request. -/
theorem governor_obeyed {reads : List (List Char) → IdleGovernor.Environment} (hreads : ReadsPlain reads)
    (hrun : Installs h args w (.ok o) w') (hfresh : w.environment = none) (habsent : current w.requests = none)
    (hlatest : ∀ entry, w'.requests.head? = some entry → entry.author = .installer) :
    ∃ inventory file environment, h.lspci = some inventory ∧ current w'.requests = some file ∧
      w'.environment = some environment ∧ Obeyed h o (reads environment.lines) inventory file := by
  obtain ⟨-, profile, hready, -, hinstalled⟩ := install_meets (parseOptions_shows asked_default) _ w' hrun
  obtain ⟨inventory, hinventory, hqualifies, rfl⟩ := hready.cards
  have hdaemon := installs_of_qualifies hqualifies
  have hcurrent : current w'.requests = some (requestFile h o (profileName (displays inventory).length).toList) :=
    current_of_latest (hinstalled.requests.imp_right And.left) habsent hlatest
  have hallowed : Install.Check.dataDirAllowed (controlDir o.dataDir) := allowed_controlDir hready.dataDir.2
  obtain ⟨hdir, hunset⟩ := hreads (controlDir o.dataDir) hallowed
  refine ⟨inventory, _, _, hinventory, hcurrent, hinstalled.fresh hfresh, ?_⟩
  constructor
  case loads => exact ⟨_, hdaemon.loads⟩
  case found => exact hdaemon.host
  case starts =>
    intro gpus _
    exact accepts_directory hallowed (by simp [controlDir]) hdir hunset
  case accepts =>
    intro gpus controller control hfinds hcontroller hloaded
    have hcontrol : Except.ok control = Except.ok _ := (hdaemon.loads _).mp hloaded
    cases hcontrol
    refine hdaemon.accepts controller.config ?_
    rw [IdleGovernor.gpus_of_accepts hcontroller]
    exact hfinds

/-- The value in the last line that assigns to the variable. -/
def readAssignments (lines : List (List Char)) : IdleGovernor.Environment := fun name =>
  match lines.reverse.find? fun line => (name.toList ++ ['=']).isPrefixOf line with
  | some line => String.ofList (line.drop (name.toList.length + 1))
  | none => ""

theorem readAssignments_directory (value : List Char) :
    readAssignments ["CMP50_POWER_CONTROL_DIR=".toList ++ value] "CMP50_POWER_CONTROL_DIR" = String.ofList value := by
  have hname : "CMP50_POWER_CONTROL_DIR=".toList = "CMP50_POWER_CONTROL_DIR".toList ++ ['='] := by decide +kernel
  have hassigns : ("CMP50_POWER_CONTROL_DIR".toList ++ ['=']).isPrefixOf
      ("CMP50_POWER_CONTROL_DIR".toList ++ ['='] ++ value) = true :=
    List.isPrefixOf_iff_prefix.mpr (List.prefix_append _ _)
  rw [readAssignments, hname, List.reverse_singleton, List.find?_cons_of_pos hassigns]
  exact congrArg String.ofList (List.drop_left' (by simp only [List.length_append, List.length_singleton]))

theorem readAssignments_other {name : String} (hname : name ∈ settingNames) (value : List Char) :
    readAssignments ["CMP50_POWER_CONTROL_DIR=".toList ++ value] name = "" := by
  -- the names differ in their first characters
  have hnames : ∀ name ∈ settingNames, 4 ≤ name.toList.length ∧ name.toList.take 4 = "CMP_".toList := by decide +kernel
  obtain ⟨hlength, hfirst⟩ := hnames name hname
  have hother : ¬(name.toList ++ ['=']).isPrefixOf ("CMP50_POWER_CONTROL_DIR=".toList ++ value) = true := by
    rw [List.isPrefixOf_iff_prefix]
    rintro ⟨rest, hrest⟩
    have htake := congrArg (List.take 4) hrest
    rw [List.append_assoc, List.take_append_of_le_length hlength, hfirst,
      List.take_append_of_le_length (by decide +kernel)] at htake
    exact absurd htake (by decide +kernel)
  rw [readAssignments, List.reverse_singleton, List.find?_cons_of_neg hother]
  rfl

theorem readAssignments_plain : ReadsPlain readAssignments :=
  fun value _ => ⟨readAssignments_directory value, fun _ hname => readAssignments_other hname value⟩

theorem governor_obeyed_example : ∃ inventory file environment, exampleHost.lspci = some inventory ∧
    current (exampleRun exampleWorld).2.requests = some file ∧
      (exampleRun exampleWorld).2.environment = some environment ∧
        Obeyed exampleHost defaultOptions (readAssignments environment.lines) inventory file :=
  governor_obeyed readAssignments_plain exampleRun_ok rfl rfl (by decide +kernel)

end Cmp50Unlock.Install.Governor
