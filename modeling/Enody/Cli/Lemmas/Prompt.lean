import Enody.Cli.Lemmas.Ask

/-!
This module contains when the prompts for a network and for a device return, and what they return.
-/

namespace Enody
namespace Cli

open Message Wifi Retry

variable {flush : Nat → Except String Unit} {console later : Console} {n : Nat}

section Choose

def Selects {A : Type} (items : List A) (line : String) (item : A) : Prop :=
  ∃ number, parseUsize (trim line) = some number ∧ 1 ≤ number ∧ number ≤ items.length
    ∧ items[number - 1]? = some item

theorem selectedItem_eq_some_iff {A : Type} {items : List A} {line : String} {item : A}
    : selectedItem items (trim line) = some item ↔ Selects items line item := by
  unfold selectedItem Selects
  cases parseUsize (trim line) with
  | none => simp
  | some number =>
    by_cases hRange : 1 ≤ number ∧ number ≤ items.length
    . simp [hRange]
    . simp only [hRange, if_false, reduceCtorEq, Option.some.injEq, false_iff, not_exists]
      rintro _ ⟨rfl, hLow, hHigh, _⟩
      exact hRange ⟨hLow, hHigh⟩

theorem not_selects_of_blank {A : Type} {items : List A} {line : String} (hBlank : trim line = "") (item : A)
    : ¬ Selects items line item := by
  rintro ⟨number, hParse, _⟩
  simp only [hBlank, parseUsize_empty, reduceCtorEq] at hParse

theorem chooseManualSsid_eq_chosen_iff {line ssid : String}
    : chooseManualSsid line = .chosen ssid ↔ line ≠ "" ∧ ssid = line := by
  unfold chooseManualSsid
  by_cases hEmpty : line = ""
  . simp [hEmpty]
  . have hNot : ¬ line.isEmpty = true := by simpa using hEmpty
    rw [if_neg hNot, Choice.chosen.injEq]
    constructor
    . rintro rfl
      exact ⟨hEmpty, rfl⟩
    . rintro ⟨_, rfl⟩
      rfl

theorem chooseDevice_eq_chosen_iff {devices : List MdnsDevice} {line : String} {device : MdnsDevice}
    : chooseDevice devices line = .chosen device ↔ Selects devices line device := by
  rw [← selectedItem_eq_some_iff]
  unfold chooseDevice
  cases selectedItem devices (trim line) <;> simp

section Network

variable {networks : List Network} {line : String}

def Retried (networks : List Network) (answer : Except (Error .std) String) : Prop :=
  ∃ line, answer = .ok line ∧ trim line ≠ "" ∧ ∀ network, ¬ Selects networks line network

theorem chooseNetwork_of_blank (hBlank : trim line = "") : chooseNetwork networks line = .chosen .typed := by
  simp [chooseNetwork, hBlank]

theorem chooseNetwork_of_selects {network : WifiNetwork} (hSelects : Selects networks line (.wifi network))
    : chooseNetwork networks line
        =
      .chosen (match network.ssid with | some ssid => .ssid ssid.val | none => .hidden) := by
  have hNotBlank : trim line ≠ "" := fun hBlank => not_selects_of_blank hBlank _ hSelects
  rw [← selectedItem_eq_some_iff] at hSelects
  cases hSsid : network.ssid <;> simp [chooseNetwork, hNotBlank, hSelects, hSsid]

theorem chooseNetwork_of_other (hNotBlank : trim line ≠ "")
    (hNone : ∀ network, ¬ Selects networks line network)
    : ∃ message, chooseNetwork networks line = .again message := by
  have hItem : selectedItem networks (trim line) = none := by
    rw [Option.eq_none_iff_forall_ne_some]
    intro network hSome
    exact hNone network (selectedItem_eq_some_iff.mp hSome)
  simp [chooseNetwork, hNotBlank, hItem]

theorem line_cases (networks : List Network) (line : String)
    : (trim line = "" ∧ chooseNetwork networks line = .chosen .typed)
        ∨ (∃ network ssid, Selects networks line (.wifi network) ∧ network.ssid = some ssid
            ∧ chooseNetwork networks line = .chosen (.ssid ssid.val))
        ∨ (∃ network, Selects networks line (.wifi network) ∧ network.ssid = none
            ∧ chooseNetwork networks line = .chosen .hidden)
        ∨ ((trim line ≠ "" ∧ ∀ network, ¬ Selects networks line network)
            ∧ ∃ message, chooseNetwork networks line = .again message) := by
  by_cases hBlank : trim line = ""
  . exact .inl ⟨hBlank, chooseNetwork_of_blank hBlank⟩
  . by_cases hSome : ∃ network, Selects networks line network
    . rcases hSome with ⟨⟨network⟩, hSelects⟩
      have hChoose := chooseNetwork_of_selects hSelects
      cases hSsid : network.ssid with
      | some ssid =>
        simp only [hSsid] at hChoose
        exact .inr (.inl ⟨network, ssid, hSelects, hSsid, hChoose⟩)
      | none =>
        simp only [hSsid] at hChoose
        exact .inr (.inr (.inl ⟨network, hSelects, hSsid, hChoose⟩))
    . have hNone := not_exists.mp hSome
      exact .inr (.inr (.inr ⟨⟨hBlank, hNone⟩, chooseNetwork_of_other hBlank hNone⟩))

theorem retried_iff {answer : Except (Error .std) String}
    : verdict (chooseNetwork networks) answer = none ↔ Retried networks answer := by
  rw [verdict_eq_none_iff]
  constructor
  . rintro ⟨line, message, hLine, hAgain⟩
    rcases line_cases networks line with ⟨_, hChoose⟩ | ⟨_, _, _, _, hChoose⟩ | ⟨_, _, _, hChoose⟩
      | ⟨hOther, _⟩
    . simp [hChoose] at hAgain
    . simp [hChoose] at hAgain
    . simp [hChoose] at hAgain
    . exact ⟨line, hLine, hOther⟩
  . rintro ⟨line, hLine, hNotBlank, hNone⟩
    rcases chooseNetwork_of_other hNotBlank hNone with ⟨message, hAgain⟩
    exact ⟨line, message, hLine, hAgain⟩

end Network

end Choose

section Ends

variable {networks : List Network} {devices : List MdnsDevice} {answers : Nat → Except (Error .std) String}

def DecidesManual (answer : Except (Error .std) String) : Prop :=
  (∃ error, answer = .error error) ∨ ∃ line, answer = .ok line ∧ line ≠ ""

def DecidesDevice (devices : List MdnsDevice) (answer : Except (Error .std) String) : Prop :=
  (∃ error, answer = .error error) ∨ ∃ line device, answer = .ok line ∧ Selects devices line device

def ManualDecided (answers : Nat → Except (Error .std) String) : Prop := ∃ n, DecidesManual (answers n)

def DeviceDecided (devices : List MdnsDevice) (answers : Nat → Except (Error .std) String) : Prop :=
  ∃ n, DecidesDevice devices (answers n)

def SsidDecided (networks : List Network) (answers : Nat → Except (Error .std) String) : Prop :=
  if networks = [] then
    ManualDecided answers
  else
    ∃ n, (∀ m < n, Retried networks (answers m))
      ∧ ((∃ error, answers n = .error error)
          ∨ (∃ line network ssid, answers n = .ok line ∧ Selects networks line (.wifi network)
              ∧ network.ssid = some ssid)
          ∨ ((∃ line, answers n = .ok line
                ∧ (trim line = "" ∨ ∃ network, Selects networks line (.wifi network) ∧ network.ssid = none))
              ∧ ManualDecided fun m => answers (n + 1 + m)))

structure SsidPromptEnds (flush : Nat → Except String Unit) (networks : List Network) (console : Console)
    : Prop where
  returns : ∃ fuel outcome, promptWifiSsid flush networks fuel console = some outcome
  chosen : ∀ fuel ssid later, promptWifiSsid flush networks fuel console = some (.ok ssid, later) →
    (ssid ≠ "" ∧ ∃ n, console.answer flush n = .ok ssid)
      ∨ ∃ n line network name, console.answer flush n = .ok line ∧ Selects networks line (.wifi network)
          ∧ network.ssid = some name ∧ name.val = ssid

structure DevicePromptEnds (flush : Nat → Except String Unit) (devices : List MdnsDevice) (console : Console)
    : Prop where
  returns : ∃ fuel outcome, promptWifiTokenGenerationDevice flush devices fuel console = some outcome
  chosen : ∀ fuel device later,
    promptWifiTokenGenerationDevice flush devices fuel console = some (.ok device, later) →
      ∃ n line, console.answer flush n = .ok line ∧ Selects devices line device

theorem manual_settles_iff
    : (∃ result later, Settles (fun fuel => promptManualSsid flush fuel console) (result, later))
        ↔
      ManualDecided (console.answer flush) := by
  unfold promptManualSsid ManualDecided
  rw [settles_ask_iff]
  simp [DecidesManual, chooseManualSsid_eq_chosen_iff]

theorem manual_chosen {ssid : String}
    (hSettles : Settles (fun fuel => promptManualSsid flush fuel console) (.ok ssid, later))
    : ssid ≠ "" ∧ ∃ n, console.answer flush n = .ok ssid := by
  rcases first_of_settles hSettles with ⟨n, hFirst, _⟩
  rcases verdict_eq_ok_iff.mp hFirst.verdict with ⟨line, hLine, hChosen⟩
  rcases chooseManualSsid_eq_chosen_iff.mp hChosen with ⟨hNotEmpty, rfl⟩
  exact ⟨hNotEmpty, n, hLine⟩

theorem devicePromptEnds_iff
    : DevicePromptEnds flush devices console ↔ DeviceDecided devices (console.answer flush) := by
  have hReturns : (∃ fuel outcome, promptWifiTokenGenerationDevice flush devices fuel console = some outcome)
      ↔ DeviceDecided devices (console.answer flush) := by
    unfold promptWifiTokenGenerationDevice DeviceDecided
    rw [exists_settles_iff, settles_ask_iff]
    simp only [DecidesDevice, chooseDevice_eq_chosen_iff]
  constructor
  . intro hEnds
    exact hReturns.mp hEnds.returns
  . intro hDecided
    refine ⟨hReturns.mpr hDecided, ?_⟩
    intro fuel device later hSome
    rcases first_of_settles ⟨fuel, hSome⟩ with ⟨n, hFirst, _⟩
    rcases verdict_eq_ok_iff.mp hFirst.verdict with ⟨line, hLine, hChosen⟩
    exact ⟨n, line, hLine, chooseDevice_eq_chosen_iff.mp hChosen⟩

theorem stable_finish (picked : Except (Error .std) PickedNetwork × Console)
    : Stable (finishWifiSsid flush picked) := by
  rcases picked with ⟨error | picked, later⟩
  . exact stable_const _
  . cases picked with
    | ssid ssid => exact stable_const _
    | typed => exact stable_run _ _
    | hidden => exact stable_run _ _

theorem settles_wifi_iff (hNetworks : networks ≠ []) {outcome : Except (Error .std) String × Console}
    : Settles (fun fuel => promptWifiSsid flush networks fuel console) outcome
        ↔
      ∃ picked, Settles (fun fuel => run (pickNetwork flush networks) fuel console) picked
        ∧ Settles (finishWifiSsid flush picked) outcome := by
  have hNot : ¬ networks.isEmpty = true := by simpa using hNetworks
  simp only [promptWifiSsid, hNot]
  exact settles_bind_iff (stable_run _ _) stable_finish

theorem manual_after_iff (hLater : Advanced console later (n + 1))
    : (∃ result last, Settles (fun fuel => promptManualSsid flush fuel later) (result, last))
        ↔
      ManualDecided fun m => console.answer flush (n + 1 + m) := by
  rw [manual_settles_iff]
  simp only [ManualDecided, hLater.answer]

theorem ssid_decided_of_settles (hNetworks : networks ≠ []) {outcome : Except (Error .std) String × Console}
    (hSettles : Settles (fun fuel => promptWifiSsid flush networks fuel console) outcome)
    : SsidDecided networks (console.answer flush) := by
  rcases (settles_wifi_iff hNetworks).mp hSettles with ⟨⟨picked, later⟩, hPick, hFinish⟩
  rcases first_of_settles hPick with ⟨n, hFirst, hLater⟩
  rw [SsidDecided, if_neg hNetworks]
  refine ⟨n, fun m hLt => retried_iff.mp (hFirst.before m hLt), ?_⟩
  cases picked with
  | error error => exact .inl ⟨error, verdict_eq_error_iff.mp hFirst.verdict⟩
  | ok picked =>
    rcases verdict_eq_ok_iff.mp hFirst.verdict with ⟨line, hLine, hChosen⟩
    have hBehind := hLater picked rfl
    rcases line_cases networks line with ⟨hBlank, hChoose⟩ | ⟨network, ssid, hSelects, hSsid, _⟩
      | ⟨network, hSelects, hHidden, hChoose⟩ | ⟨_, message, hChoose⟩
    . rw [hChoose] at hChosen
      cases hChosen
      refine .inr (.inr ⟨⟨line, hLine, .inl hBlank⟩, ?_⟩)
      exact (manual_after_iff hBehind).mp ⟨_, _, hFinish⟩
    . exact .inr (.inl ⟨line, network, ssid, hLine, hSelects, hSsid⟩)
    . rw [hChoose] at hChosen
      cases hChosen
      refine .inr (.inr ⟨⟨line, hLine, .inr ⟨network, hSelects, hHidden⟩⟩, ?_⟩)
      exact (manual_after_iff (hBehind.println _)).mp ⟨_, _, hFinish⟩
    . simp only [hChoose, reduceCtorEq] at hChosen

theorem ssid_settles_of_decided (hNetworks : networks ≠ [])
    (hDecided : SsidDecided networks (console.answer flush))
    : ∃ outcome, Settles (fun fuel => promptWifiSsid flush networks fuel console) outcome := by
  rw [SsidDecided, if_neg hNetworks] at hDecided
  rcases hDecided with ⟨n, hRetried, hDecided⟩
  have hBefore : ∀ m < n, verdict (chooseNetwork networks) (console.answer flush m) = none :=
    fun m hLt => retried_iff.mpr (hRetried m hLt)
  rcases hDecided with ⟨error, hError⟩ | ⟨line, network, ssid, hLine, hSelects, hSsid⟩
    | ⟨⟨line, hLine, hTyped⟩, hManual⟩
  . rcases settles_of_first _ ⟨hBefore, verdict_eq_error_iff.mpr hError⟩ with ⟨later, hPick, _⟩
    exact ⟨_, (settles_wifi_iff hNetworks).mpr ⟨_, hPick, settles_const_iff.mpr rfl⟩⟩
  . have hChoose := chooseNetwork_of_selects hSelects
    rw [hSsid] at hChoose
    rcases settles_of_first _ ⟨hBefore, verdict_eq_ok_iff.mpr ⟨line, hLine, hChoose⟩⟩ with ⟨later, hPick, _⟩
    exact ⟨_, (settles_wifi_iff hNetworks).mpr ⟨_, hPick, settles_const_iff.mpr rfl⟩⟩
  . rcases hTyped with hBlank | ⟨network, hSelects, hHidden⟩
    . have hChoose : chooseNetwork networks line = _ := chooseNetwork_of_blank hBlank
      rcases settles_of_first _ ⟨hBefore, verdict_eq_ok_iff.mpr ⟨line, hLine, hChoose⟩⟩
        with ⟨later, hPick, hLater⟩
      rcases (manual_after_iff (hLater _ rfl)).mpr hManual with ⟨result, last, hSettles⟩
      exact ⟨_, (settles_wifi_iff hNetworks).mpr ⟨_, hPick, hSettles⟩⟩
    . have hChoose := chooseNetwork_of_selects hSelects
      rw [hHidden] at hChoose
      rcases settles_of_first _ ⟨hBefore, verdict_eq_ok_iff.mpr ⟨line, hLine, hChoose⟩⟩
        with ⟨later, hPick, hLater⟩
      rcases (manual_after_iff ((hLater _ rfl).println "Selected network has a hidden SSID.")).mpr hManual
        with ⟨result, last, hSettles⟩
      exact ⟨_, (settles_wifi_iff hNetworks).mpr ⟨_, hPick, hSettles⟩⟩

theorem ssid_chosen {ssid : String}
    (hSettles : Settles (fun fuel => promptWifiSsid flush networks fuel console) (.ok ssid, later))
    : (ssid ≠ "" ∧ ∃ n, console.answer flush n = .ok ssid)
        ∨ ∃ n line network name, console.answer flush n = .ok line ∧ Selects networks line (.wifi network)
            ∧ network.ssid = some name ∧ name.val = ssid := by
  by_cases hNetworks : networks = []
  . subst hNetworks
    exact .inl (manual_chosen hSettles)
  . rcases (settles_wifi_iff hNetworks).mp hSettles with ⟨⟨picked, between⟩, hPick, hFinish⟩
    rcases first_of_settles hPick with ⟨n, hFirst, hBehind⟩
    have hTyped (console' : Console) (hNext : Advanced console console' (n + 1))
        (hManual : Settles (fun fuel => promptManualSsid flush fuel console') (.ok ssid, later))
        : ssid ≠ "" ∧ ∃ n, console.answer flush n = .ok ssid := by
      rcases manual_chosen hManual with ⟨hNotEmpty, m, hLine⟩
      rw [hNext.answer] at hLine
      exact ⟨hNotEmpty, _, hLine⟩
    cases picked with
    | error error =>
      rcases hFinish with ⟨_, hFinish⟩
      simp [finishWifiSsid] at hFinish
    | ok picked =>
      have hNext := hBehind picked rfl
      rcases verdict_eq_ok_iff.mp hFirst.verdict with ⟨line, hLine, hChosen⟩
      rcases line_cases networks line with ⟨_, hChoose⟩ | ⟨network, name, hSelects, hName, hChoose⟩
        | ⟨_, _, _, hChoose⟩ | ⟨_, message, hChoose⟩
      . rw [hChoose] at hChosen
        cases hChosen
        exact .inl (hTyped _ hNext hFinish)
      . rw [hChoose] at hChosen
        cases hChosen
        rcases hFinish with ⟨_, hFinish⟩
        simp only [finishWifiSsid, Option.some.injEq, Prod.mk.injEq, Except.ok.injEq] at hFinish
        exact .inr ⟨n, line, network, name, hLine, hSelects, hName, hFinish.1⟩
      . rw [hChoose] at hChosen
        cases hChosen
        exact .inl (hTyped _ (hNext.println _) hFinish)
      . simp only [hChoose, reduceCtorEq] at hChosen

theorem ssidPromptEnds_iff
    : SsidPromptEnds flush networks console ↔ SsidDecided networks (console.answer flush) := by
  have hReturns : (∃ fuel outcome, promptWifiSsid flush networks fuel console = some outcome)
      ↔ SsidDecided networks (console.answer flush) := by
    by_cases hNetworks : networks = []
    . subst hNetworks
      rw [exists_settles_iff]
      exact manual_settles_iff
    . constructor
      . rintro ⟨fuel, outcome, hSome⟩
        exact ssid_decided_of_settles hNetworks ⟨fuel, hSome⟩
      . intro hDecided
        rcases ssid_settles_of_decided hNetworks hDecided with ⟨outcome, fuel, hSome⟩
        exact ⟨fuel, outcome, hSome⟩
  constructor
  . intro hEnds
    exact hReturns.mp hEnds.returns
  . intro hDecided
    refine ⟨hReturns.mpr hDecided, ?_⟩
    intro fuel ssid later hSome
    exact ssid_chosen ⟨fuel, hSome⟩

end Ends

/--
The prompts end exactly when an answer decides them: behind the end of the input every answer is the empty
line, which makes the loop for an SSID and the loop over the devices ask again.
-/
theorem prompts_end_iff (flush : Nat → Except String Unit) (networks : List Network)
    (devices : List MdnsDevice) (console : Console)
    : (SsidPromptEnds flush networks console ↔ SsidDecided networks (console.answer flush))
        ∧ (DevicePromptEnds flush devices console ↔ DeviceDecided devices (console.answer flush)) :=
  ⟨ssidPromptEnds_iff, devicePromptEnds_iff⟩

/-
With an empty input `prompt_manual_ssid` asks forever.
-/
theorem not_prompts_end
    : ¬ ∀ (flush : Nat → Except String Unit) (networks : List Network) (devices : List MdnsDevice)
        (console : Console),
        SsidPromptEnds flush networks console ∧ DevicePromptEnds flush devices console := by
  intro hAll
  have hDecided := ssidPromptEnds_iff.mp (hAll (fun _ => .ok ()) [] [] ⟨[], 0, []⟩).1
  rw [SsidDecided, if_pos rfl] at hDecided
  rcases (exists_answer_iff (fun _ => rfl) DecidesManual (by simp [DecidesManual])).mp hDecided
    with ⟨n, hLt, _⟩
  exact Nat.not_lt_zero n hLt

end Cli
end Enody
