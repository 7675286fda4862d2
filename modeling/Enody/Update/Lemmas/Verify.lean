import Enody.Message.Version
import Enody.Update.Impl.Verify
import Enody.Update.Lemmas.Flash
import Enody.Update.Lemmas.Targets

/-!
This module contains what a successful verification says about the device that has been flashed. The device is
known by its serial number, the verification only knows the identifier that has been collected before.
-/

namespace Enody
namespace Update

open Message (HostInfo Version)
open Serde (utf8)

def Recognised (info : HostInfo) (scans : List Scan) : Prop :=
  ∃ scan ∈ scans, ∃ runtime ∈ scan, ∃ host,
    runtime.host = .ok host ∧ host.identifier = info.identifier

def IsFlashed (target : EP01UpdateTarget) (runtime : ScannedRuntime) : Prop :=
  runtime.serialNumber.isSome = true ∧ runtime.serialNumber = target.macAddress

def FlashedAnswers (target : EP01UpdateTarget) (scans : List Scan) (answer : HostInfo → Prop) : Prop :=
  ∃ scan ∈ scans, ∃ runtime ∈ scan, IsFlashed target runtime ∧
    ∃ host, runtime.host = .ok host ∧ answer host

def IsCollected (info : HostInfo) (scan : Scan) : Prop :=
  ∃ runtime ∈ scan, ∃ host, runtime.host = .ok host ∧ host.identifier = info.identifier

def FlashedIn (target : EP01UpdateTarget) (answer : HostInfo → Prop) (scan : Scan) : Prop :=
  ∃ runtime ∈ scan, IsFlashed target runtime ∧ ∃ host, runtime.host = .ok host ∧ answer host

/-
There is time for the `n`-th scan when the deadline has not passed behind any scan before it.
-/
def Waiting.InTime (waiting : Waiting) (n : Nat) : Prop := ∀ m < n, waiting.elapsed m < verifyTimeout

/-
The requested version is found, downloaded and flashed without an error.
-/
def FlashSucceeds (crates : Crates) (http : Nat → HttpOutcome)
    (flash : List (UInt32 × List UInt8) → Except (Error .std) Unit) (hostId : Identifier) (version : String)
    : Prop :=
  ∃ s versions selected t payloads,
    fetchFirmwareManifest crates http hostId .initial = (s, .ok versions)
      ∧
    versions.find? (fun fv => fv.version == version) = some selected
      ∧
    downloadFirmwarePayloads crates http hostId selected s = (t, .ok payloads)
      ∧
    (flashPayloads flash payloads t).2 = .ok ()

section Wait

variable {info : HostInfo} {waiting : Waiting}

theorem isUpdated_iff {runtime : ScannedRuntime}
    : isUpdated info runtime = true
        ↔
      ∃ host, runtime.host = .ok host ∧ host.identifier = info.identifier := by
  unfold isUpdated
  cases runtime.host with
  | error error => simp
  | ok host => simp

theorem any_answersOf {p : Except (Error .std) HostInfo → Bool} {scans : List Scan}
    : ((answersOf scans).any fun runtimes => runtimes.any p)
        =
      scans.any fun scan => scan.any fun runtime => p runtime.host := by
  unfold answersOf
  simp only [List.any_map, Function.comp_def]

theorem verifyUpdatedHost_answersOf (scans : List Scan)
    : verifyUpdatedHost info (answersOf scans)
        =
      if scans.any fun scan => scan.any (isUpdated info) then
        .ok ()
      else
        .error (.debugText "Timed out waiting for update verification.") := by
  unfold verifyUpdatedHost
  simp only [any_answersOf]
  rfl

theorem verifyUpdatedHost_eq_ok_iff {scans : List Scan}
    : verifyUpdatedHost info (answersOf scans) = .ok () ↔ Recognised info scans := by
  have hRecognised : (scans.any fun scan => scan.any (isUpdated info)) = true ↔ Recognised info scans := by
    simp only [List.any_eq_true, isUpdated_iff, Recognised]
  rw [verifyUpdatedHost_answersOf, ← hRecognised]
  cases scans.any fun scan => scan.any (isUpdated info) with
  | false => simp
  | true => simp

theorem waitForHost_result (n : Nat)
    : (waitForHost info waiting n).2 = verifyUpdatedHost info (answersOf (waitForHost info waiting n).1) := by
  induction n using waitForHost.induct info waiting with
  | case1 n hUpdated =>
    rw [waitForHost, if_pos hUpdated, verifyUpdatedHost_answersOf]
    simp [hUpdated]
  | case2 n hUpdated hTimeout =>
    rw [waitForHost, if_neg hUpdated, if_pos hTimeout, verifyUpdatedHost_answersOf]
    simp [hUpdated]
  | case3 n hUpdated hTimeout scans result hRest ih =>
    rw [waitForHost, if_neg hUpdated, if_neg hTimeout]
    simp only [verifyUpdatedHost_answersOf, List.any_cons, hUpdated, Bool.false_or]
    rw [ih, verifyUpdatedHost_answersOf]

theorem any_isUpdated_iff {scan : Scan} : scan.any (isUpdated info) = true ↔ IsCollected info scan := by
  simp only [List.any_eq_true, isUpdated_iff, IsCollected]

theorem mem_waitForHost_iff (n : Nat) {scan : Scan}
    : scan ∈ (waitForHost info waiting n).1
        ↔
      ∃ k ≥ n, scan = waiting.scan k ∧
        ∀ m < k, n ≤ m → waiting.elapsed m < verifyTimeout ∧ ¬ IsCollected info (waiting.scan m) := by
  induction n using waitForHost.induct info waiting with
  | case1 n hUpdated =>
    rw [waitForHost, if_pos hUpdated, List.mem_singleton]
    rw [any_isUpdated_iff] at hUpdated
    constructor
    . intro hScan
      refine ⟨n, Nat.le_refl n, hScan, ?_⟩
      intro m hLt hLe
      omega
    . rintro ⟨k, hLe, hScan, hBefore⟩
      rcases Nat.eq_or_lt_of_le hLe with hEq | hLt
      . rw [hScan, hEq]
      . exact absurd hUpdated (hBefore n hLt (Nat.le_refl n)).2
  | case2 n hUpdated hTimeout =>
    rw [waitForHost, if_neg hUpdated, if_pos hTimeout, List.mem_singleton]
    constructor
    . intro hScan
      refine ⟨n, Nat.le_refl n, hScan, ?_⟩
      intro m hLt hLe
      omega
    . rintro ⟨k, hLe, hScan, hBefore⟩
      rcases Nat.eq_or_lt_of_le hLe with hEq | hLt
      . rw [hScan, hEq]
      . have := (hBefore n hLt (Nat.le_refl n)).1
        omega
  | case3 n hUpdated hTimeout scans result hRest ih =>
    rw [waitForHost, if_neg hUpdated, if_neg hTimeout]
    rw [any_isUpdated_iff] at hUpdated
    simp only [List.mem_cons, ih]
    constructor
    . rintro (hScan | ⟨k, hLe, hScan, hBefore⟩)
      . refine ⟨n, Nat.le_refl n, hScan, ?_⟩
        intro m hLt hLe
        omega
      . refine ⟨k, by omega, hScan, ?_⟩
        intro m hLt hFrom
        rcases Nat.eq_or_lt_of_le hFrom with hEq | hAfter
        . rw [← hEq]
          exact ⟨by omega, hUpdated⟩
        . exact hBefore m hLt hAfter
    . rintro ⟨k, hLe, hScan, hBefore⟩
      rcases Nat.eq_or_lt_of_le hLe with hEq | hLt
      . rw [hScan, hEq]
        exact .inl rfl
      . refine .inr ⟨k, hLt, hScan, ?_⟩
        intro m hBelow hFrom
        exact hBefore m hBelow (by omega)

theorem mem_scansMade_iff {scan : Scan}
    : scan ∈ scansMade info waiting
        ↔
      ∃ k, scan = waiting.scan k ∧ waiting.InTime k ∧ ∀ m < k, ¬ IsCollected info (waiting.scan m) := by
  unfold scansMade Waiting.InTime
  rw [mem_waitForHost_iff]
  constructor
  . rintro ⟨k, _, hScan, hBefore⟩
    exact ⟨k, hScan, fun m hLt => (hBefore m hLt (Nat.zero_le m)).1, fun m hLt => (hBefore m hLt (Nat.zero_le m)).2⟩
  . rintro ⟨k, hScan, hTime, hBefore⟩
    exact ⟨k, Nat.zero_le k, hScan, fun m hLt _ => ⟨hTime m hLt, hBefore m hLt⟩⟩

theorem recognised_scansMade_iff
    : Recognised info (scansMade info waiting)
        ↔
      ∃ n, waiting.InTime n ∧ IsCollected info (waiting.scan n) := by
  constructor
  . rintro ⟨scan, hMem, hCollected⟩
    rcases mem_scansMade_iff.mp hMem with ⟨k, hScan, hTime, _⟩
    rw [hScan] at hCollected
    exact ⟨k, hTime, hCollected⟩
  . rintro ⟨n, hTime, hCollected⟩
    classical
    have hSome : ∃ k, IsCollected info (waiting.scan k) := ⟨n, hCollected⟩
    refine ⟨_, mem_scansMade_iff.mpr ⟨Nat.find hSome, rfl, ?_, ?_⟩, Nat.find_spec hSome⟩
    . intro m hLt
      exact hTime m (Nat.lt_of_lt_of_le hLt (Nat.find_min' hSome hCollected))
    . intro m hLt
      exact Nat.find_min hSome hLt

end Wait

section Device

variable (crates : Crates) (http : Nat → HttpOutcome)
  (flash : List (UInt32 × List UInt8) → Except (Error .std) Unit)
  (target : EP01UpdateTarget) (version : String) (waiting : Waiting)

/--
What a verification is to mean: the device that has been flashed is back, and an update that succeeds, with whatever
firmware service and flasher, has left it with the requested version.
-/
structure VerifiesFlashed : Prop where
  verified : (waitForHost target.info waiting 0).2 = .ok ()
    ↔ FlashedAnswers target (scansMade target.info waiting) fun _ => True
  updated : ∀ crates http flash,
    (updateDevice crates (systemOf http flash target.info waiting) target.info version).2 = .ok () →
      FlashedAnswers target (scansMade target.info waiting) fun host => Version.fromStr version = .ok host.version

/--
The answers for which it does: a flashed device that is back leads to an answer with the collected identifier, and
when there is such an answer the flashed device has answered by then, with the requested version.
-/
structure AnswersForFlashed : Prop where
  recognised : ∀ n, waiting.InTime n → FlashedIn target (fun _ => True) (waiting.scan n) →
    ∃ m, waiting.InTime m ∧ IsCollected target.info (waiting.scan m)
  notMistaken : ∀ n, waiting.InTime n → IsCollected target.info (waiting.scan n) →
    ∃ m ≤ n, FlashedIn target (fun host => Version.fromStr version = .ok host.version) (waiting.scan m)

variable {target waiting} in
theorem flashedAnswers_scansMade_iff {answer : HostInfo → Prop}
    : FlashedAnswers target (scansMade target.info waiting) answer
        ↔
      ∃ k, waiting.InTime k ∧ (∀ m < k, ¬ IsCollected target.info (waiting.scan m))
        ∧ FlashedIn target answer (waiting.scan k) := by
  constructor
  . rintro ⟨scan, hMem, hFlashed⟩
    rcases mem_scansMade_iff.mp hMem with ⟨k, hScan, hTime, hBefore⟩
    rw [hScan] at hFlashed
    exact ⟨k, hTime, hBefore, hFlashed⟩
  . rintro ⟨k, hTime, hBefore, hFlashed⟩
    exact ⟨_, mem_scansMade_iff.mpr ⟨k, rfl, hTime, hBefore⟩, hFlashed⟩

theorem waitForHost_eq_ok_iff
    : (waitForHost target.info waiting 0).2 = .ok ()
        ↔
      Recognised target.info (scansMade target.info waiting) := by
  rw [waitForHost_result, verifyUpdatedHost_eq_ok_iff]
  rfl

theorem updateDevice_eq_ok_iff
    : (updateDevice crates (systemOf http flash target.info waiting) target.info version).2 = .ok ()
        ↔
      FlashSucceeds crates http flash target.info.identifier version
        ∧ Recognised target.info (scansMade target.info waiting) := by
  rw [← verifyUpdatedHost_eq_ok_iff]
  unfold updateDevice systemOf FlashSucceeds
  cases hFetch : fetchFirmwareManifest crates http target.info.identifier .initial with
  | mk s fetched =>
    cases fetched with
    | error error => simp
    | ok versions =>
      simp only
      cases hFind : versions.find? fun fv => fv.version == version with
      | none => simp [hFind]
      | some selected =>
        simp only
        cases hDownload : downloadFirmwarePayloads crates http target.info.identifier selected s with
        | mk t downloaded =>
          cases downloaded with
          | error error => simp [hFind, hDownload]
          | ok payloads =>
            simp only
            cases hFlash : flashPayloads flash payloads t with
            | mk u flashed =>
              cases flashed with
              | error error => simp [hFind, hDownload, hFlash]
              | ok _ => simp [hFind, hDownload, hFlash]

theorem flashSucceeds_served
    : FlashSucceeds ⟨fun _ => "", fun _ => some [⟨version, []⟩], fun _ => []⟩ (fun _ => .response 200 (some []))
        (fun _ => .ok ()) target.info.identifier version := by
  refine ⟨_, [⟨version, []⟩], ⟨version, []⟩, _, [], rfl, ?_, rfl, rfl⟩
  simp

variable {target version waiting} in
theorem AnswersForFlashed.flashedAnswers (hAnswers : AnswersForFlashed target version waiting)
    (hRecognised : Recognised target.info (scansMade target.info waiting))
    : FlashedAnswers target (scansMade target.info waiting)
        fun host => Version.fromStr version = .ok host.version := by
  rcases hRecognised with ⟨scan, hMem, hCollected⟩
  rcases mem_scansMade_iff.mp hMem with ⟨k, hScan, hTime, hBefore⟩
  rw [hScan] at hCollected
  rcases hAnswers.notMistaken k hTime hCollected with ⟨m, hLe, hFlashed⟩
  rw [flashedAnswers_scansMade_iff]
  refine ⟨m, ?_, ?_, hFlashed⟩
  . intro l hLt
    exact hTime l (Nat.lt_of_lt_of_le hLt hLe)
  . intro l hLt
    exact hBefore l (Nat.lt_of_lt_of_le hLt hLe)

/--
Only the identifier is compared. So the verification means what it says exactly for these answers.
-/
theorem verifiesFlashed_iff
    : VerifiesFlashed target version waiting ↔ AnswersForFlashed target version waiting := by
  constructor
  . intro hMeans
    constructor
    . intro n hTime hFlashed
      by_contra hNever
      have hBefore : ∀ m < n, ¬ IsCollected target.info (waiting.scan m) := by
        intro m hLt hCollected
        exact hNever ⟨m, fun l hBelow => hTime l (Nat.lt_trans hBelow hLt), hCollected⟩
      have hBack := flashedAnswers_scansMade_iff.mpr ⟨n, hTime, hBefore, hFlashed⟩
      rw [← hMeans.verified, waitForHost_eq_ok_iff, recognised_scansMade_iff] at hBack
      exact hNever hBack
    . intro n hTime hCollected
      have hOk := (updateDevice_eq_ok_iff _ _ _ target version waiting).mpr
        ⟨flashSucceeds_served target version, recognised_scansMade_iff.mpr ⟨n, hTime, hCollected⟩⟩
      rcases flashedAnswers_scansMade_iff.mp (hMeans.updated _ _ _ hOk) with ⟨m, _, hBefore, hFlashed⟩
      refine ⟨m, ?_, hFlashed⟩
      by_contra hAfter
      exact hBefore n (Nat.lt_of_not_le hAfter) hCollected
  . intro hAnswers
    constructor
    . rw [waitForHost_eq_ok_iff]
      constructor
      . intro hRecognised
        rcases hAnswers.flashedAnswers hRecognised with ⟨scan, hScan, runtime, hRuntime, hFlashed, host, hHost, _⟩
        exact ⟨scan, hScan, runtime, hRuntime, hFlashed, host, hHost, trivial⟩
      . intro hBack
        rcases flashedAnswers_scansMade_iff.mp hBack with ⟨n, hTime, _, hFlashed⟩
        exact recognised_scansMade_iff.mpr (hAnswers.recognised n hTime hFlashed)
    . intro crates http flash hOk
      rw [updateDevice_eq_ok_iff] at hOk
      exact hAnswers.flashedAnswers hOk.2

end Device

section Targets

variable {target : EP01UpdateTarget} {waiting : Waiting}

theorem ports_withHostInfo (query : Port → Query) (target : EP01UpdateTarget)
    : (target.withHostInfo query).ports = target.ports := by
  unfold EP01UpdateTarget.withHostInfo
  cases target.ports.head? with
  | none => rfl
  | some port =>
    simp only
    cases (query port).connect with
    | error error => rfl
    | ok _ =>
      simp only
      split
      . rfl
      . rfl

theorem preferredPort_isFlashed {ports : List Port} {query : Port → Query}
    (hTarget : target ∈ EP01UpdateTarget.attached (.ok ports) query)
    : ∃ port, target.preferredPort = some port ∧ port.2.serialNumber.isSome = true
        ∧ port.2.serialNumber = target.macAddress := by
  rcases List.mem_map.mp hTarget with ⟨raw, hRaw, hSame⟩
  have hPartition := EP01UpdateTarget.partition_attachedRaw ports
  have hPorts : target.ports = raw.ports := by
    rw [← hSame]
    exact ports_withHostInfo query raw
  have hNonempty := hPartition.nonempty raw hRaw
  rcases List.exists_cons_of_ne_nil hNonempty with ⟨first, rest, hFirst⟩
  rcases EP01UpdateTarget.preferredPort_of_ne_nil (hPorts ▸ hNonempty) with ⟨port, hMem, hPreferred⟩
  rw [hPorts] at hMem
  have hFirstMem : first ∈ raw.ports := by
    rw [hFirst]
    exact List.mem_cons_self
  have hSerial : (EP01UpdateTarget.serialNumber port).isSome = true := by
    have hCollected := hPartition.collected.mem_iff.mp (List.mem_flatMap.mpr ⟨raw, hRaw, hMem⟩)
    simpa using (List.mem_filter.mp hCollected).2
  have hAttached : port ∈ ports := (hPartition.inOrder raw hRaw).subset hMem
  refine ⟨port, hPreferred, hSerial, ?_⟩
  have hTogether := (hPartition.together raw hRaw first hFirstMem port hAttached).mp hMem
  unfold EP01UpdateTarget.macAddress
  rw [hPorts, hFirst]
  exact hTogether

theorem waitForHost_of_unanswered (hNil : target.info.identifier = 0)
    (hHosts : ∀ n, ∀ runtime ∈ waiting.scan n, ∀ host, runtime.host = .ok host → host.identifier ≠ 0)
    : (waitForHost target.info waiting 0).2 ≠ .ok () := by
  rw [Ne, waitForHost_eq_ok_iff, recognised_scansMade_iff]
  rintro ⟨n, _, runtime, hRuntime, host, hHost, hSame⟩
  rw [hNil] at hSame
  exact hHosts n runtime hRuntime host hHost hSame

end Targets

section Failing

def acmPort : Port := ("/dev/ttyACM0", ⟨0x303A, 0x1001, some "40:4C:CA:00:00:01", none, none⟩)

def silent (_ : Port) : Query := ⟨.ok (), none⟩

def unanswered : EP01UpdateTarget := ⟨⟨⟨0, 0, 0⟩, 0⟩, [acmPort]⟩

def identified : EP01UpdateTarget := ⟨⟨⟨1, 1, 0⟩, 7⟩, [acmPort]⟩

def answering (version : Version) : Waiting where
  scan _ := [⟨some "40:4C:CA:00:00:01", .ok ⟨version, 7⟩⟩]
  elapsed n := n * verifyInterval
  sleep n := by rw [Nat.succ_mul]

theorem mem_scansMade_answering {info : HostInfo} {version : Version} {scan : Scan}
    : scan ∈ scansMade info (answering version) ↔
      scan = [⟨some "40:4C:CA:00:00:01", .ok ⟨version, 7⟩⟩] := by
  constructor
  . intro hMem
    rcases mem_scansMade_iff.mp hMem with ⟨n, hScan, _⟩
    exact hScan
  . intro hScan
    refine mem_scansMade_iff.mpr ⟨0, hScan, ?_, ?_⟩
    . intro m hLt
      contradiction
    . intro m hLt
      contradiction

theorem flashSucceeds_abc : FlashSucceeds abcCrates abcSystem.http abcSystem.flash 7 "1.2.0" := by
  have hHttp : abcSystem.http UpdateState.initial.requests.length = .response 200 (some (utf8 abcManifest)) :=
    rfl
  have hManifest : abcCrates.parseManifest (utf8 abcManifest) = some [abcVersion] := by
    simp only [abcCrates, if_true]
  have hFetch : fetchFirmwareManifest abcCrates abcSystem.http 7 .initial
      = (⟨[manifestUrl abcCrates 7], []⟩, .ok [abcVersion]) := by
    unfold fetchFirmwareManifest UpdateState.get
    rw [hHttp]
    simp only [Option.bind_some, hManifest]
    rfl
  exact ⟨_, _, abcVersion,
    ⟨[manifestUrl abcCrates 7, payloadUrl abcCrates 7 ⟨131072, 3, "ep01.bin", ""⟩], []⟩, [(131072, abc)],
    hFetch, rfl, rfl, rfl⟩

/-
The flashed device is back with the new version, and is not recognised; and the old version is accepted.
-/
theorem not_verifiesFlashed
    : unanswered ∈ EP01UpdateTarget.attached (.ok [acmPort]) silent
        ∧
      ¬ VerifiesFlashed unanswered "1.2.0" (answering ⟨1, 2, 0⟩)
        ∧
      identified ∈
        EP01UpdateTarget.attached (.ok [acmPort]) (fun _ => ⟨.ok (), some (.ok ⟨⟨1, 1, 0⟩, 7⟩)⟩)
        ∧
      ¬ VerifiesFlashed identified "1.2.0" (answering ⟨1, 1, 0⟩) := by
  refine ⟨List.mem_singleton_self _, ?_, List.mem_singleton_self _, ?_⟩
  . intro hMeans
    have hBack : FlashedAnswers unanswered (scansMade unanswered.info (answering ⟨1, 2, 0⟩)) fun _ => True :=
      ⟨_, mem_scansMade_answering.mpr rfl, _, List.mem_singleton_self _, ⟨rfl, rfl⟩, _, rfl, trivial⟩
    refine waitForHost_of_unanswered rfl ?_ (hMeans.verified.mpr hBack)
    intro n runtime hRuntime host hHost
    rw [List.mem_singleton.mp hRuntime] at hHost
    injection hHost with hHost
    rw [← hHost]
    decide
  . intro hMeans
    have hOk : (updateDevice abcCrates
        (systemOf abcSystem.http abcSystem.flash identified.info (answering ⟨1, 1, 0⟩)) identified.info
        "1.2.0").2 = .ok () := by
      rw [updateDevice_eq_ok_iff]
      exact ⟨flashSucceeds_abc, _, mem_scansMade_answering.mpr rfl, _, List.mem_singleton_self _, _, rfl, rfl⟩
    rcases hMeans.updated _ _ _ hOk with ⟨scan, hScan, runtime, hRuntime, _, host, hHost, hVersion⟩
    rw [mem_scansMade_answering.mp hScan] at hRuntime
    rw [List.mem_singleton.mp hRuntime] at hHost
    injection hHost with hHost
    rw [← hHost] at hVersion
    revert hVersion
    decide +kernel

end Failing

end Update
end Enody
