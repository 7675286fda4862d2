import Enody.Update.Impl
import Enody.Serde.Deserializer

/-!
This module contains when a device is flashed and with what: only when all payloads of the requested version
have been downloaded and have the length and the digest of the manifest, and then with exactly these.
-/

namespace Enody
namespace Update

open Serde (utf8)

variable {crates : Crates} {http : Nat → HttpOutcome} {hostId : Identifier}
  {payload : FirmwarePayload} {data : List UInt8} {s : UpdateState}

def ShortBodies (http : Nat → HttpOutcome) : Prop :=
  ∀ n status data, http n = .response status (some data) → data.length < 2 ^ 32

structure Downloaded (crates : Crates) (payload : FirmwarePayload) (outcome : HttpOutcome)
    (data : List UInt8) : Prop where
  success : ∃ status, isSuccess status = true ∧ outcome = .response status (some data)
  length : data.length = payload.length.toNat
  sha256 : lowerHex (crates.sha256 data) = payload.sha256

/-
The payloads are the outcomes of the requests from `n` on, in order, each with the offset of the manifest.
-/
def AllDownloaded (crates : Crates) (http : Nat → HttpOutcome)
    : List FirmwarePayload → Nat → List (UInt32 × List UInt8) → Prop
  | [], _, pairs => pairs = []
  | payload :: payloads, n, pairs =>
    ∃ data rest,
      pairs = (payload.offset, data) :: rest
        ∧
      Downloaded crates payload (http n) data
        ∧
      AllDownloaded crates http payloads (n + 1) rest

/--
The first request yields the manifest, `selected` is its first entry with the version, and the following
requests yield its payloads.
-/
structure VerifiedEntry (crates : Crates) (http : Nat → HttpOutcome) (version : String)
    (selected : FirmwareVersion) (pairs : List (UInt32 × List UInt8)) : Prop where
  manifest : ∃ status body versions,
    isSuccess status = true
      ∧
    http 0 = .response status (some body)
      ∧
    crates.parseManifest body = some versions
      ∧
    versions.find? (fun fv => fv.version == version) = some selected
  payloads : AllDownloaded crates http selected.payload 1 pairs

/--
What an update promises, where `s` and `result` are its outcome.
-/
structure FlashesVerified (crates : Crates) (http : Nat → HttpOutcome) (hostId : Identifier)
    (version : String) (s : UpdateState) (result : Except (Error .std) Unit) : Prop where
  once : s.flashed.length ≤ 1
  verified : ∀ pairs, pairs ∈ s.flashed ↔ ∃ selected, VerifiedEntry crates http version selected pairs
  requests : ∀ pairs ∈ s.flashed, ∃ selected,
    VerifiedEntry crates http version selected pairs
      ∧
    s.requests = manifestUrl crates hostId :: selected.payload.map (payloadUrl crates hostId)
  otherwise : s.flashed = [] → ∃ error, result = .error error

theorem Downloaded.unique {outcome : HttpOutcome} {other : List UInt8}
    (h : Downloaded crates payload outcome data) (hOther : Downloaded crates payload outcome other)
    : other = data := by
  rcases h.success with ⟨status, _, hOutcome⟩
  rcases hOther.success with ⟨_, _, hSame⟩
  rw [hOutcome] at hSame
  injection hSame with _ hSame
  injection hSame with hSame
  exact hSame.symm

theorem AllDownloaded.unique {payloads : List FirmwarePayload} {n : Nat}
    {pairs others : List (UInt32 × List UInt8)} (h : AllDownloaded crates http payloads n pairs)
    (hOthers : AllDownloaded crates http payloads n others)
    : others = pairs := by
  induction payloads generalizing n pairs others with
  | nil => exact Eq.trans hOthers (Eq.symm h)
  | cons payload payloads ih =>
    rcases h with ⟨data, rest, hPairs, hData, hRest⟩
    rcases hOthers with ⟨other, more, hMore, hOther, hOthers⟩
    rw [hPairs, hMore, hData.unique hOther, ih hRest hOthers]

theorem VerifiedEntry.find?_eq {version : String} {selected : FirmwareVersion}
    {pairs : List (UInt32 × List UInt8)} {status : Nat} {body : List UInt8}
    {versions : List FirmwareVersion} (hEntry : VerifiedEntry crates http version selected pairs)
    (hHttp : http 0 = .response status (some body)) (hParse : crates.parseManifest body = some versions)
    : versions.find? (fun fv => fv.version == version) = some selected := by
  rcases hEntry.manifest with ⟨_, other, others, _, hHttp', hParse', hFind⟩
  rw [hHttp] at hHttp'
  injection hHttp' with _ hBody
  injection hBody with hBody
  rw [← hBody, hParse] at hParse'
  injection hParse' with hVersions
  rw [hVersions]
  exact hFind

theorem VerifiedEntry.unique {version : String} {selected other : FirmwareVersion}
    {pairs others : List (UInt32 × List UInt8)}
    (h : VerifiedEntry crates http version selected pairs)
    (hOther : VerifiedEntry crates http version other others)
    : others = pairs := by
  rcases h.manifest with ⟨status, body, versions, _, hHttp, hParse, hFind⟩
  have hSelected : some selected = some other := by
    rw [← hFind]
    exact hOther.find?_eq hHttp hParse
  injection hSelected with hSelected
  subst hSelected
  exact h.payloads.unique hOther.payloads

theorem length_eq_iff {length : UInt32} (hShort : data.length < 2 ^ 32)
    : UInt32.ofNat data.length = length ↔ data.length = length.toNat := by
  constructor
  . intro hEq
    rw [← hEq, UInt32.toNat_ofNat_of_lt' hShort]
  . intro hEq
    rw [hEq, UInt32.ofNat_toNat]

theorem checkPayload_spec (hShort : data.length < 2 ^ 32)
    : (checkPayload crates payload data = .ok data
        ∧ data.length = payload.length.toNat ∧ lowerHex (crates.sha256 data) = payload.sha256)
        ∨
      ((∃ error, checkPayload crates payload data = .error error)
        ∧ ¬ (data.length = payload.length.toNat
          ∧ lowerHex (crates.sha256 data) = payload.sha256)) := by
  unfold checkPayload
  split
  . next hLength =>
    right
    refine ⟨⟨_, rfl⟩, ?_⟩
    rintro ⟨hEq, _⟩
    exact hLength ((length_eq_iff hShort).mpr hEq)
  . next hLength =>
    have hEq := (length_eq_iff hShort).mp (Decidable.not_not.mp hLength)
    simp only
    split
    . next hHash =>
      right
      refine ⟨⟨_, rfl⟩, ?_⟩
      rintro ⟨_, hSame⟩
      exact hHash hSame
    . next hHash => exact .inl ⟨rfl, hEq, Decidable.not_not.mp hHash⟩

theorem downloadPayload_spec (hShort : ShortBodies http) (payload : FirmwarePayload) (s : UpdateState)
    : ∃ result,
        downloadPayload crates http hostId payload s
          = (⟨s.requests ++ [payloadUrl crates hostId payload], s.flashed⟩, result)
          ∧
        ((∃ data, result = .ok data ∧ Downloaded crates payload (http s.requests.length) data)
          ∨
        ((∃ error, result = .error error)
          ∧ ∀ data, ¬ Downloaded crates payload (http s.requests.length) data)) := by
  unfold downloadPayload UpdateState.get
  cases hHttp : http s.requests.length with
  | requestError =>
    refine ⟨_, rfl, .inr ⟨⟨_, rfl⟩, ?_⟩⟩
    intro data hData
    rcases hData.success with ⟨_, _, hOutcome⟩
    contradiction
  | response status body =>
    simp only
    cases hStatus : isSuccess status with
    | false =>
      refine ⟨_, rfl, .inr ⟨⟨_, rfl⟩, ?_⟩⟩
      intro data hData
      rcases hData.success with ⟨other, hOther, hOutcome⟩
      injection hOutcome with hSame _
      rw [← hSame, hStatus] at hOther
      contradiction
    | true =>
      cases body with
      | none =>
        refine ⟨_, rfl, .inr ⟨⟨_, rfl⟩, ?_⟩⟩
        intro data hData
        rcases hData.success with ⟨_, _, hOutcome⟩
        injection hOutcome with _ hSame
        contradiction
      | some data =>
        refine ⟨_, rfl, ?_⟩
        rcases checkPayload_spec (hShort _ _ _ hHttp) with ⟨hOk, hLength, hHash⟩ | ⟨hError, hNot⟩
        . exact .inl ⟨data, hOk, ⟨status, hStatus, rfl⟩, hLength, hHash⟩
        . right
          refine ⟨hError, ?_⟩
          intro other hOther
          rcases hOther.success with ⟨_, _, hOutcome⟩
          injection hOutcome with _ hSame
          injection hSame with hSame
          subst hSame
          exact hNot ⟨hOther.length, hOther.sha256⟩

/-
The induction is on the payloads that remain: the first failure ends the download, otherwise all are
verified.
-/
theorem go_spec (hShort : ShortBodies http) (payloads : List FirmwarePayload)
    (pairs : List (UInt32 × List UInt8)) (s : UpdateState)
    : (∃ more,
        downloadFirmwarePayloads.go crates http hostId pairs payloads s
          = (⟨s.requests ++ payloads.map (payloadUrl crates hostId), s.flashed⟩, .ok (pairs ++ more))
          ∧
        AllDownloaded crates http payloads s.requests.length more)
        ∨
      (∃ t error,
        downloadFirmwarePayloads.go crates http hostId pairs payloads s = (t, .error error)
          ∧
        t.flashed = s.flashed
          ∧
        ∀ more, ¬ AllDownloaded crates http payloads s.requests.length more) := by
  induction payloads generalizing pairs s with
  | nil =>
    left
    exact ⟨[], by simp [downloadFirmwarePayloads.go], rfl⟩
  | cons payload payloads ih =>
    rcases downloadPayload_spec hShort payload s with ⟨result, hDownload, hData | hError⟩
    . rcases hData with ⟨data, hOk, hData⟩
      have hLength : (s.requests ++ [payloadUrl crates hostId payload]).length
          = s.requests.length + 1 := by simp
      rw [downloadFirmwarePayloads.go, hDownload, hOk]
      rcases ih (pairs ++ [(payload.offset, data)])
          ⟨s.requests ++ [payloadUrl crates hostId payload], s.flashed⟩ with hAll | hFails
      . rcases hAll with ⟨more, hGo, hMore⟩
        left
        refine ⟨(payload.offset, data) :: more, ?_, data, more, rfl, hData, ?_⟩
        . simp only
          rw [hGo]
          simp
        . rw [hLength] at hMore
          exact hMore
      . rcases hFails with ⟨t, error, hGo, hFlashed, hNone⟩
        right
        refine ⟨t, error, hGo, hFlashed, ?_⟩
        rintro more ⟨other, rest, _, _, hRest⟩
        rw [hLength] at hNone
        exact hNone rest hRest
    . rcases hError with ⟨⟨error, hResult⟩, hNone⟩
      right
      rw [downloadFirmwarePayloads.go, hDownload, hResult]
      refine ⟨_, error, rfl, rfl, ?_⟩
      rintro more ⟨other, rest, _, hOther, _⟩
      exact hNone other hOther

theorem FlashesVerified.of_error {version : String} {result : Except (Error .std) Unit} {error : Error .std}
    (hFlashed : s.flashed = []) (hResult : result = .error error)
    (hNone : ∀ selected pairs, ¬ VerifiedEntry crates http version selected pairs)
    : FlashesVerified crates http hostId version s result := by
  constructor
  . simp [hFlashed]
  . intro pairs
    rw [hFlashed]
    constructor
    . intro hMem
      contradiction
    . rintro ⟨selected, hEntry⟩
      exact absurd hEntry (hNone selected pairs)
  . intro pairs hMem
    rw [hFlashed] at hMem
    contradiction
  . intro _
    exact ⟨error, hResult⟩

theorem FlashesVerified.of_entry {version : String} {result : Except (Error .std) Unit}
    {selected : FirmwareVersion} {pairs : List (UInt32 × List UInt8)}
    (hEntry : VerifiedEntry crates http version selected pairs) (hFlashed : s.flashed = [pairs])
    (hRequests : s.requests
      = manifestUrl crates hostId :: selected.payload.map (payloadUrl crates hostId))
    : FlashesVerified crates http hostId version s result := by
  constructor
  . simp [hFlashed]
  . intro others
    rw [hFlashed, List.mem_singleton]
    constructor
    . intro hOthers
      exact ⟨selected, hOthers ▸ hEntry⟩
    . rintro ⟨other, hOther⟩
      exact hEntry.unique hOther
  . intro others hMem
    rw [hFlashed, List.mem_singleton] at hMem
    exact ⟨selected, hMem ▸ hEntry, hRequests⟩
  . intro hNone
    rw [hFlashed] at hNone
    contradiction

theorem fetchFirmwareManifest_spec (crates : Crates) (http : Nat → HttpOutcome) (hostId : Identifier)
    : ∃ result,
        fetchFirmwareManifest crates http hostId .initial = (⟨[manifestUrl crates hostId], []⟩, result)
          ∧
        ((∃ status body versions,
            result = .ok versions
              ∧
            isSuccess status = true
              ∧
            http 0 = .response status (some body)
              ∧
            crates.parseManifest body = some versions)
          ∨
        ((∃ error, result = .error error)
          ∧ ∀ status body versions, isSuccess status = true → http 0 = .response status (some body)
            → crates.parseManifest body ≠ some versions)) := by
  unfold fetchFirmwareManifest UpdateState.get UpdateState.initial
  simp only [List.length_nil, List.nil_append]
  cases hHttp : http 0 with
  | requestError =>
    refine ⟨_, rfl, .inr ⟨⟨_, rfl⟩, ?_⟩⟩
    intro status body versions _ hOutcome
    contradiction
  | response status body =>
    simp only
    cases hStatus : isSuccess status with
    | false =>
      refine ⟨_, rfl, .inr ⟨⟨_, rfl⟩, ?_⟩⟩
      intro other _ _ hOther hOutcome
      injection hOutcome with hSame _
      rw [← hSame, hStatus] at hOther
      contradiction
    | true =>
      cases hParse : body.bind crates.parseManifest with
      | none =>
        refine ⟨_, rfl, .inr ⟨⟨_, rfl⟩, ?_⟩⟩
        intro _ data versions _ hOutcome hVersions
        injection hOutcome with _ hBody
        rw [hBody, Option.bind_some, hVersions] at hParse
        contradiction
      | some versions =>
        rcases Option.bind_eq_some_iff.mp hParse with ⟨data, hBody, hVersions⟩
        rw [hBody]
        exact ⟨_, rfl, .inl ⟨status, data, versions, rfl, hStatus, rfl, hVersions⟩⟩

/--
`flash_payloads` is called at most once: with the verified payloads of the first entry that has the version,
if there is such an entry and its downloads are all what the manifest says. Otherwise there is no call and an
error.
-/
theorem updateDevice_flashed (crates : Crates) (system : System) (info : Message.HostInfo)
    (version : String) (hShort : ShortBodies system.http)
    : FlashesVerified crates system.http info.identifier version
        (updateDevice crates system info version).1 (updateDevice crates system info version).2 := by
  rcases fetchFirmwareManifest_spec crates system.http info.identifier
    with ⟨result, hFetch, hManifest | hNoManifest⟩
  . rcases hManifest with ⟨status, body, versions, hResult, hStatus, hHttp, hParse⟩
    unfold updateDevice
    rw [hFetch, hResult]
    simp only
    cases hFind : versions.find? fun fv => fv.version == version with
    | none =>
      refine .of_error rfl rfl ?_
      intro selected pairs hEntry
      have hSome := hEntry.find?_eq hHttp hParse
      rw [hFind] at hSome
      contradiction
    | some selected =>
      simp only
      rcases go_spec hShort selected.payload [] ⟨[manifestUrl crates info.identifier], []⟩
        with ⟨pairs, hGo, hPairs⟩ | ⟨t, error, hGo, hFlashed, hNone⟩
      . have hEntry : VerifiedEntry crates system.http version selected pairs :=
          ⟨⟨status, body, versions, hStatus, hHttp, hParse, hFind⟩, hPairs⟩
        unfold downloadFirmwarePayloads
        rw [hGo]
        unfold flashPayloads
        simp only [List.nil_append, List.singleton_append]
        cases (if pairs.isEmpty then .ok () else system.flash pairs : Except (Error .std) Unit) with
        | error error => exact .of_entry hEntry rfl rfl
        | ok => exact .of_entry hEntry rfl rfl
      . unfold downloadFirmwarePayloads
        rw [hGo]
        refine .of_error hFlashed rfl ?_
        intro other pairs hEntry
        have hSome := hEntry.find?_eq hHttp hParse
        rw [hFind] at hSome
        injection hSome with hSome
        subst hSome
        exact hNone pairs hEntry.payloads
  . rcases hNoManifest with ⟨⟨error, hResult⟩, hNone⟩
    unfold updateDevice
    rw [hFetch, hResult]
    refine .of_error rfl rfl ?_
    intro selected pairs hEntry
    rcases hEntry.manifest with ⟨status, body, versions, hStatus, hHttp, hParse, _⟩
    exact hNone status body versions hStatus hHttp hParse

section OneVersion

def abc : List UInt8 := [97, 98, 99]

def abcDigest : List UInt8 :=
  [186, 120, 22, 191, 143, 1, 207, 234, 65, 65, 64, 222, 93, 174, 34, 35,
   176, 3, 97, 163, 150, 23, 122, 156, 180, 16, 255, 97, 242, 0, 21, 173]

def abcVersion : FirmwareVersion :=
  ⟨"1.2.0", [⟨131072, 3, "ep01.bin",
    "ba7816bf8f01cfea414140de5dae2223b00361a396177a9cb410ff61f20015ad"⟩]⟩

def abcManifest : String :=
  "[\x7b\"version\":\"1.2.0\",\"payload\":[\x7b\"offset\":131072,\"length\":3,\"data\":\"ep01.bin\","
    ++ "\"sha256\":\"ba7816bf8f01cfea414140de5dae2223b00361a396177a9cb410ff61f20015ad\"\x7d]\x7d]"

def abcCrates : Crates where
  displayIdentifier _ := "00000000-0000-0000-0000-000000000007"
  parseManifest body := if body = utf8 abcManifest then some [abcVersion] else none
  sha256 data := if data = abc then abcDigest else []

def abcSystem : System where
  http
    | 0 => .response 200 (some (utf8 abcManifest))
    | 1 => .response 200 (some abc)
    | _ => .requestError
  flash _ := .ok ()
  scans := []

theorem shortBodies_abcSystem : ShortBodies abcSystem.http := by
  intro n status data hHttp
  match n with
  | 0 =>
    injection hHttp with _ hData
    injection hData with hData
    rw [← hData]
    decide +kernel
  | 1 =>
    injection hHttp with _ hData
    injection hData with hData
    rw [← hData]
    decide
  | n + 2 => contradiction

theorem updateDevice_flashed_abc
    : FlashesVerified abcCrates abcSystem.http 7 "1.2.0"
        (updateDevice abcCrates abcSystem ⟨⟨1, 1, 0⟩, 7⟩ "1.2.0").1
        (updateDevice abcCrates abcSystem ⟨⟨1, 1, 0⟩, 7⟩ "1.2.0").2
      ∧
    (updateDevice abcCrates abcSystem ⟨⟨1, 1, 0⟩, 7⟩ "1.2.0").1.flashed = [[(131072, abc)]] :=
  ⟨updateDevice_flashed abcCrates abcSystem ⟨⟨1, 1, 0⟩, 7⟩ "1.2.0" shortBodies_abcSystem,
    by decide +kernel⟩

end OneVersion

end Update
end Enody
