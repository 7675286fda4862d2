import Enody.Update.Impl.Flow
import Enody.Update.Lemmas.Selection
import Enody.Update.Lemmas.Verify

/-!
This module contains what the update command does to the attached devices, whatever the terminals, the files, the
firmware service and the ports yield: nothing happens on a port but the flashing of verified firmware to the one
device that has been picked, and only when the operator has agreed to the devices that do not answer.
-/

namespace Enody
namespace Update

open Message (HostInfo Version)

def Stdio.Typed (stdio : Stdio) (line : String) : Prop := stdio.flush = .ok () ∧ stdio.readLine = .ok line

namespace FlowSystem

variable (system : FlowSystem)

def Declined (force : Bool) : Prop :=
  force = false
    ∧
  (∃ target ∈ system.attached, target.info.identifier = 0)
    ∧
  ∃ line, system.confirmation.Typed line ∧ Wifi.eqIgnoreAsciiCase (trim line) "y" = false

def Confirmed (force : Bool) : Prop :=
  force = true
    ∨
  (∀ target ∈ system.attached, target.info.identifier ≠ 0)
    ∨
  ∃ line, system.confirmation.Typed line ∧ Wifi.eqIgnoreAsciiCase (trim line) "y" = true

def Picked (target : EP01UpdateTarget) : Prop :=
  ∃ line n, system.device.Typed line ∧ parseUsize (trim line) = some (n + 1) ∧ system.attached[n]? = some target

end FlowSystem

/--
The payloads are the local image at its offset, or all payloads of the version that has been picked from the
manifest of the host, each downloaded with the length and the digest of the manifest.
-/
inductive Resolves (crates : Crates) (system : FlowSystem) (info : HostInfo)
    : Option String → List (UInt32 × List UInt8) → Prop where
  | image {path absolutePath : String} {image : List UInt8} :
      system.files.canonicalize path = .ok absolutePath → system.files.isFile absolutePath = true →
        system.files.read absolutePath = .ok image →
        Resolves crates system info (some path) [(firmwareFlashOffset, image)]
  | manifest {status : Nat} {body : List UInt8} {versions : List FirmwareVersion} {line : String} {idx : Nat}
      {selected : FirmwareVersion} {payloads : List (UInt32 × List UInt8)} :
      isSuccess status = true → system.http 0 = .response status (some body) →
        crates.parseManifest body = some versions → system.version.Typed line →
        Update.selected versions info.version line = some idx → versions[idx]? = some selected →
        AllDownloaded crates system.http selected.payload 1 payloads →
        Resolves crates system info none payloads

structure Settled (crates : Crates) (system : FlowSystem) (firmware : Option String) (force : Bool)
    (target : EP01UpdateTarget) (payloads : List (UInt32 × List UInt8)) : Prop where
  confirmed : system.Confirmed force
  picked : system.Picked target
  resolves : Resolves crates system target.info firmware payloads

section Prompts

variable {stdio : Stdio} {line : String}

theorem promptLine_eq_ok_iff {flushFailed readFailed : String}
    : stdio.promptLine flushFailed readFailed = .ok line ↔ stdio.Typed line := by
  unfold Stdio.promptLine Stdio.Typed
  cases stdio.flush with
  | error detail => simp
  | ok _ => cases stdio.readLine <;> simp

theorem chosenDevice_eq_ok_iff {hosts : List EP01UpdateTarget} {target : EP01UpdateTarget}
    : chosenDevice hosts line = .ok target
        ↔
      ∃ n, parseUsize (trim line) = some (n + 1) ∧ hosts[n]? = some target := by
  unfold chosenDevice
  cases hParse : parseUsize (trim line) with
  | none => simp
  | some parsed =>
    simp only [Option.some.injEq]
    split
    . next hRange =>
      constructor
      . intro h
        contradiction
      . rintro ⟨n, hN, hTarget⟩
        have hLt := (List.getElem?_eq_some_iff.mp hTarget).1
        omega
    . next hRange =>
      have hLt : parsed - 1 < hosts.length := by omega
      constructor
      . intro h
        injection h with h
        exact ⟨parsed - 1, by omega, by rw [← h, List.getElem?_eq_getElem hLt, List.get_eq_getElem]⟩
      . rintro ⟨n, hN, hTarget⟩
        subst hN
        rw [Nat.add_sub_cancel] at hLt
        rw [List.getElem?_eq_getElem hLt] at hTarget
        injection hTarget with hTarget
        simp [← hTarget]

theorem selectUpdateTarget_eq_ok_iff {system : FlowSystem} {displayIdentifier : Identifier → String}
    {target : EP01UpdateTarget}
    : (selectUpdateTarget displayIdentifier system.device system.attached).2 = .ok target
        ↔
      system.Picked target := by
  unfold selectUpdateTarget FlowSystem.Picked
  split
  . next hEmpty =>
    rw [List.isEmpty_iff] at hEmpty
    simp [hEmpty]
  . cases hLine : system.device.promptLine "Failed to flush stdout for selection prompt"
      "Failed to read host selection" with
    | error error =>
      constructor
      . intro h
        contradiction
      . rintro ⟨line, n, hTyped, _⟩
        rw [promptLine_eq_ok_iff.mpr hTyped] at hLine
        contradiction
    | ok line =>
      simp only [chosenDevice_eq_ok_iff]
      have hTyped := promptLine_eq_ok_iff.mp hLine
      constructor
      . rintro ⟨n, hParse, hTarget⟩
        exact ⟨line, n, hTyped, hParse, hTarget⟩
      . rintro ⟨other, n, hOther, hParse, hTarget⟩
        have hSame : other = line := by
          have hRead := hOther.2
          rw [hTyped.2] at hRead
          injection hRead with hRead
          exact hRead.symm
        subst hSame
        exact ⟨n, hParse, hTarget⟩

theorem selectFirmwareVersion_eq_ok_iff {versions : List FirmwareVersion} {currentVersion : Version} {idx : Nat}
    : (selectFirmwareVersion stdio versions currentVersion).2 = .ok idx
        ↔
      ∃ line, stdio.Typed line ∧ selected versions currentVersion line = some idx := by
  have hSame : (selectFirmwareVersion stdio versions currentVersion).2 = .ok idx → stdio.flush = .ok () := by
    unfold selectFirmwareVersion
    intro hOk
    split at hOk
    . contradiction
    . split at hOk
      . contradiction
      . cases hFlush : stdio.flush with
        | error detail =>
          rw [hFlush] at hOk
          contradiction
        | ok _ => rfl
  constructor
  . intro hOk
    rcases selected_of_ok hOk with ⟨line, hLine, hSelected⟩
    exact ⟨line, ⟨hSame hOk, hLine⟩, hSelected⟩
  . rintro ⟨line, ⟨hFlush, hLine⟩, hSelected⟩
    have hStdio : stdio = ⟨.ok (), .ok line⟩ := by
      cases stdio
      simp only at hFlush hLine
      rw [hFlush, hLine]
    unfold selected at hSelected
    rw [hStdio]
    cases hResult : (selectFirmwareVersion ⟨.ok (), .ok line⟩ versions currentVersion).2 with
    | error error =>
      rw [hResult] at hSelected
      contradiction
    | ok other =>
      rw [hResult] at hSelected
      injection hSelected with hSelected
      rw [hSelected]

end Prompts

section Resolve

variable {crates : Crates} {system : FlowSystem} {info : HostInfo} {firmware : Option String}

def Supplies (files : Files) : ResolvedFirmware → List (UInt32 × List UInt8) → Prop
  | .localFile path, payloads => ∃ image, files.read path = .ok image ∧ payloads = [(firmwareFlashOffset, image)]
  | .payloads found, payloads => payloads = found

theorem resolves_image_iff {path : String} {payloads : List (UInt32 × List UInt8)}
    : Resolves crates system info (some path) payloads
        ↔
      ∃ absolutePath image, system.files.canonicalize path = .ok absolutePath
        ∧ system.files.isFile absolutePath = true ∧ system.files.read absolutePath = .ok image
        ∧ payloads = [(firmwareFlashOffset, image)] := by
  constructor
  . intro h
    cases h with
    | image hPath hFile hRead => exact ⟨_, _, hPath, hFile, hRead, rfl⟩
  . rintro ⟨absolutePath, image, hPath, hFile, hRead, hPayloads⟩
    rw [hPayloads]
    exact .image hPath hFile hRead

theorem resolves_manifest_iff {status : Nat} {body : List UInt8} {versions : List FirmwareVersion}
    {payloads : List (UInt32 × List UInt8)} (hStatus : isSuccess status = true)
    (hHttp : system.http 0 = .response status (some body)) (hParse : crates.parseManifest body = some versions)
    : Resolves crates system info none payloads
        ↔
      ∃ idx selected, (selectFirmwareVersion system.version versions info.version).2 = .ok idx
        ∧ versions[idx]? = some selected ∧ AllDownloaded crates system.http selected.payload 1 payloads := by
  constructor
  . intro h
    cases h with
    | manifest _ hHttp' hParse' hTyped hSelected hEntry hPayloads =>
      rw [hHttp] at hHttp'
      injection hHttp' with _ hBody
      injection hBody with hBody
      rw [← hBody, hParse] at hParse'
      injection hParse' with hVersions
      subst hVersions
      exact ⟨_, _, selectFirmwareVersion_eq_ok_iff.mpr ⟨_, hTyped, hSelected⟩, hEntry, hPayloads⟩
  . rintro ⟨idx, selected, hSelect, hEntry, hPayloads⟩
    rcases selectFirmwareVersion_eq_ok_iff.mp hSelect with ⟨line, hTyped, hSelected⟩
    exact .manifest hStatus hHttp hParse hTyped hSelected hEntry hPayloads

/--
What the firmware supplies is what the command is to flash, and no firmware means that there is nothing.
-/
structure ResolvesTo (crates : Crates) (system : FlowSystem) (info : HostInfo) (firmware : Option String)
    (result : Except (Error .std) ResolvedFirmware) : Prop where
  supplies : ∀ resolved, result = .ok resolved → ∀ payloads,
    Resolves crates system info firmware payloads ↔ Supplies system.files resolved payloads
  nothing : ∀ error, result = .error error → ∀ payloads, ¬ Resolves crates system info firmware payloads

theorem ResolvesTo.of_error {error : Error .std}
    (h : ∀ payloads, ¬ Resolves crates system info firmware payloads)
    : ResolvesTo crates system info firmware (.error error) where
  supplies _ hOk := by contradiction
  nothing _ _ := h

theorem resolveFirmware_image (path : String)
    : ∃ result, (resolveFirmware crates system info.identifier info.version (some path)).2.2 = some result
        ∧ ResolvesTo crates system info (some path) result := by
  unfold resolveFirmware
  simp only
  cases hPath : system.files.canonicalize path with
  | error detail =>
    refine ⟨_, rfl, .of_error fun payloads h => ?_⟩
    rcases resolves_image_iff.mp h with ⟨_, _, hOther, _⟩
    rw [hPath] at hOther
    contradiction
  | ok absolutePath =>
    simp only
    split
    . next hFile =>
      refine ⟨_, rfl, ?_, fun _ hError => by contradiction⟩
      intro resolved hResolved payloads
      injection hResolved with hResolved
      rw [resolves_image_iff, ← hResolved]
      constructor
      . rintro ⟨other, image, hOther, _, hRead, hPayloads⟩
        rw [hPath] at hOther
        injection hOther with hOther
        exact ⟨image, hOther ▸ hRead, hPayloads⟩
      . rintro ⟨image, hRead, hPayloads⟩
        exact ⟨absolutePath, image, hPath, hFile, hRead, hPayloads⟩
    . next hFile =>
      refine ⟨_, rfl, .of_error fun payloads h => ?_⟩
      rcases resolves_image_iff.mp h with ⟨other, _, hOther, hOtherFile, _⟩
      rw [hPath] at hOther
      injection hOther with hOther
      exact hFile (hOther ▸ hOtherFile)

theorem exists_of_selectFirmwareVersion {stdio : Stdio} {versions : List FirmwareVersion} {version : Version}
    {idx : Nat} (h : (selectFirmwareVersion stdio versions version).2 = .ok idx)
    : ∃ selected, versions[idx]? = some selected := by
  rcases selectFirmwareVersion_eq_ok_iff.mp h with ⟨_, _, hSelected⟩
  rcases mem_displayOrder.mp (selected_mem hSelected) with ⟨_, selected, hEntry, _⟩
  exact ⟨selected, hEntry⟩

theorem resolveFirmware_manifest (hShort : ShortBodies system.http)
    : ∃ result, (resolveFirmware crates system info.identifier info.version none).2.2 = some result
        ∧ ResolvesTo crates system info none result := by
  unfold resolveFirmware
  rcases fetchFirmwareManifest_spec crates system.http info.identifier
    with ⟨fetched, hFetch, hManifest | ⟨⟨error, hResult⟩, hNone⟩⟩
  . rcases hManifest with ⟨status, body, versions, hResult, hStatus, hHttp, hParse⟩
    rw [hFetch, hResult]
    simp only
    have hIff {payloads : List (UInt32 × List UInt8)} := @resolves_manifest_iff crates system info _ _ _ payloads
      hStatus hHttp hParse
    cases hSelect : selectFirmwareVersion system.version versions info.version with
    | mk printed selection =>
      cases selection with
      | error error =>
        refine ⟨_, rfl, .of_error fun payloads h => ?_⟩
        rcases hIff.mp h with ⟨_, _, hOk, _⟩
        rw [hSelect] at hOk
        contradiction
      | ok idx =>
        have hOk : (selectFirmwareVersion system.version versions info.version).2 = .ok idx := by rw [hSelect]
        rcases exists_of_selectFirmwareVersion hOk with ⟨selected, hEntry⟩
        simp only [hEntry]
        -- the line and the entry are settled, the downloads are left
        have hDownloads {payloads : List (UInt32 × List UInt8)}
            : Resolves crates system info none payloads
              ↔ AllDownloaded crates system.http selected.payload 1 payloads := by
          rw [hIff]
          constructor
          . rintro ⟨other, otherSelected, hOther, hOtherEntry, hPayloads⟩
            rw [hOk] at hOther
            injection hOther with hOther
            rw [← hOther, hEntry] at hOtherEntry
            injection hOtherEntry with hOtherEntry
            rw [hOtherEntry]
            exact hPayloads
          . exact fun hPayloads => ⟨idx, selected, hOk, hEntry, hPayloads⟩
        unfold downloadFirmwarePayloads
        rcases go_spec hShort selected.payload [] ⟨[manifestUrl crates info.identifier], []⟩
          with ⟨pairs, hGo, hPairs⟩ | ⟨t, error, hGo, _, hNone⟩
        . rw [hGo]
          refine ⟨_, rfl, ?_, fun _ hError => by contradiction⟩
          intro resolved hResolved payloads
          injection hResolved with hResolved
          rw [hDownloads, ← hResolved]
          constructor
          . intro hOther
            exact hPairs.unique hOther
          . intro hSame
            rw [hSame]
            exact hPairs
        . rw [hGo]
          exact ⟨_, rfl, .of_error fun payloads h => hNone payloads (hDownloads.mp h)⟩
  . rw [hFetch, hResult]
    refine ⟨_, rfl, .of_error fun payloads h => ?_⟩
    cases h with
    | manifest hStatus hHttp hParse => exact hNone _ _ _ hStatus hHttp hParse

theorem resolveFirmware_spec (hShort : ShortBodies system.http)
    : ∃ result, (resolveFirmware crates system info.identifier info.version firmware).2.2 = some result
        ∧ ResolvesTo crates system info firmware result := by
  cases firmware with
  | none => exact resolveFirmware_manifest hShort
  | some path => exact resolveFirmware_image path

end Resolve

section Ports

variable {espflash : Espflash} {target : EP01UpdateTarget} {port : Port}
  {payloads : List (UInt32 × List UInt8)}

theorem perform_eq_ok_iff (calls : List PortCall)
    : (perform espflash calls).2 = .ok () ↔ ∀ call ∈ calls, espflash call = .ok () := by
  induction calls with
  | nil => simp [perform]
  | cons call calls ih =>
    rw [perform, List.forall_mem_cons]
    cases espflash call with
    | error detail => simp
    | ok _ => simp [ih]

theorem perform_isPrefix (calls : List PortCall) : (perform espflash calls).1 <+: calls := by
  induction calls with
  | nil => exact List.prefix_rfl
  | cons call calls ih =>
    rw [perform]
    cases espflash call with
    | error detail => exact ⟨calls, rfl⟩
    | ok _ => exact List.prefix_cons_inj call |>.mpr ih

def callsFor (port : Port) (payloads : List (UInt32 × List UInt8)) : List PortCall :=
  if payloads.isEmpty then [] else flashCalls port payloads

theorem flashPayloads_of_port (hPort : target.preferredPort = some port)
    : target.flashPayloads espflash payloads
        =
      ((perform espflash (callsFor port payloads)).1, some (perform espflash (callsFor port payloads)).2) := by
  unfold EP01UpdateTarget.flashPayloads callsFor
  split
  . rfl
  . rw [hPort]

theorem flashResolved_of_port {system : FlowSystem} (hPort : target.preferredPort = some port)
    (resolved : ResolvedFirmware)
    : (∃ payloads, (∀ other, Supplies system.files resolved other ↔ other = payloads)
        ∧ flashResolved system target resolved = ((perform system.espflash (callsFor port payloads)).1,
            some (perform system.espflash (callsFor port payloads)).2))
        ∨
      ((∀ other, ¬ Supplies system.files resolved other)
        ∧ ∃ error, flashResolved system target resolved = ([], some (.error error))) := by
  cases resolved with
  | payloads payloads => exact .inl ⟨payloads, fun _ => Iff.rfl, flashPayloads_of_port hPort⟩
  | localFile path =>
    unfold flashResolved EP01UpdateTarget.flashFirmwareImage Supplies
    simp only
    cases hRead : system.files.read path with
    | error detail =>
      refine .inr ⟨?_, _, rfl⟩
      rintro other ⟨image, hImage, _⟩
      contradiction
    | ok image =>
      refine .inl ⟨[(firmwareFlashOffset, image)], fun other => ?_, flashPayloads_of_port hPort⟩
      constructor
      . rintro ⟨otherImage, hImage, hOther⟩
        injection hImage with hImage
        rw [hOther, hImage]
      . exact fun hOther => ⟨image, rfl, hOther⟩

/--
The segment starts with the data at its offset, and what is behind it only fills up the last word.
-/
structure Segment.Pads (segment : Segment) (payload : UInt32 × List UInt8) : Prop where
  addr : segment.addr = payload.1
  aligned : segment.data.length % 4 = 0
  data : ∃ fill, segment.data = payload.2 ++ fill ∧ fill.length < 4 ∧ ∀ byte ∈ fill, byte = 0xFF

theorem ofPayload_pads (payload : UInt32 × List UInt8) : (Segment.ofPayload payload).Pads payload where
  addr := rfl
  aligned := by
    unfold Segment.ofPayload
    rw [List.length_append]
    split
    . rw [List.length_replicate]
      omega
    . rw [List.length_nil]
      omega
  data := by
    unfold Segment.ofPayload
    refine ⟨_, rfl, ?_, ?_⟩
    . split
      . rw [List.length_replicate]
        omega
      . decide
    . intro byte hByte
      split at hByte
      . exact List.eq_of_mem_replicate hByte
      . contradiction

theorem write_mem_perform {other : Port} {segments : List Segment}
    (h : .writeBinsToFlash other segments ∈ (perform espflash (callsFor port payloads)).1)
    : other = port ∧ segments = payloads.map Segment.ofPayload := by
  have hMem := (perform_isPrefix _).subset h
  unfold callsFor flashCalls at hMem
  split at hMem
  . contradiction
  . simpa using hMem

end Ports

section Flow

variable {crates : Crates} {system : FlowSystem} {firmware : Option String} {force : Bool}
  {target other : EP01UpdateTarget}

/--
What the command does when it is over. With the firmware settled for a target the calls are those of its
flashing, on a port of the device with its serial number, up to the first one that fails. Otherwise there are
none. The command succeeds without the operator having declined only when all calls have succeeded and a host
has answered with the identifier of the target.
-/
structure FlashesPicked (crates : Crates) (system : FlowSystem) (firmware : Option String) (force : Bool)
    (state : FlowState) (outcome : Outcome) : Prop where
  settled : ∀ target payloads, Settled crates system firmware force target payloads →
    ∃ port, target.preferredPort = some port ∧ port.2.serialNumber.isSome = true
      ∧ port.2.serialNumber = target.macAddress
      ∧ state.calls = (perform system.espflash (callsFor port payloads)).1
  otherwise : (∀ target payloads, ¬ Settled crates system firmware force target payloads) → state.calls = []
  succeeds : outcome = .returned (.ok ())
    ↔
    system.Declined force
      ∨
    ∃ target payloads port, Settled crates system firmware force target payloads
      ∧ target.preferredPort = some port ∧ (∀ call ∈ callsFor port payloads, system.espflash call = .ok ())
      ∧ Recognised target.info (scansMade target.info system.waiting)
  panics : outcome ≠ .panicked

theorem Stdio.Typed.unique {stdio : Stdio} {line other : String} (h : stdio.Typed line) (hOther : stdio.Typed other)
    : other = line := by
  have hRead := hOther.2
  rw [h.2] at hRead
  injection hRead with hRead
  exact hRead.symm

theorem FlowSystem.Confirmed.not_declined (h : system.Confirmed force) : ¬ system.Declined force := by
  rintro ⟨hForce, ⟨target, hTarget, hNil⟩, line, hTyped, hNo⟩
  rcases h with h | h | ⟨other, hOther, hYes⟩
  . rw [h] at hForce
    contradiction
  . exact h target hTarget hNil
  . rw [hTyped.unique hOther, hNo] at hYes
    contradiction

theorem FlowSystem.Picked.unique (h : system.Picked target) (hOther : system.Picked other)
    : other = target := by
  have hSame := (@selectUpdateTarget_eq_ok_iff system (fun _ => "") other).mpr hOther
  rw [selectUpdateTarget_eq_ok_iff.mpr h] at hSame
  injection hSame with hSame
  exact hSame.symm

/-
A picked target is attached, so it has a port of its device.
-/
theorem FlowSystem.Picked.port (h : system.Picked target)
    : ∃ port, target.preferredPort = some port ∧ port.2.serialNumber.isSome = true
        ∧ port.2.serialNumber = target.macAddress := by
  rcases h with ⟨_, _, _, _, hTarget⟩
  have hMem := List.mem_of_getElem? hTarget
  unfold FlowSystem.attached at hMem
  cases hPorts : system.attachedPorts with
  | error error =>
    rw [hPorts] at hMem
    contradiction
  | ok ports =>
    rw [hPorts] at hMem
    exact preferredPort_isFlashed hMem

theorem FlashesPicked.of_failed {state : FlowState} {outcome : Outcome} (hConfirmed : ¬ system.Declined force)
    (hNone : ∀ target payloads, ¬ Settled crates system firmware force target payloads)
    (hCalls : state.calls = []) (hFailed : outcome ≠ .returned (.ok ())) (hPanics : outcome ≠ .panicked)
    : FlashesPicked crates system firmware force state outcome where
  settled target payloads h := absurd h (hNone target payloads)
  otherwise _ := hCalls
  succeeds := by
    constructor
    . exact fun hOk => absurd hOk hFailed
    . rintro (hDeclined | ⟨target, payloads, _, hSettled, _⟩)
      . exact absurd hDeclined hConfirmed
      . exact absurd hSettled (hNone target payloads)
  panics := hPanics

theorem FlashesPicked.of_settled {state : FlowState} {outcome : Outcome} {port : Port}
    {payloads : List (UInt32 × List UInt8)} (hSettled : Settled crates system firmware force target payloads)
    (hOnly : ∀ others, Resolves crates system target.info firmware others → others = payloads)
    (hPort : target.preferredPort = some port) (hSome : port.2.serialNumber.isSome = true)
    (hSerial : port.2.serialNumber = target.macAddress)
    (hCalls : state.calls = (perform system.espflash (callsFor port payloads)).1)
    (hOk : outcome = .returned (.ok ()) ↔ (perform system.espflash (callsFor port payloads)).2 = .ok ()
      ∧ Recognised target.info (scansMade target.info system.waiting))
    (hPanics : outcome ≠ .panicked)
    : FlashesPicked crates system firmware force state outcome where
  settled other others h := by
    have hSame := hSettled.picked.unique h.picked
    subst hSame
    have hSame := hOnly others h.resolves
    subst hSame
    exact ⟨port, hPort, hSome, hSerial, hCalls⟩
  otherwise hNone := absurd hSettled (hNone target payloads)
  succeeds := by
    rw [hOk, perform_eq_ok_iff]
    constructor
    . rintro ⟨hAll, hRecognised⟩
      exact .inr ⟨target, payloads, port, hSettled, hPort, hAll, hRecognised⟩
    . rintro (hDeclined | ⟨other, others, otherPort, h, hOther, hAll, hRecognised⟩)
      . exact absurd hDeclined hSettled.confirmed.not_declined
      . have hSame := hSettled.picked.unique h.picked
        subst hSame
        have hSame := hOnly others h.resolves
        subst hSame
        rw [hPort] at hOther
        injection hOther with hOther
        subst hOther
        exact ⟨hAll, hRecognised⟩
  panics := hPanics

theorem updateSelected_flashes (hShort : ShortBodies system.http) (hConfirmed : system.Confirmed force)
    (printed : List String)
    : FlashesPicked crates system firmware force (updateSelected crates system firmware printed).1
        (updateSelected crates system firmware printed).2 := by
  unfold updateSelected
  have hPicked (target : EP01UpdateTarget) :=
    @selectUpdateTarget_eq_ok_iff system crates.displayIdentifier target
  cases hSelect : selectUpdateTarget crates.displayIdentifier system.device system.attached with
  | mk menu selection =>
    rw [hSelect] at hPicked
    cases selection with
    | error error =>
      refine .of_failed hConfirmed.not_declined ?_ rfl (by simp) (by simp)
      intro target payloads hSettled
      have hOk := (hPicked target).mpr hSettled.picked
      contradiction
    | ok target =>
      have hTarget := (hPicked target).mp rfl
      rcases hTarget.port with ⟨port, hPort, hSome, hSerial⟩
      rcases @resolveFirmware_spec crates system target.info firmware hShort with ⟨result, hResult, hResolves⟩
      simp only
      generalize resolveFirmware crates system target.info.identifier target.info.version firmware = resolution
        at hResult ⊢
      rcases resolution with ⟨versions, requests, resolution⟩
      simp only at hResult
      subst hResult
      -- nothing is flashed without payloads for the picked target
      have hNothing (hNone : ∀ payloads, ¬ Resolves crates system target.info firmware payloads)
          : ∀ other payloads, ¬ Settled crates system firmware force other payloads := by
        intro other payloads hSettled
        have hSame := hTarget.unique hSettled.picked
        subst hSame
        exact hNone payloads hSettled.resolves
      cases result with
      | error error =>
        exact .of_failed hConfirmed.not_declined (hNothing (hResolves.nothing error rfl)) rfl (by simp) (by simp)
      | ok resolved =>
        have hSupplies := hResolves.supplies resolved rfl
        rcases @flashResolved_of_port target port system hPort resolved
          with ⟨payloads, hOnly, hFlash⟩ | ⟨hNone, error, hFlash⟩
        . have hSettled : Settled crates system firmware force target payloads :=
            ⟨hConfirmed, hTarget, (hSupplies payloads).mpr ((hOnly payloads).mpr rfl)⟩
          have hUnique : ∀ others, Resolves crates system target.info firmware others → others = payloads :=
            fun others h => (hOnly others).mp ((hSupplies others).mp h)
          simp only [hFlash]
          cases hPerform : (perform system.espflash (callsFor port payloads)).2 with
          | error error =>
            exact .of_settled hSettled hUnique hPort hSome hSerial rfl (by simp [hPerform]) (by simp)
          | ok _ =>
            refine .of_settled hSettled hUnique hPort hSome hSerial rfl ?_ (by simp)
            simp only [Outcome.returned.injEq, waitForHost_eq_ok_iff, hPerform, true_and]
        . simp only [hFlash]
          refine .of_failed hConfirmed.not_declined (hNothing fun payloads h => ?_) rfl (by simp) (by simp)
          exact hNone payloads ((hSupplies payloads).mp h)

theorem unresponsive_isEmpty_iff {hosts : List EP01UpdateTarget}
    : (unresponsive hosts).isEmpty = true ↔ ∀ target ∈ hosts, target.info.identifier ≠ 0 := by
  unfold unresponsive
  simp

theorem flashesPicked_updateRemoteHost (crates : Crates) (system : FlowSystem) (firmware : Option String) (force : Bool)
    (hShort : ShortBodies system.http)
    : FlashesPicked crates system firmware force (updateRemoteHost crates system firmware force).1
        (updateRemoteHost crates system firmware force).2 := by
  unfold updateRemoteHost
  simp only
  split
  . next hAsks =>
    rw [Bool.and_eq_true, Bool.not_eq_true', Bool.not_eq_true'] at hAsks
    have hSilent : ∃ target ∈ system.attached, target.info.identifier = 0 := by
      by_contra hAll
      have hEmpty := unresponsive_isEmpty_iff.mpr fun target hTarget hNil => hAll ⟨target, hTarget, hNil⟩
      rw [hEmpty] at hAsks
      exact absurd hAsks.1 (by simp)
    -- the answer is what decides
    have hAsked (hConfirmed : system.Confirmed force)
        : ∃ line, system.confirmation.Typed line ∧ Wifi.eqIgnoreAsciiCase (trim line) "y" = true := by
      rcases hConfirmed with hForce | hAll | hYes
      . rw [hAsks.2] at hForce
        contradiction
      . rcases hSilent with ⟨target, hTarget, hNil⟩
        exact absurd hNil (hAll target hTarget)
      . exact hYes
    cases hLine : system.confirmation.promptLine "Failed to flush stdout" "Failed to read confirmation" with
    | error error =>
      have hUntyped (line : String) (hTyped : system.confirmation.Typed line) : False := by
        rw [promptLine_eq_ok_iff.mpr hTyped] at hLine
        contradiction
      refine .of_failed ?_ ?_ rfl (by simp) (by simp)
      . rintro ⟨_, _, line, hTyped, _⟩
        exact hUntyped line hTyped
      . intro target payloads hSettled
        rcases hAsked hSettled.confirmed with ⟨line, hTyped, _⟩
        exact hUntyped line hTyped
    | ok line =>
      have hTyped := promptLine_eq_ok_iff.mp hLine
      simp only
      split
      . next hYes => exact updateSelected_flashes hShort (.inr (.inr ⟨line, hTyped, hYes⟩)) _
      . next hNo =>
        rw [Bool.not_eq_true] at hNo
        have hNone (target : EP01UpdateTarget) (payloads : List (UInt32 × List UInt8))
            : ¬ Settled crates system firmware force target payloads := by
          intro hSettled
          rcases hAsked hSettled.confirmed with ⟨other, hOther, hYes⟩
          rw [hTyped.unique hOther, hNo] at hYes
          contradiction
        exact {
          settled := fun target payloads h => absurd h (hNone target payloads)
          otherwise := fun _ => rfl
          succeeds := by
            constructor
            . exact fun _ => .inl ⟨hAsks.2, hSilent, line, hTyped, hNo⟩
            . exact fun _ => rfl
          panics := by simp }
  . next hAsks =>
    apply updateSelected_flashes hShort
    cases force with
    | true => exact .inl rfl
    | false =>
      refine .inr (.inl (unresponsive_isEmpty_iff.mp ?_))
      simpa using hAsks

/--
Whatever the terminals, the files, the service and the ports yield: the command flashes what has been settled and
nothing else, and what is written is the data of the settled payloads at their offsets, on a port of the device
that has been picked.
-/
theorem updateRemoteHost_flashes (crates : Crates) (system : FlowSystem) (firmware : Option String) (force : Bool)
    (hShort : ShortBodies system.http)
    : FlashesPicked crates system firmware force (updateRemoteHost crates system firmware force).1
        (updateRemoteHost crates system firmware force).2
      ∧
    ∀ port segments,
      .writeBinsToFlash port segments ∈ (updateRemoteHost crates system firmware force).1.calls →
        ∃ target payloads, Settled crates system firmware force target payloads
          ∧ port.2.serialNumber.isSome = true ∧ port.2.serialNumber = target.macAddress
          ∧ List.Forall₂ Segment.Pads segments payloads := by
  have h := flashesPicked_updateRemoteHost crates system firmware force hShort
  refine ⟨h, ?_⟩
  intro port segments hWrite
  by_cases hNone : ∀ target payloads, ¬ Settled crates system firmware force target payloads
  . rw [h.otherwise hNone] at hWrite
    contradiction
  . push Not at hNone
    rcases hNone with ⟨target, payloads, hSettled⟩
    rcases h.settled target payloads hSettled with ⟨other, _, hSome, hSerial, hCalls⟩
    rw [hCalls] at hWrite
    rcases write_mem_perform hWrite with ⟨hPort, hSegments⟩
    subst hPort
    refine ⟨target, payloads, hSettled, hSome, hSerial, ?_⟩
    rw [hSegments, List.forall₂_map_left_iff]
    exact List.forall₂_same.mpr fun payload _ => ofPayload_pads payload

def abcFlow : FlowSystem where
  attachedPorts := .ok [acmPort]
  query _ := ⟨.ok (), some (.ok ⟨⟨1, 1, 0⟩, 7⟩)⟩
  confirmation := ⟨.ok (), .ok "\n"⟩
  device := ⟨.ok (), .ok "1\n"⟩
  version := ⟨.ok (), .ok "\n"⟩
  files := ⟨.ok, fun _ => false, fun _ => .ok []⟩
  http := abcSystem.http
  espflash _ := .ok ()
  waiting := answering ⟨1, 2, 0⟩

theorem abcFlow_flashes
    : FlashesPicked abcCrates abcFlow none false (updateRemoteHost abcCrates abcFlow none false).1
        (updateRemoteHost abcCrates abcFlow none false).2
      ∧
    (updateRemoteHost abcCrates abcFlow none false).1.calls.filter (fun call => call matches .writeBinsToFlash _ _)
      = [.writeBinsToFlash acmPort [⟨131072, abc ++ [0xFF]⟩]] :=
  ⟨(updateRemoteHost_flashes abcCrates abcFlow none false shortBodies_abcSystem).1, by decide +kernel⟩

end Flow

end Update
end Enody
