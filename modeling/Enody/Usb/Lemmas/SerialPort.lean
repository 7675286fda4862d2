import Enody.Transition.Run
import Enody.Usb.Impl.SerialPort
import Enody.Usb.Lemmas.Environment
import Mathlib.Data.List.Nodup

/-!
This module contains when the polling loop keeps the connected runtimes equal to the attached ports. The
loop compares keys made of the port name and the serial number, the event task tells devices apart by
serial number and removes them by key, so a device that keeps its serial number under a new key, or that
appears between `new` and `start_discovery`, is lost.
-/

namespace Enody
namespace Usb

open Transition

namespace PortMap

theorem mem_insert {map : PortMap} {key : String} {port : SerialPort} {entry : String × SerialPort}
    : entry ∈ map.insert key port
        ↔
      (entry ∈ map ∧ entry.fst ≠ key) ∨ entry = (key, port) := by
  unfold insert
  simp

theorem mem_without {map other : PortMap} {port : SerialPort}
    : port ∈ map.without other ↔ ∃ key, (key, port) ∈ map ∧ key ∉ other.keys := by
  unfold without
  simp

end PortMap

theorem mem_foldl_insert (ports : List SerialPort) (map : PortMap) (entry : String × SerialPort)
    (h : entry ∈ ports.foldl (fun map port => map.insert port.connectionKey port) map)
    : entry ∈ map ∨ (entry.snd ∈ ports ∧ entry.fst = entry.snd.connectionKey) := by
  induction ports generalizing map with
  | nil => exact .inl h
  | cons port ports ih =>
    rcases ih (map.insert port.connectionKey port) h with hMap | ⟨hMem, hKey⟩
    . rw [PortMap.mem_insert] at hMap
      rcases hMap with ⟨hOld, _⟩ | hNew
      . exact .inl hOld
      . right
        rw [hNew]
        exact ⟨List.mem_cons_self, rfl⟩
    . exact .inr ⟨List.mem_cons_of_mem _ hMem, hKey⟩

theorem mem_keys_foldl_insert (ports : List SerialPort) (map : PortMap) (key : String)
    (h : key ∈ map.keys ∨ ∃ port ∈ ports, port.connectionKey = key)
    : key ∈ (ports.foldl (fun map port => map.insert port.connectionKey port) map).keys := by
  induction ports generalizing map with
  | nil =>
    rcases h with hMap | ⟨port, hMem, _⟩
    . exact hMap
    . contradiction
  | cons port ports ih =>
    apply ih
    have hInsert (hKey : key = port.connectionKey ∨ key ∈ map.keys)
        : key ∈ (map.insert port.connectionKey port).keys := by
      unfold PortMap.keys
      rw [List.mem_map]
      by_cases hEq : key = port.connectionKey
      . exists (key, port)
        rw [PortMap.mem_insert, hEq]
        exact ⟨.inr rfl, rfl⟩
      . rcases hKey with hEq' | hMap
        . contradiction
        . unfold PortMap.keys at hMap
          rw [List.mem_map] at hMap
          rcases hMap with ⟨entry, hEntry, hFst⟩
          exists entry
          rw [PortMap.mem_insert, hFst]
          exact ⟨.inl ⟨hEntry, hEq⟩, rfl⟩
    rcases h with hMap | ⟨other, hMem, hKey⟩
    . exact .inl (hInsert (.inr hMap))
    . rw [List.mem_cons] at hMem
      rcases hMem with hHead | hTail
      . left
        apply hInsert
        left
        rw [← hKey, hHead]
      . exact .inr ⟨other, hTail, hKey⟩

theorem mem_portMap {ports : List SerialPort} {entry : String × SerialPort}
    (h : entry ∈ portMap ports)
    : entry.snd ∈ ports ∧ entry.fst = entry.snd.connectionKey := by
  rcases mem_foldl_insert ports [] entry h with hNil | hMem
  . contradiction
  . exact hMem

theorem mem_keys_portMap {ports : List SerialPort} {key : String}
    : key ∈ (portMap ports).keys ↔ ∃ port ∈ ports, port.connectionKey = key := by
  constructor
  . intro h
    unfold PortMap.keys at h
    rw [List.mem_map] at h
    rcases h with ⟨entry, hEntry, hFst⟩
    rcases mem_portMap hEntry with ⟨hMem, hKey⟩
    exists entry.snd
    rw [← hKey]
    exact ⟨hMem, hFst⟩
  . intro h
    apply mem_keys_foldl_insert
    exact .inr h

theorem exists_mem_portMap {ports : List SerialPort} {port : SerialPort} (h : port ∈ ports)
    : ∃ other ∈ ports,
        other.connectionKey = port.connectionKey
          ∧
        (port.connectionKey, other) ∈ portMap ports := by
  have hKey : port.connectionKey ∈ (portMap ports).keys := by
    rw [mem_keys_portMap]
    exact ⟨port, h, rfl⟩
  unfold PortMap.keys at hKey
  rw [List.mem_map] at hKey
  rcases hKey with ⟨⟨key, other⟩, hEntry, hFst⟩
  rcases mem_portMap hEntry with ⟨hMem, hOther⟩
  subst hFst
  exact ⟨other, hMem, hOther.symm, hEntry⟩

namespace UsbEnvironment

variable {env : UsbEnvironment}

def hasSerial (env : UsbEnvironment) (serialNumber : Option String) : Prop :=
  ∃ entry ∈ env.connectedRuntimes, entry.serialNumber = serialNumber

/--
What the arrivals of one tick leave in the table: all old entries, only entries of the arrived ports
besides them, and for each arrived port one with its key or with its serial number.
-/
structure Arrivals (env : UsbEnvironment) (ports : List SerialPort) (next : UsbEnvironment)
    : Prop where
  old : ∀ entry ∈ env.connectedRuntimes, entry ∈ next.connectedRuntimes
  new : ∀ entry ∈ next.connectedRuntimes,
    entry ∈ env.connectedRuntimes
      ∨
    ∃ port ∈ ports,
      entry.connectionKey = port.connectionKey ∧ entry.serialNumber = port.serialNumber
  found : ∀ port ∈ ports, ∃ entry ∈ next.connectedRuntimes,
    entry.connectionKey = port.connectionKey ∨ entry.serialNumber = port.serialNumber
  keys : env.keys.Nodup → next.keys.Nodup

theorem Arrivals.of_duplicate {port : SerialPort} {next : UsbEnvironment}
    (hTable : next.connectedRuntimes = env.connectedRuntimes)
    (hFound : ∃ entry ∈ env.connectedRuntimes,
      entry.connectionKey = port.connectionKey ∨ entry.serialNumber = port.serialNumber)
    : Arrivals env [port] next where
  old := by
    intro entry hEntry
    rw [hTable]
    exact hEntry
  new := by
    intro entry hEntry
    rw [hTable] at hEntry
    exact .inl hEntry
  found := by
    intro other hOther
    rw [List.mem_singleton] at hOther
    rw [hTable, hOther]
    exact hFound
  keys := by
    unfold UsbEnvironment.keys
    rw [hTable]
    intro hKeys
    exact hKeys

theorem Arrivals.of_fresh {port : SerialPort} {next : UsbEnvironment} {entry : ConnectedRuntime}
    (hTable : next.connectedRuntimes = env.connectedRuntimes ++ [entry])
    (hKey : entry.connectionKey = port.connectionKey) (hSerial : entry.serialNumber = port.serialNumber)
    (hFresh : ∀ other ∈ env.connectedRuntimes, other.connectionKey ≠ port.connectionKey)
    : Arrivals env [port] next where
  old := by
    intro other hOther
    rw [hTable]
    exact List.mem_append_left _ hOther
  new := by
    intro other hOther
    rw [hTable, List.mem_append, List.mem_singleton] at hOther
    rcases hOther with hOld | hNew
    . exact .inl hOld
    . right
      exists port
      rw [hNew]
      exact ⟨List.mem_singleton_self _, hKey, hSerial⟩
  found := by
    intro other hOther
    rw [List.mem_singleton] at hOther
    rw [hTable, hOther]
    exact ⟨entry, List.mem_append_right _ (List.mem_singleton_self _), .inl hKey⟩
  keys := by
    unfold UsbEnvironment.keys
    rw [hTable, List.map_append, List.nodup_append]
    intro hKeys
    refine ⟨hKeys, by simp, ?_⟩
    intro key hOld other hNew hEq
    rw [List.map_singleton, List.mem_singleton] at hNew
    rw [List.mem_map] at hOld
    rcases hOld with ⟨old, hEntry, hOldKey⟩
    apply hFresh old hEntry
    rw [hOldKey, hEq, hNew, hKey]

theorem arrivals_one (env : UsbEnvironment) (port : SerialPort)
    (hSerial : port.serialNumber.isSome = true)
    : Arrivals env [port] (env.handleDeviceArrived port.device).1 := by
  rw [Option.isSome_iff_exists] at hSerial
  rcases hSerial with ⟨serial, hSerial⟩
  have hRead : port.device.readSerialNumber = some (some serial) := by
    unfold UsbDevice.readSerialNumber SerialPort.device
    rw [hSerial]
  have hTable := handleDeviceArrived_of_ok env hRead rfl
  have hContains := connectedContainsKey_iff env.connectedRuntimes port.connectionKey serial
  split at hTable
  . next hDuplicate =>
    apply Arrivals.of_duplicate hTable
    rw [hSerial]
    exact hContains.mp hDuplicate
  . next hFresh =>
    apply Arrivals.of_fresh hTable
    . rfl
    . exact hSerial.symm
    . intro other hOther hKey
      apply hFresh
      exact hContains.mpr ⟨other, hOther, .inl hKey⟩

theorem Arrivals.cons {port : SerialPort} {ports : List SerialPort} {mid next : UsbEnvironment}
    (hFirst : Arrivals env [port] mid) (hRest : Arrivals mid ports next)
    : Arrivals env (port :: ports) next where
  old := by
    intro entry hEntry
    apply hRest.old
    exact hFirst.old entry hEntry
  new := by
    intro entry hEntry
    rcases hRest.new entry hEntry with hMid | ⟨other, hOther, hMatch⟩
    . rcases hFirst.new entry hMid with hOld | ⟨other, hOther, hMatch⟩
      . exact .inl hOld
      . rw [List.mem_singleton] at hOther
        right
        rw [hOther] at hMatch
        exact ⟨port, List.mem_cons_self, hMatch⟩
    . exact .inr ⟨other, List.mem_cons_of_mem _ hOther, hMatch⟩
  found := by
    intro other hOther
    rw [List.mem_cons] at hOther
    rcases hOther with hHead | hTail
    . rcases hFirst.found port (List.mem_singleton_self _) with ⟨entry, hEntry, hMatch⟩
      exists entry
      rw [hHead]
      exact ⟨hRest.old entry hEntry, hMatch⟩
    . exact hRest.found other hTail
  keys := by
    intro hKeys
    apply hRest.keys
    exact hFirst.keys hKeys

theorem arrivals (env : UsbEnvironment) (ports : List SerialPort)
    (hSerials : ∀ port ∈ ports, port.serialNumber.isSome = true)
    : Arrivals env ports
        (env.handleDeviceEvents (ports.map fun port => .connected port.device)) := by
  induction ports generalizing env with
  | nil =>
    constructor
    case old =>
      intro entry hEntry
      exact hEntry
    case new =>
      intro entry hEntry
      exact .inl hEntry
    case found =>
      intro port hPort
      contradiction
    case keys =>
      intro hKeys
      exact hKeys
  | cons port ports ih =>
    have hFirst := arrivals_one env port (hSerials port List.mem_cons_self)
    apply hFirst.cons
    apply ih
    intro other hOther
    apply hSerials
    exact List.mem_cons_of_mem _ hOther

end UsbEnvironment

namespace SerialPortPolling

/--
The condition on a tick under which no device is lost, as a statement about the connected runtimes, the
known ports and the snapshot.
-/
structure Tracks (s : SerialPortPolling) (currentPorts : List SerialPort) : Prop where
  distinctKeys : s.environment.keys.Nodup
  unambiguous : ∀ port ∈ currentPorts, ∀ other ∈ currentPorts,
    other.connectionKey = port.connectionKey → other.serialNumber = port.serialNumber
  unambiguousConnected : ∀ port ∈ currentPorts, ∀ entry ∈ s.environment.connectedRuntimes,
    entry.connectionKey = port.connectionKey → entry.serialNumber = port.serialNumber
  stays : ∀ port ∈ currentPorts, ∀ entry ∈ s.environment.connectedRuntimes,
    entry.serialNumber = port.serialNumber → entry.connectionKey ∈ s.knownPorts.keys →
      ∃ other ∈ currentPorts, other.connectionKey = entry.connectionKey
  appears : ∀ port ∈ currentPorts,
    (∃ entry ∈ s.environment.connectedRuntimes, entry.serialNumber = port.serialNumber)
      ∨
    ∃ other ∈ currentPorts,
      other.serialNumber = port.serialNumber ∧ other.connectionKey ∉ s.knownPorts.keys
  leaves : ∀ entry ∈ s.environment.connectedRuntimes,
    (∃ port ∈ currentPorts, port.serialNumber = entry.serialNumber)
      ∨
    entry.connectionKey ∈ s.knownPorts.keys

def UpToDate (s : SerialPortPolling) : Prop :=
  ∀ serialNumber,
    s.environment.hasSerial serialNumber
      ↔
    ∃ port ∈ s.snapshot, port.serialNumber = serialNumber

instance (s : SerialPortPolling) (currentPorts : List SerialPort)
    : Decidable (s.Tracks currentPorts) :=
  decidable_of_iff
    (s.environment.keys.Nodup
      ∧ (∀ port ∈ currentPorts, ∀ other ∈ currentPorts,
          other.connectionKey = port.connectionKey → other.serialNumber = port.serialNumber)
      ∧ (∀ port ∈ currentPorts, ∀ entry ∈ s.environment.connectedRuntimes,
          entry.connectionKey = port.connectionKey → entry.serialNumber = port.serialNumber)
      ∧ (∀ port ∈ currentPorts, ∀ entry ∈ s.environment.connectedRuntimes,
          entry.serialNumber = port.serialNumber → entry.connectionKey ∈ s.knownPorts.keys →
            ∃ other ∈ currentPorts, other.connectionKey = entry.connectionKey)
      ∧ (∀ port ∈ currentPorts,
          (∃ entry ∈ s.environment.connectedRuntimes, entry.serialNumber = port.serialNumber)
            ∨
          ∃ other ∈ currentPorts,
            other.serialNumber = port.serialNumber ∧ other.connectionKey ∉ s.knownPorts.keys)
      ∧ (∀ entry ∈ s.environment.connectedRuntimes,
          (∃ port ∈ currentPorts, port.serialNumber = entry.serialNumber)
            ∨
          entry.connectionKey ∈ s.knownPorts.keys))
    ⟨fun ⟨h1, h2, h3, h4, h5, h6⟩ => ⟨h1, h2, h3, h4, h5, h6⟩,
      fun ⟨h1, h2, h3, h4, h5, h6⟩ => ⟨h1, h2, h3, h4, h5, h6⟩⟩

variable {s t : SerialPortPolling} {currentPorts arrived departed : List SerialPort}

theorem mem_arrived (hArrived : arrived.Perm ((portMap currentPorts).without s.knownPorts))
    {port : SerialPort} (h : port ∈ arrived)
    : port ∈ currentPorts ∧ port.connectionKey ∉ s.knownPorts.keys := by
  rw [hArrived.mem_iff, PortMap.mem_without] at h
  rcases h with ⟨key, hEntry, hNew⟩
  rcases mem_portMap hEntry with ⟨hMem, hKey⟩
  simp only at hMem hKey
  rw [hKey] at hNew
  exact ⟨hMem, hNew⟩

theorem exists_arrived (hArrived : arrived.Perm ((portMap currentPorts).without s.knownPorts))
    {port : SerialPort} (hPort : port ∈ currentPorts)
    (hNew : port.connectionKey ∉ s.knownPorts.keys)
    : ∃ other ∈ arrived, other ∈ currentPorts ∧ other.connectionKey = port.connectionKey := by
  rcases exists_mem_portMap hPort with ⟨other, hOther, hKey, hEntry⟩
  exists other
  refine ⟨?_, hOther, hKey⟩
  rw [hArrived.mem_iff, PortMap.mem_without]
  exact ⟨_, hEntry, hNew⟩

theorem mem_departed_keys {knownPorts : PortMap}
    (hDeparted : departed.Perm (knownPorts.without (portMap currentPorts)))
    (hKnown : ∀ entry ∈ knownPorts, entry.fst = entry.snd.connectionKey) {key : String}
    : key ∈ (departed.map SerialPort.device).map UsbDevice.connectionKey
        ↔
      key ∈ knownPorts.keys ∧ ∀ port ∈ currentPorts, port.connectionKey ≠ key := by
  have hCurrent : key ∉ (portMap currentPorts).keys
      ↔ ∀ port ∈ currentPorts, port.connectionKey ≠ key := by
    rw [mem_keys_portMap]
    simp
  rw [List.map_map, List.mem_map, ← hCurrent]
  constructor
  . rintro ⟨port, hPort, hKey⟩
    rw [hDeparted.mem_iff, PortMap.mem_without] at hPort
    rcases hPort with ⟨key', hEntry, hGone⟩
    have hEq : key' = key := by
      have hOwn := hKnown _ hEntry
      simp only at hOwn
      rw [hOwn]
      exact hKey
    rw [hEq] at hEntry hGone
    exact ⟨List.mem_map_of_mem hEntry, hGone⟩
  . rintro ⟨hMem, hGone⟩
    unfold PortMap.keys at hMem
    rw [List.mem_map] at hMem
    rcases hMem with ⟨⟨key', port⟩, hEntry, hKey⟩
    simp only at hKey
    subst hKey
    exists port
    constructor
    . rw [hDeparted.mem_iff, PortMap.mem_without]
      exact ⟨_, hEntry, hGone⟩
    . exact (hKnown _ hEntry).symm

def KnownKeys (s : SerialPortPolling) : Prop :=
  ∀ entry ∈ s.knownPorts, entry.fst = entry.snd.connectionKey

theorem KnownKeys.start (attached initial : List SerialPort) : KnownKeys (start attached initial) := by
  intro entry hEntry
  exact (mem_portMap hEntry).right

theorem tick_eq_some {label : Tick} (h : s.tick label = some t)
    : label.arrived.Perm ((portMap label.currentPorts).without s.knownPorts)
        ∧
      label.departed.Perm (s.knownPorts.without (portMap label.currentPorts))
        ∧
      t =
        { environment := s.environment.handleDeviceEvents (events label.arrived label.departed)
          knownPorts := portMap label.currentPorts
          snapshot := label.currentPorts } := by
  unfold tick at h
  simp only at h
  split at h
  . next hPerm =>
    injection h with h
    exact ⟨hPerm.left, hPerm.right, h.symm⟩
  . contradiction

theorem KnownKeys.tick {label : Tick} (h : s.tick label = some t) : KnownKeys t := by
  rcases tick_eq_some h with ⟨_, _, hEq⟩
  subst hEq
  intro entry hEntry
  exact (mem_portMap hEntry).right

theorem table_of_tick {label : Tick} (hKnown : KnownKeys s) (hKeys : s.environment.keys.Nodup)
    (hSerials : ∀ port ∈ label.currentPorts, port.serialNumber.isSome = true)
    (h : s.tick label = some t)
    : ∃ mid,
        UsbEnvironment.Arrivals s.environment label.arrived mid
          ∧
        ∀ entry,
          entry ∈ t.environment.connectedRuntimes
            ↔
          entry ∈ mid.connectedRuntimes
            ∧
          ¬ (entry.connectionKey ∈ s.knownPorts.keys
            ∧ ∀ port ∈ label.currentPorts, port.connectionKey ≠ entry.connectionKey) := by
  rcases tick_eq_some h with ⟨hArrived, hDeparted, hEq⟩
  subst hEq
  have hArrivals := UsbEnvironment.arrivals s.environment label.arrived (by
    intro port hPort
    apply hSerials
    exact (mem_arrived hArrived hPort).left)
  refine ⟨_, hArrivals, ?_⟩
  intro entry
  have hEvents : label.departed.map (fun port => UsbDeviceEvent.disconnected port.device)
      = (label.departed.map SerialPort.device).map .disconnected := by
    rw [List.map_map]
    rfl
  simp only [events]
  rw [UsbEnvironment.handleDeviceEvents_append, hEvents,
    UsbEnvironment.handleDepartures _ _ (hArrivals.keys hKeys), List.mem_filter, decide_eq_true_eq,
    mem_departed_keys hDeparted hKnown]

theorem Tracks.exists_port {currentPorts : List SerialPort} (hTracks : s.Tracks currentPorts)
    {entry : ConnectedRuntime} (hOld : entry ∈ s.environment.connectedRuntimes)
    (hStays : ¬ (entry.connectionKey ∈ s.knownPorts.keys
      ∧ ∀ port ∈ currentPorts, port.connectionKey ≠ entry.connectionKey))
    : ∃ port ∈ currentPorts, port.serialNumber = entry.serialNumber := by
  rcases hTracks.leaves entry hOld with hFound | hKnownKey
  . exact hFound
  . -- its key is known, so it is still in the snapshot
    by_contra hAbsent
    apply hStays
    refine ⟨hKnownKey, ?_⟩
    intro port hPort hKey
    apply hAbsent
    exact ⟨port, hPort, (hTracks.unambiguousConnected port hPort entry hOld hKey.symm).symm⟩

theorem Tracks.exists_entry {currentPorts : List SerialPort} (hTracks : s.Tracks currentPorts)
    (hArrived : arrived.Perm ((portMap currentPorts).without s.knownPorts)) {mid : UsbEnvironment}
    (hArrivals : UsbEnvironment.Arrivals s.environment arrived mid) {port : SerialPort}
    (hPort : port ∈ currentPorts)
    (hNone : ¬ ∃ entry ∈ s.environment.connectedRuntimes, entry.serialNumber = port.serialNumber)
    : ∃ entry ∈ mid.connectedRuntimes, entry.serialNumber = port.serialNumber
        ∧ ∃ source ∈ currentPorts, source.connectionKey = entry.connectionKey := by
  rcases hTracks.appears port hPort with hOld | ⟨other, hOther, hMatch, hNew⟩
  . contradiction
  . rcases exists_arrived hArrived hOther hNew with ⟨reported, hReported, hCurrent, hKey⟩
    have hReportedSerial : reported.serialNumber = port.serialNumber := by
      rw [hTracks.unambiguous other hOther reported hCurrent hKey, hMatch]
    rcases hArrivals.found reported hReported with ⟨entry, hEntry, hFound⟩
    have hSame (other : ConnectedRuntime) (hKeySerial : other.connectionKey = reported.connectionKey →
        other.serialNumber = reported.serialNumber)
        (hFound : other.connectionKey = reported.connectionKey ∨ other.serialNumber = reported.serialNumber)
        : other.serialNumber = port.serialNumber := by
      rcases hFound with hSameKey | hSameSerial
      . rw [hKeySerial hSameKey, hReportedSerial]
      . rw [hSameSerial, hReportedSerial]
    rcases hArrivals.new entry hEntry with hOld | ⟨source, hSource, hSourceKey, hSourceSerial⟩
    . -- the entry would be a runtime of the serial number from before the tick
      exact absurd ⟨entry, hOld, hSame entry (hTracks.unambiguousConnected reported hCurrent entry hOld) hFound⟩
        hNone
    . have hSourceCurrent := (mem_arrived hArrived hSource).left
      refine ⟨entry, hEntry, ?_, source, hSourceCurrent, hSourceKey.symm⟩
      apply hSame entry _ hFound
      rw [hSourceKey, hSourceSerial]
      exact hTracks.unambiguous reported hCurrent source hSourceCurrent

theorem Tracks.upToDate {label : Tick} (hTracks : s.Tracks label.currentPorts)
    (hKnown : KnownKeys s)
    (hSerials : ∀ port ∈ label.currentPorts, port.serialNumber.isSome = true)
    (h : s.tick label = some t)
    : UpToDate t := by
  rcases table_of_tick hKnown hTracks.distinctKeys hSerials h with ⟨mid, hArrivals, hTable⟩
  rcases tick_eq_some h with ⟨hArrived, _, hEq⟩
  have hSnapshot : t.snapshot = label.currentPorts := by rw [hEq]
  intro serialNumber
  unfold UsbEnvironment.hasSerial
  rw [hSnapshot]
  constructor
  . rintro ⟨entry, hEntry, hSerial⟩
    rw [hTable] at hEntry
    rcases hEntry with ⟨hMid, hStays⟩
    rw [← hSerial]
    rcases hArrivals.new entry hMid with hOld | ⟨port, hPort, _, hMatch⟩
    . exact hTracks.exists_port hOld hStays
    . exact ⟨port, (mem_arrived hArrived hPort).left, hMatch.symm⟩
  . rintro ⟨port, hPort, hSerial⟩
    rw [← hSerial]
    -- either a runtime of the serial number stays, or its port is reported
    by_cases hConnected : ∃ entry ∈ s.environment.connectedRuntimes,
        entry.serialNumber = port.serialNumber
    . rcases hConnected with ⟨entry, hOld, hMatch⟩
      exists entry
      refine ⟨?_, hMatch⟩
      rw [hTable]
      refine ⟨hArrivals.old entry hOld, ?_⟩
      rintro ⟨hKnownKey, hGone⟩
      rcases hTracks.stays port hPort entry hOld hMatch hKnownKey with ⟨other, hOther, hKey⟩
      exact hGone other hOther hKey
    . rcases hTracks.exists_entry hArrived hArrivals hPort hConnected
        with ⟨entry, hEntry, hMatch, source, hSource, hKey⟩
      exists entry
      refine ⟨?_, hMatch⟩
      rw [hTable]
      refine ⟨hEntry, ?_⟩
      rintro ⟨_, hGone⟩
      exact hGone source hSource hKey

theorem run_upToDate (attached initial : List SerialPort) (ticks : List Tick)
    (s : SerialPortPolling)
    (hRun : Run tick
      (fun s label => (∀ port ∈ label.currentPorts, port.serialNumber.isSome = true)
        ∧ s.Tracks label.currentPorts)
      (start attached initial) ticks s)
    (hTicks : ticks ≠ [])
    : UpToDate s := by
  have hBoth : KnownKeys s ∧ (ticks ≠ [] → UpToDate s) := by
    apply hRun.invariant_of_labels (motive := fun ticks s =>
      KnownKeys s ∧ (ticks ≠ [] → UpToDate s))
    . constructor
      . exact KnownKeys.start attached initial
      . intro hNil
        contradiction
    . intro ticks s label t h hok hTick
      constructor
      . exact KnownKeys.tick hTick
      . intro _
        exact hok.right.upToDate h.left hok.left hTick
  exact hBoth.right hTicks

theorem run_upToDate_plug
    : ∃ s,
        s.environment.connectedRuntimes = [⟨1, "serialport:ttyACM1:EP2", some "EP2"⟩]
          ∧
        UpToDate s := by
  have hExec : ((execIf tick
      (fun s label => decide ((∀ port ∈ label.currentPorts, port.serialNumber.isSome = true)
        ∧ s.Tracks label.currentPorts))
      (start [⟨"ttyACM0", some "EP1"⟩] [⟨"ttyACM0", some "EP1"⟩])
      [⟨[⟨"ttyACM0", some "EP1"⟩, ⟨"ttyACM1", some "EP2"⟩], [⟨"ttyACM1", some "EP2"⟩], []⟩,
        ⟨[⟨"ttyACM1", some "EP2"⟩], [], [⟨"ttyACM0", some "EP1"⟩]⟩]).map
          fun s => s.environment.connectedRuntimes)
      = some [⟨1, "serialport:ttyACM1:EP2", some "EP2"⟩] := by
    decide
  rcases Run.exists_of_execIf hExec with ⟨s, hRun, hTable⟩
  simp only [decide_eq_true_eq] at hRun
  exact ⟨s, hTable, run_upToDate _ _ _ s hRun (List.cons_ne_nil _ _)⟩

/-
A device that is enumerated again under another port name between two polls: its arrival is taken for a
duplicate, and then its departure removes it.
-/
theorem not_run_upToDate
    : ¬ ∀ (attached initial : List SerialPort) (ticks : List Tick) (s : SerialPortPolling),
        Run tick (fun _ label => ∀ port ∈ label.currentPorts, port.serialNumber.isSome = true)
          (start attached initial) ticks s →
            ticks ≠ [] → UpToDate s := by
  intro h
  have hExec : ((execIf tick
      (fun _ label => decide (∀ port ∈ label.currentPorts, port.serialNumber.isSome = true))
      (start [⟨"ttyACM0", some "EP1"⟩] [⟨"ttyACM0", some "EP1"⟩])
      [⟨[⟨"ttyACM1", some "EP1"⟩], [⟨"ttyACM1", some "EP1"⟩], [⟨"ttyACM0", some "EP1"⟩]⟩]).map
          fun s => (s.environment.connectedRuntimes, s.snapshot))
      = some ([], [⟨"ttyACM1", some "EP1"⟩]) := by
    decide
  rcases Run.exists_of_execIf hExec with ⟨s, hRun, hState⟩
  simp only [decide_eq_true_eq] at hRun
  injection hState with hTable hSnapshot
  have hUpToDate := h _ _ _ s hRun (List.cons_ne_nil _ _) (some "EP1")
  unfold UsbEnvironment.hasSerial at hUpToDate
  rw [hTable, hSnapshot] at hUpToDate
  simp at hUpToDate

end SerialPortPolling

end Usb
end Enody
