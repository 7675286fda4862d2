import Enody.Usb.Lemmas.EventTask
import Mathlib.Data.List.Induction

/-!
This module compares the two ways into the table of connected runtimes: the loop of `UsbEnvironment::new`
over the attached devices, and arrivals of the same devices one after another. The loop skips a device
when an earlier one has reported its serial number, an arrival only when an earlier one is connected.
-/

namespace Enody
namespace Usb

namespace UsbDevice

def reads (device : UsbDevice) (serial : String) : Prop :=
  device.readSerialNumber = some (some serial)

instance (device : UsbDevice) (serial : String) : Decidable (device.reads serial) :=
  inferInstanceAs (Decidable (device.readSerialNumber = some (some serial)))

def connects (device : UsbDevice) : Bool :=
  device.runtimeConnect.toOption.isSome

def entry? (device : UsbDevice) : Option (String × Option String) :=
  match device.readSerialNumber with
  | none => none
  | some serialNumber =>
    if device.connects then some (device.connectionKey, serialNumber) else none

end UsbDevice

namespace UsbEnvironment

variable {env : UsbEnvironment} {device : UsbDevice} {devices : List UsbDevice} {serial : String}

def entries (env : UsbEnvironment) : List (String × Option String) :=
  env.connectedRuntimes.map fun connected => (connected.connectionKey, connected.serialNumber)

def arriveAll (devices : List UsbDevice) : UsbEnvironment :=
  empty.handleDeviceEvents (devices.map .connected)

/--
For every serial number, the first device that reports it connects if any of them does.
-/
def FirstConnects (devices : List UsbDevice) : Prop :=
  ∀ serial first,
    devices.find? (fun device => device.reads serial) = some first
      →
    (∃ device ∈ devices, device.reads serial ∧ device.connects = true)
      →
    first.connects = true

theorem entries_connectRuntime (env : UsbEnvironment) {serialNumber : Option String}
    (hRead : device.readSerialNumber = some serialNumber)
    : (env.connectRuntime device serialNumber).1.entries = env.entries ++ device.entry?.toList := by
  unfold connectRuntime UsbDevice.entry? UsbDevice.connects
  rw [hRead]
  cases device.runtimeConnect with
  | error => simp [entries, Except.toOption]
  | ok => simp [entries, Except.toOption]

theorem entry?_of_unread (hRead : device.readSerialNumber = none) : device.entry? = none := by
  simp [UsbDevice.entry?, hRead]

theorem connects_of_mem {key : String} {serialNumber : Option String}
    (hMem : (key, serialNumber) ∈ device.entry?)
    : key = device.connectionKey ∧ device.readSerialNumber = some serialNumber
        ∧ device.connects = true := by
  unfold UsbDevice.entry? at hMem
  split at hMem
  . contradiction
  . next hRead =>
    split at hMem
    . next hConnects =>
      injection hMem with hMem
      injection hMem with hKey hSerial
      rw [← hKey, ← hSerial]
      exact ⟨rfl, hRead, hConnects⟩
    . contradiction

theorem entry?_of_connects (hRead : device.reads serial) (hConnects : device.connects = true)
    : device.entry? = some (device.connectionKey, some serial) := by
  unfold UsbDevice.entry?
  rw [hRead]
  simp [hConnects]

section Loop

variable {state : UsbEnvironment × List String}

theorem attach_snd (state : UsbEnvironment × List String) (device : UsbDevice) (serial : String)
    : serial ∈ (attach state device).2 ↔ serial ∈ state.2 ∨ device.reads serial := by
  unfold attach UsbDevice.reads
  simp only
  split
  . next hRead => simp [hRead]
  . next hRead => simp [hRead]
  . next other hRead =>
    split
    . next hMem =>
      simp only [hRead, Option.some.injEq]
      constructor
      . exact .inl
      . rintro (hSeen | rfl)
        . exact hSeen
        . exact hMem
    . simp [hRead, or_comm, eq_comm]

theorem mem_foldl_attach (devices : List UsbDevice) (serial : String)
    : serial ∈ (devices.foldl attach (empty, [])).2 ↔ ∃ device ∈ devices, device.reads serial := by
  induction devices using List.reverseRecOn with
  | nil => simp
  | append_singleton devices device ih =>
    rw [List.foldl_append]
    simp only [List.foldl_cons, List.foldl_nil]
    rw [attach_snd, ih]
    simp only [List.mem_append, List.mem_singleton, or_and_right, exists_or, exists_eq_left]

theorem entries_attach (state : UsbEnvironment × List String) (device : UsbDevice)
    : (attach state device).1.entries
        =
      state.1.entries
        ++ if ∃ serial ∈ state.2, device.reads serial then [] else device.entry?.toList := by
  unfold attach
  simp only
  split
  . next hRead => simp [UsbDevice.reads, hRead, entry?_of_unread hRead]
  . next hRead =>
    rw [entries_connectRuntime _ hRead]
    simp [UsbDevice.reads, hRead]
  . next serial hRead =>
    have hIff : (∃ other ∈ state.2, device.reads other) ↔ serial ∈ state.2 := by
      simp [UsbDevice.reads, hRead]
    simp only [hIff]
    split
    . simp
    . exact entries_connectRuntime _ hRead

open Classical in
theorem entries_new_append (devices : List UsbDevice) (device : UsbDevice)
    : (new (devices ++ [device])).entries
        =
      (new devices).entries
        ++
      if ∃ serial, device.reads serial ∧ ∃ other ∈ devices, other.reads serial then
        []
      else
        device.entry?.toList := by
  unfold new
  rw [List.foldl_append]
  simp only [List.foldl_cons, List.foldl_nil]
  rw [entries_attach]
  simp only [mem_foldl_attach]
  congr 1
  apply if_congr _ rfl rfl
  simp only [and_comm]

theorem mem_entries_new_iff (devices : List UsbDevice) (serial : String)
    : (∃ key, (key, some serial) ∈ (new devices).entries)
        ↔
      ∃ first, devices.find? (fun device => device.reads serial) = some first
        ∧ first.connects = true := by
  induction devices using List.reverseRecOn with
  | nil => simp [new, entries, empty]
  | append_singleton devices device ih =>
    rw [entries_new_append]
    simp only [List.mem_append, exists_or, ih, List.find?_append]
    by_cases hSeen : ∃ other ∈ devices, other.reads serial
    . -- the serial number has been reported before, so the device adds nothing about it
      have hFind : (devices.find? fun other => decide (other.reads serial)).isSome = true := by
        rw [List.find?_isSome]
        simpa using hSeen
      rcases Option.isSome_iff_exists.mp hFind with ⟨first, hFirst⟩
      rw [hFirst]
      simp only [Option.some_or, Option.some.injEq, exists_eq_left', or_iff_left_iff_imp]
      rintro ⟨key, hMem⟩
      exfalso
      split at hMem
      . contradiction
      . next hNew =>
        apply hNew
        refine ⟨serial, ?_, hSeen⟩
        rw [Option.mem_toList] at hMem
        exact (connects_of_mem hMem).right.left
    . have hFind : devices.find? (fun other => decide (other.reads serial)) = none := by
        rw [List.find?_eq_none]
        intro other hOther hReads
        exact hSeen ⟨other, hOther, by simpa using hReads⟩
      rw [hFind]
      simp only [reduceCtorEq, false_and, exists_false, false_or, Option.none_or]
      constructor
      . rintro ⟨key, hMem⟩
        split at hMem
        . contradiction
        . rw [Option.mem_toList] at hMem
          rcases connects_of_mem hMem with ⟨_, hRead, hConnects⟩
          refine ⟨device, ?_, hConnects⟩
          have hReads : device.reads serial := hRead
          simp [hReads]
      . rintro ⟨first, hFirst, hConnects⟩
        have hDevice := List.mem_of_find?_eq_some hFirst
        rw [List.mem_singleton] at hDevice
        subst hDevice
        have hReads : first.reads serial := by
          simpa using List.find?_some hFirst
        refine ⟨first.connectionKey, ?_⟩
        have hNew : ¬ ∃ other, first.reads other ∧ ∃ device ∈ devices, device.reads other := by
          rintro ⟨other, hOther, hBefore⟩
          unfold UsbDevice.reads at hReads hOther
          rw [hReads] at hOther
          injection hOther with hOther
          injection hOther with hOther
          rw [← hOther] at hBefore
          exact hSeen hBefore
        simp [hNew, entry?_of_connects hReads hConnects]

end Loop

section Arrivals

theorem arriveAll_append (devices : List UsbDevice) (device : UsbDevice)
    : arriveAll (devices ++ [device]) = ((arriveAll devices).handleDeviceArrived device).1 := by
  unfold arriveAll
  rw [List.map_append, handleDeviceEvents_append]
  rfl

open Classical in
theorem entries_handleDeviceArrived (env : UsbEnvironment) (device : UsbDevice)
    (hKey : device.connectionKey ∉ env.entries.map Prod.fst)
    : (env.handleDeviceArrived device).1.entries
        =
      env.entries
        ++
      if ∃ serial, device.reads serial ∧ ∃ key, (key, some serial) ∈ env.entries then
        []
      else
        device.entry?.toList := by
  unfold handleDeviceArrived
  split
  . next hRead => simp [UsbDevice.reads, hRead, entry?_of_unread hRead]
  . next serialNumber hRead =>
    have hIff : connectedContainsKey env.connectedRuntimes device.connectionKey serialNumber = true
        ↔ ∃ serial, device.reads serial ∧ ∃ key, (key, some serial) ∈ env.entries := by
      rw [← Bool.not_eq_false, connectedContainsKey_eq_false_iff]
      have hKeys : ∀ entry ∈ env.connectedRuntimes, entry.connectionKey ≠ device.connectionKey := by
        intro entry hEntry hEq
        apply hKey
        rw [← hEq]
        simp only [entries, List.map_map, List.mem_map, Function.comp_apply]
        exact ⟨entry, hEntry, rfl⟩
      unfold UsbDevice.reads
      rw [hRead]
      constructor
      . intro hNot
        by_contra hNone
        apply hNot
        intro entry hEntry
        refine ⟨hKeys entry hEntry, ?_⟩
        intro serial hSerial hEq
        apply hNone
        refine ⟨serial, by rw [hSerial], entry.connectionKey, ?_⟩
        simp only [entries, List.mem_map, Prod.mk.injEq]
        exact ⟨entry, hEntry, rfl, hEq⟩
      . rintro ⟨serial, hSerial, key, hMem⟩ hAll
        injection hSerial with hSerial
        simp only [entries, List.mem_map, Prod.mk.injEq] at hMem
        rcases hMem with ⟨entry, hEntry, _, hEq⟩
        exact (hAll entry hEntry).right serial hSerial hEq
    simp only [hIff]
    split
    . simp
    . rw [← entries_connectRuntime env hRead]

theorem keys_arriveAll (devices : List UsbDevice) {key : String} {serialNumber : Option String}
    (hMem : (key, serialNumber) ∈ (arriveAll devices).entries)
    : key ∈ devices.map UsbDevice.connectionKey := by
  induction devices using List.reverseRecOn with
  | nil => contradiction
  | append_singleton devices device ih =>
    rw [arriveAll_append] at hMem
    rw [List.map_append, List.mem_append]
    have hHandled := handled_arrived (arriveAll devices) device
    generalize ((arriveAll devices).handleDeviceArrived device).1 = env at hMem hHandled
    generalize ((arriveAll devices).handleDeviceArrived device).2 = event at hHandled
    cases hHandled with
    | ignored => exact .inl (ih hMem)
    | arrived =>
      unfold entries at hMem
      rw [List.map_append, List.mem_append] at hMem
      rcases hMem with hMem | hMem
      . exact .inl (ih hMem)
      . simp only [List.map_cons, List.map_nil, List.mem_singleton, Prod.mk.injEq] at hMem
        simp [hMem.left]

theorem fresh_arriveAll {devices : List UsbDevice} {device : UsbDevice}
    (hKeys : ((devices ++ [device]).map UsbDevice.connectionKey).Nodup)
    : device.connectionKey ∉ (arriveAll devices).entries.map Prod.fst := by
  intro hMem
  rw [List.mem_map] at hMem
  rcases hMem with ⟨⟨key, serialNumber⟩, hEntry, hKey⟩
  have hSeen := keys_arriveAll devices hEntry
  rw [List.map_append, List.nodup_append] at hKeys
  exact hKeys.right.right _ hSeen _ (List.mem_singleton_self _) hKey

theorem mem_entries_arriveAll_iff (devices : List UsbDevice) (serial : String)
    (hKeys : (devices.map UsbDevice.connectionKey).Nodup)
    : (∃ key, (key, some serial) ∈ (arriveAll devices).entries)
        ↔
      ∃ device ∈ devices, device.reads serial ∧ device.connects = true := by
  induction devices using List.reverseRecOn with
  | nil => simp [arriveAll, entries, empty]
  | append_singleton devices device ih =>
    have hFresh := fresh_arriveAll hKeys
    rw [List.map_append, List.nodup_append] at hKeys
    have hBefore := ih hKeys.left
    rw [arriveAll_append, entries_handleDeviceArrived _ _ hFresh]
    simp only [List.mem_append, exists_or, hBefore, List.mem_singleton, or_and_right,
      exists_eq_left]
    constructor
    . rintro (hMem | ⟨key, hMem⟩)
      . exact .inl hMem
      . split at hMem
        . contradiction
        . rw [Option.mem_toList] at hMem
          exact .inr (connects_of_mem hMem).right
    . rintro (hMem | ⟨hReads, hConnects⟩)
      . exact .inl hMem
      . by_cases hSeen : ∃ device ∈ devices, device.reads serial ∧ device.connects = true
        . exact .inl hSeen
        . refine .inr ⟨device.connectionKey, ?_⟩
          have hNew : ¬ ∃ other, device.reads other
              ∧ ∃ key, (key, some other) ∈ (arriveAll devices).entries := by
            rintro ⟨other, hOther, hEntry⟩
            unfold UsbDevice.reads at hReads hOther
            rw [hReads] at hOther
            injection hOther with hOther
            injection hOther with hOther
            rw [← hOther] at hEntry
            exact hSeen (hBefore.mp hEntry)
          simp [hNew, entry?_of_connects hReads hConnects]

end Arrivals

theorem FirstConnects.of_append (hFirst : FirstConnects (devices ++ [device]))
    : FirstConnects devices := by
  intro serial first hFind hSome
  apply hFirst serial first
  . simp [List.find?_append, hFind]
  . rcases hSome with ⟨other, hOther, hRest⟩
    exact ⟨other, List.mem_append_left _ hOther, hRest⟩

theorem entries_new_eq (hKeys : (devices.map UsbDevice.connectionKey).Nodup)
    (hFirst : FirstConnects devices)
    : (new devices).entries = (arriveAll devices).entries := by
  induction devices using List.reverseRecOn with
  | nil => rfl
  | append_singleton devices device ih =>
    have hFresh := fresh_arriveAll hKeys
    rw [List.map_append, List.nodup_append] at hKeys
    rw [entries_new_append, arriveAll_append, entries_handleDeviceArrived _ _ hFresh]
    rw [ih hKeys.left hFirst.of_append]
    have hArrivals := fun serial => mem_entries_arriveAll_iff devices serial hKeys.left
    congr 1
    split
    . next hSeen =>
      rcases hSeen with ⟨serial, hReads, other, hOther, hOtherReads⟩
      split
      . rfl
      . next hNone =>
        have hEntry : device.entry? = none := by
          by_contra hEntry
          rcases Option.ne_none_iff_exists'.mp hEntry with ⟨⟨key, serialNumber⟩, hSome⟩
          rcases connects_of_mem hSome with ⟨_, _, hConnects⟩
          have hFind : (devices.find? fun other => decide (other.reads serial)).isSome = true := by
            rw [List.find?_isSome]
            exact ⟨other, hOther, by simpa using hOtherReads⟩
          rcases Option.isSome_iff_exists.mp hFind with ⟨first, hFind⟩
          -- the device connects, so the first one of its serial number does
          have hFirstConnects : first.connects = true := by
            apply hFirst serial first
            . simp [List.find?_append, hFind]
            . exact ⟨device, List.mem_append_right _ (List.mem_singleton_self _), hReads, hConnects⟩
          apply hNone
          refine ⟨serial, hReads, ?_⟩
          rw [hArrivals]
          refine ⟨first, List.mem_of_find?_eq_some hFind, ?_, hFirstConnects⟩
          simpa using List.find?_some hFind
        simp [hEntry]
    . next hNew =>
      split
      . next hSome =>
        rcases hSome with ⟨serial, hReads, hMem⟩
        rw [hArrivals] at hMem
        rcases hMem with ⟨other, hOther, hOtherReads, _⟩
        exact absurd ⟨serial, hReads, other, hOther, hOtherReads⟩ hNew
      . rfl

/--
The order, the serial numbers, when they can be read, and the outcomes of all connects are arbitrary.
-/
theorem new_eq_arriveAll_iff (devices : List UsbDevice)
    (hKeys : (devices.map UsbDevice.connectionKey).Nodup)
    : ((new devices).entries = (arriveAll devices).entries ↔ FirstConnects devices)
        ∧
      ((∀ serial, (∃ device ∈ devices, device.reads serial ∧ device.connects = true)
          →
        ∃ key, (key, some serial) ∈ (new devices).entries)
          ↔
        FirstConnects devices) := by
  have hNecessary : (∀ serial, (∃ device ∈ devices, device.reads serial ∧ device.connects = true)
      → ∃ key, (key, some serial) ∈ (new devices).entries) → FirstConnects devices := by
    intro hAll serial first hFind hSome
    have hMem := hAll serial hSome
    rw [mem_entries_new_iff] at hMem
    rcases hMem with ⟨other, hOther, hConnects⟩
    rw [hFind] at hOther
    injection hOther with hOther
    rw [hOther]
    exact hConnects
  have hSufficient : (new devices).entries = (arriveAll devices).entries →
      ∀ serial, (∃ device ∈ devices, device.reads serial ∧ device.connects = true)
        → ∃ key, (key, some serial) ∈ (new devices).entries := by
    intro hEq serial hSome
    rw [hEq, mem_entries_arriveAll_iff _ _ hKeys]
    exact hSome
  constructor
  . constructor
    . intro hEq
      exact hNecessary (hSufficient hEq)
    . exact entries_new_eq hKeys
  . constructor
    . exact hNecessary
    . intro hFirst
      exact hSufficient (entries_new_eq hKeys hFirst)

theorem new_eq_arriveAll_iff_twoBackends
    : let devices : List UsbDevice :=
        [⟨"rusb:1:4", none, .ok (some "EP1"), .ok ()⟩,
          ⟨"serialport:ttyACM0:EP1", some "EP1", .ok (some "EP1"), .ok ()⟩]
      (new devices).entries = [("rusb:1:4", some "EP1")]
        ∧
      FirstConnects devices := by
  intro devices
  have hEntries : (new devices).entries = [("rusb:1:4", some "EP1")] := by decide
  constructor
  . exact hEntries
  . apply (new_eq_arriveAll_iff devices (by decide)).left.mp
    decide

/-
Two ports of one device, and the first one cannot be opened. The loop then skips the second one, which an arrival
connects.
-/
theorem not_new_eq_arriveAll
    : ¬ ∀ devices : List UsbDevice, (devices.map UsbDevice.connectionKey).Nodup →
        (new devices).entries = (arriveAll devices).entries := by
  intro h
  have hEq := h
    [⟨"serialport:/dev/cu.usbmodem1:EP1", some "EP1", .error (.usbText "Device or resource busy"),
        .error (.usbText "Device or resource busy")⟩,
      ⟨"serialport:/dev/tty.usbmodem1:EP1", some "EP1", .ok (some "EP1"), .ok ()⟩] (by decide)
  revert hEq
  decide

end UsbEnvironment
end Usb
end Enody
