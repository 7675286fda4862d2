import Enody.Usb.Lemmas.Environment

/-!
This module contains the invariant of the table of connected runtimes: no two entries share a connection
key, a known serial number or a runtime. It holds after `UsbEnvironment::new` and after every event, and
the events that the task sends tell how the table has changed.
-/

namespace Enody
namespace Usb

def ConnectedRuntime.Distinct (a b : ConnectedRuntime) : Prop :=
  a.connectionKey ≠ b.connectionKey
    ∧
  (∀ serialNumber, a.serialNumber = some serialNumber → b.serialNumber ≠ some serialNumber)

namespace UsbEnvironment

variable {env env' : UsbEnvironment} {device : UsbDevice} {event : UsbDeviceEvent}
  {serialNumber : Option String} {runtimeEvent : Option (EnvironmentRuntimeEvent RuntimeId)}

inductive Handled (env : UsbEnvironment)
    : UsbDeviceEvent → UsbEnvironment → Option (EnvironmentRuntimeEvent RuntimeId) → Prop where
  | ignored (event : UsbDeviceEvent) (created : Nat) (hCreated : env.created ≤ created) :
      Handled env event { env with created := created } none
  | arrived (device : UsbDevice) (serialNumber : Option String)
      (hNew : connectedContainsKey env.connectedRuntimes device.connectionKey serialNumber = false) :
      Handled env (.connected device)
        { connectedRuntimes :=
            env.connectedRuntimes ++ [⟨env.created, device.connectionKey, serialNumber⟩]
          created := env.created + 1 }
        (some (.arrived env.created))
  | left (device : UsbDevice) (before after : List ConnectedRuntime) (entry : ConnectedRuntime)
      (hTable : env.connectedRuntimes = before ++ entry :: after)
      (hKey : entry.connectionKey = device.connectionKey) :
      Handled env (.disconnected device) { env with connectedRuntimes := before ++ after }
        (some (.left entry.runtime))

theorem handled_arrived (env : UsbEnvironment) (device : UsbDevice)
    : Handled env (.connected device) (env.handleDeviceArrived device).1
        (env.handleDeviceArrived device).2 := by
  unfold handleDeviceArrived
  split
  . exact .ignored _ env.created (Nat.le_refl _)
  . next serialNumber _ =>
    split
    . exact .ignored _ env.created (Nat.le_refl _)
    . next hNew =>
      unfold connectRuntime
      cases device.runtimeConnect with
      | error => exact .ignored _ (env.created + 1) (Nat.le_succ _)
      | ok => exact .arrived device serialNumber (by simpa using hNew)

theorem handled_left (env : UsbEnvironment) (device : UsbDevice)
    : Handled env (.disconnected device) (env.handleDeviceLeft device).1
        (env.handleDeviceLeft device).2 := by
  unfold handleDeviceLeft
  simp only
  split
  . exact .ignored _ env.created (Nat.le_refl _)
  . next entry hFind =>
    rw [List.find?_eq_some_iff_append] at hFind
    rcases hFind with ⟨hKey, before, after, hTable, hBefore⟩
    have hErase : (env.connectedRuntimes.eraseP fun connected =>
        connected.connectionKey == device.connectionKey) = before ++ after := by
      rw [hTable]
      rw [List.eraseP_append_right]
      . simp [hKey]
      . intro other hOther
        simpa using hBefore other hOther
    rw [hErase]
    exact .left device before after entry hTable (by simpa using hKey)

theorem handled (env : UsbEnvironment) (event : UsbDeviceEvent)
    : Handled env event (env.handleDeviceEvent event).1 (env.handleDeviceEvent event).2 := by
  cases event with
  | connected device => exact handled_arrived env device
  | disconnected device => exact handled_left env device

structure Unique (env : UsbEnvironment) : Prop where
  entries : env.connectedRuntimes.Pairwise ConnectedRuntime.Distinct
  runtimes : env.runtimes.Nodup
  created : ∀ runtime ∈ env.runtimes, runtime < env.created

theorem connectedContainsKey_eq_false_iff (connected : List ConnectedRuntime) (key : String)
    (serialNumber : Option String)
    : connectedContainsKey connected key serialNumber = false
        ↔
      ∀ entry ∈ connected,
        entry.connectionKey ≠ key
          ∧
        ∀ serial, serialNumber = some serial → entry.serialNumber ≠ some serial := by
  unfold connectedContainsKey
  rw [List.any_eq_false]
  apply forall₂_congr
  intro entry _
  cases serialNumber with
  | none => simp
  | some serial => simp

namespace Unique

theorem empty : Unique .empty where
  entries := .nil
  runtimes := .nil
  created := by
    intro runtime hRuntime
    contradiction

theorem mono (hUnique : env.Unique) {created : Nat} (hCreated : env.created ≤ created)
    : Unique { env with created := created } where
  entries := hUnique.entries
  runtimes := hUnique.runtimes
  created := by
    intro runtime hRuntime
    exact Nat.lt_of_lt_of_le (hUnique.created runtime hRuntime) hCreated

theorem push (hUnique : env.Unique) {key : String}
    (hNew : connectedContainsKey env.connectedRuntimes key serialNumber = false)
    : Unique
        { connectedRuntimes := env.connectedRuntimes ++ [⟨env.created, key, serialNumber⟩]
          created := env.created + 1 } := by
  rw [connectedContainsKey_eq_false_iff] at hNew
  constructor
  . simp only
    rw [List.pairwise_append]
    refine ⟨hUnique.entries, List.pairwise_singleton _ _, ?_⟩
    intro entry hEntry other hOther
    rw [List.mem_singleton] at hOther
    subst hOther
    rcases hNew entry hEntry with ⟨hKey, hSerial⟩
    constructor
    . exact hKey
    . intro serial hEq hOther
      exact hSerial serial hOther hEq
  . unfold UsbEnvironment.runtimes
    rw [List.map_append, List.map_singleton, List.nodup_append]
    refine ⟨hUnique.runtimes, List.nodup_singleton _, ?_⟩
    intro runtime hRuntime other hOther
    rw [List.mem_singleton] at hOther
    subst hOther
    exact Nat.ne_of_lt (hUnique.created runtime hRuntime)
  . intro runtime hRuntime
    unfold UsbEnvironment.runtimes at hRuntime
    rw [List.map_append, List.mem_append] at hRuntime
    simp only
    rcases hRuntime with hRuntime | hRuntime
    . exact Nat.lt_succ_of_lt (hUnique.created runtime hRuntime)
    . simp only [List.map_cons, List.map_nil, List.mem_singleton] at hRuntime
      rw [hRuntime]
      exact Nat.lt_succ_self _

theorem remove {before after : List ConnectedRuntime} {entry : ConnectedRuntime}
    (hUnique : env.Unique) (hTable : env.connectedRuntimes = before ++ entry :: after)
    : Unique { env with connectedRuntimes := before ++ after } := by
  have hSublist : (before ++ after).Sublist env.connectedRuntimes := by
    rw [hTable]
    apply List.Sublist.append_left
    exact List.sublist_cons_self _ _
  constructor
  . exact hUnique.entries.sublist hSublist
  . exact hUnique.runtimes.sublist (hSublist.map _)
  . intro runtime hRuntime
    apply hUnique.created
    exact (hSublist.map _).subset hRuntime

theorem handled (hUnique : env.Unique) (hHandled : Handled env event env' runtimeEvent)
    : env'.Unique := by
  cases hHandled with
  | ignored _ _ hCreated => exact hUnique.mono hCreated
  | arrived _ _ hNew => exact hUnique.push hNew
  | left _ _ _ _ hTable => exact hUnique.remove hTable

theorem keys_nodup (hUnique : env.Unique) : env.keys.Nodup := by
  unfold keys List.Nodup
  rw [List.pairwise_map]
  apply hUnique.entries.imp
  intro a b hDistinct
  exact hDistinct.left

end Unique

section New

/--
What the loop of `new` keeps: known serial numbers of the table are in the set, and keys of the table are
keys of devices that the loop has seen.
-/
structure Attached (seen : List String) (state : UsbEnvironment × List String) : Prop where
  unique : state.1.Unique
  keys : ∀ entry ∈ state.1.connectedRuntimes, entry.connectionKey ∈ seen
  serials : ∀ entry ∈ state.1.connectedRuntimes, ∀ serial,
    entry.serialNumber = some serial → serial ∈ state.2

variable {seen : List String} {state : UsbEnvironment × List String} {serials : List String}

theorem Attached.skip (hAttached : Attached seen state) (key : String)
    (hSerials : ∀ serial ∈ state.2, serial ∈ serials)
    : Attached (key :: seen) (state.1, serials) where
  unique := hAttached.unique
  keys := by
    intro entry hEntry
    exact List.mem_cons_of_mem _ (hAttached.keys entry hEntry)
  serials := by
    intro entry hEntry serial hSerial
    exact hSerials _ (hAttached.serials entry hEntry serial hSerial)

theorem Attached.connectRuntime (hAttached : Attached seen state)
    (hKey : device.connectionKey ∉ seen)
    (hFresh : ∀ serial, serialNumber = some serial → serial ∉ state.2)
    (hSerials : ∀ serial ∈ state.2, serial ∈ serials)
    (hMem : ∀ serial, serialNumber = some serial → serial ∈ serials)
    : Attached (device.connectionKey :: seen)
        ((state.1.connectRuntime device serialNumber).1, serials) := by
  have hNew : connectedContainsKey state.1.connectedRuntimes device.connectionKey serialNumber
      = false := by
    rw [connectedContainsKey_eq_false_iff]
    intro entry hEntry
    constructor
    . intro hEq
      apply hKey
      rw [← hEq]
      exact hAttached.keys entry hEntry
    . intro serial hSerial hEq
      apply hFresh serial hSerial
      exact hAttached.serials entry hEntry serial hEq
  have hSkip := hAttached.skip device.connectionKey hSerials
  unfold UsbEnvironment.connectRuntime
  cases device.runtimeConnect with
  | error => exact ⟨hSkip.unique.mono (Nat.le_succ _), hSkip.keys, hSkip.serials⟩
  | ok =>
    constructor
    . exact hAttached.unique.push hNew
    . intro entry hEntry
      rw [List.mem_append, List.mem_singleton] at hEntry
      rcases hEntry with hEntry | rfl
      . exact hSkip.keys entry hEntry
      . exact List.mem_cons_self
    . intro entry hEntry serial hSerial
      rw [List.mem_append, List.mem_singleton] at hEntry
      rcases hEntry with hEntry | rfl
      . exact hSkip.serials entry hEntry serial hSerial
      . exact hMem serial hSerial

theorem Attached.attach (hAttached : Attached seen state) (hKey : device.connectionKey ∉ seen)
    : Attached (device.connectionKey :: seen) (attach state device) := by
  unfold UsbEnvironment.attach
  simp only
  split
  . exact hAttached.skip _ (fun _ h => h)
  . apply hAttached.connectRuntime hKey
    . intro serial hSerial
      contradiction
    . exact fun _ h => h
    . intro serial hSerial
      contradiction
  . next serial _ =>
    split
    . exact hAttached.skip _ (fun _ h => h)
    . next hFresh =>
      apply hAttached.connectRuntime hKey
      . intro other hOther
        injection hOther with hOther
        rw [← hOther]
        exact hFresh
      . intro other hOther
        exact List.mem_cons_of_mem _ hOther
      . intro other hOther
        injection hOther with hOther
        rw [← hOther]
        exact List.mem_cons_self

theorem Attached.foldl (devices : List UsbDevice) (hAttached : Attached seen state)
    (hKeys : (devices.map UsbDevice.connectionKey).Nodup)
    (hSeen : ∀ device ∈ devices, device.connectionKey ∉ seen)
    : (devices.foldl UsbEnvironment.attach state).1.Unique := by
  induction devices generalizing seen state with
  | nil => exact hAttached.unique
  | cons device devices ih =>
    rw [List.map_cons, List.nodup_cons] at hKeys
    rw [List.foldl_cons]
    apply ih (hAttached.attach (hSeen device List.mem_cons_self)) hKeys.right
    intro other hOther hMem
    rw [List.mem_cons] at hMem
    rcases hMem with hEq | hMem
    . apply hKeys.left
      rw [← hEq]
      exact List.mem_map_of_mem hOther
    . exact hSeen other (List.mem_cons_of_mem _ hOther) hMem

theorem Unique.new {devices : List UsbDevice}
    (hKeys : (devices.map UsbDevice.connectionKey).Nodup)
    : (new devices).Unique := by
  have hEmpty : Attached [] (UsbEnvironment.empty, []) := by
    constructor
    . exact .empty
    . intro entry hEntry
      contradiction
    . intro entry hEntry
      contradiction
  apply hEmpty.foldl devices hKeys
  intro device _ hMem
  contradiction

end New

end UsbEnvironment

def applyEvent (runtimes : List RuntimeId) : EnvironmentRuntimeEvent RuntimeId → List RuntimeId
  | .arrived runtime => runtimes ++ [runtime]
  | .left runtime => runtimes.erase runtime

def replay (runtimes : List RuntimeId) (events : List (EnvironmentRuntimeEvent RuntimeId))
    : List RuntimeId :=
  events.foldl applyEvent runtimes

namespace UsbEnvironment

variable {env env' : UsbEnvironment} {event : UsbDeviceEvent}
  {runtimeEvent : Option (EnvironmentRuntimeEvent RuntimeId)}

theorem replay_handled (hUnique : env.Unique) (hHandled : Handled env event env' runtimeEvent)
    : replay env.runtimes runtimeEvent.toList = env'.runtimes := by
  cases hHandled with
  | ignored => rfl
  | arrived => simp [replay, applyEvent, runtimes]
  | left device before after entry hTable hKey =>
    have hRuntimes : env.runtimes
        = before.map ConnectedRuntime.runtime ++ entry.runtime :: after.map ConnectedRuntime.runtime := by
      simp [runtimes, hTable]
    have hNodup := hUnique.runtimes
    rw [hRuntimes, List.nodup_append] at hNodup
    have hBefore : entry.runtime ∉ before.map ConnectedRuntime.runtime := by
      intro hMem
      exact hNodup.right.right _ hMem _ List.mem_cons_self rfl
    simp only [replay, Option.toList_some, List.foldl_cons, List.foldl_nil, applyEvent]
    rw [hRuntimes, List.erase_append_right _ hBefore, List.erase_cons_head]
    simp [runtimes]

/-
What the task has sent is the history of the table since the task was started.
-/
theorem eventTask_replay (hUnique : env.Unique) (events : List UsbDeviceEvent)
    : (env.eventTask events).1.Unique
        ∧
      replay env.runtimes (env.eventTask events).2 = (env.eventTask events).1.runtimes := by
  induction events generalizing env with
  | nil => exact ⟨hUnique, rfl⟩
  | cons event events ih =>
    have hHandled := handled env event
    have hFirst := replay_handled hUnique hHandled
    rcases ih (hUnique.handled hHandled) with ⟨hRest, hReplay⟩
    constructor
    . exact hRest
    . unfold replay at *
      simp only [eventTask, List.foldl_append]
      rw [hFirst, hReplay]

theorem left_iff_removed (hUnique : env.Unique) (hHandled : Handled env event env' runtimeEvent)
    (runtime : RuntimeId)
    : runtimeEvent = some (.left runtime)
        ↔
      ∃ before entry after,
        env.connectedRuntimes = before ++ entry :: after
          ∧
        entry.runtime = runtime
          ∧
        env'.connectedRuntimes = before ++ after := by
  constructor
  . intro hLeft
    cases hHandled with
    | ignored => contradiction
    | arrived => injection hLeft with hLeft; contradiction
    | left device before after entry hTable hKey =>
      injection hLeft with hLeft
      injection hLeft with hLeft
      exact ⟨before, entry, after, hTable, hLeft, rfl⟩
  . rintro ⟨before, entry, after, hTable, hRuntime, hTable'⟩
    -- the table has become shorter, so an entry has been removed, and only one entry has this runtime
    have hLength := congrArg List.length hTable'
    rw [List.length_append] at hLength
    have hLength' := congrArg List.length hTable
    rw [List.length_append, List.length_cons] at hLength'
    cases hHandled with
    | ignored => simp only at hLength; omega
    | arrived => simp only [List.length_append] at hLength; omega
    | left device before' after' entry' hSplit hKey =>
      have hPerm : (entry :: (before ++ after)).Perm (entry' :: (before' ++ after')) := by
        apply (List.perm_middle.symm.trans _).trans List.perm_middle
        rw [← hTable, ← hSplit]
      simp only at hTable'
      rw [hTable'] at hPerm
      have hEntry : entry ∈ entry' :: (before ++ after) := hPerm.subset List.mem_cons_self
      rw [List.mem_cons] at hEntry
      rcases hEntry with rfl | hEntry
      . rw [hRuntime]
      . have hNodup := hUnique.runtimes
        unfold runtimes at hNodup
        rw [hTable, (List.perm_middle.map _).nodup_iff, List.map_cons, List.nodup_cons] at hNodup
        exact absurd (List.mem_map_of_mem hEntry) hNodup.left

theorem arrived_iff_appended (hHandled : Handled env event env' runtimeEvent) (runtime : RuntimeId)
    : runtimeEvent = some (.arrived runtime)
        ↔
      ∃ entry, entry.runtime = runtime
        ∧ env'.connectedRuntimes = env.connectedRuntimes ++ [entry] := by
  constructor
  . intro hArrived
    cases hHandled with
    | ignored => contradiction
    | arrived device serialNumber =>
      injection hArrived with hArrived
      injection hArrived with hArrived
      exact ⟨_, hArrived, rfl⟩
    | left => injection hArrived with hArrived; contradiction
  . rintro ⟨entry, hRuntime, hTable⟩
    have hLength := congrArg List.length hTable
    rw [List.length_append, List.length_singleton] at hLength
    cases hHandled with
    | ignored => simp only at hLength; omega
    | arrived device serialNumber =>
      simp only [List.append_cancel_left_eq, List.cons.injEq, and_true] at hTable
      rw [← hRuntime, ← hTable]
    | left _ _ _ _ hSplit =>
      rw [hSplit] at hLength
      simp only [List.length_append, List.length_cons] at hLength
      omega

theorem unchanged_of_none (hHandled : Handled env event env' runtimeEvent)
    (hNone : runtimeEvent = none)
    : env'.connectedRuntimes = env.connectedRuntimes := by
  cases hHandled with
  | ignored => rfl
  | arrived => contradiction
  | left => contradiction

/--
The devices, the outcomes of their connects, the serial numbers they report and the events are
arbitrary. Whatever the task has handled so far, the table and the events sent satisfy this, and so does
the next event.
-/
theorem eventTask_unique (devices : List UsbDevice) (events : List UsbDeviceEvent)
    (event : UsbDeviceEvent) (env env' : UsbEnvironment)
    (runtimeEvents : List (EnvironmentRuntimeEvent RuntimeId))
    (runtimeEvent : Option (EnvironmentRuntimeEvent RuntimeId))
    (hKeys : (devices.map UsbDevice.connectionKey).Nodup)
    (hTask : (new devices).eventTask events = (env, runtimeEvents))
    (hEvent : env.handleDeviceEvent event = (env', runtimeEvent))
    : env.connectedRuntimes.Pairwise ConnectedRuntime.Distinct
        ∧
      replay (new devices).runtimes runtimeEvents = env.runtimes
        ∧
      (∀ runtime,
        runtimeEvent = some (.arrived runtime)
          ↔
        ∃ entry, entry.runtime = runtime
          ∧ env'.connectedRuntimes = env.connectedRuntimes ++ [entry])
        ∧
      (∀ runtime,
        runtimeEvent = some (.left runtime)
          ↔
        ∃ before entry after, env.connectedRuntimes = before ++ entry :: after
          ∧ entry.runtime = runtime ∧ env'.connectedRuntimes = before ++ after)
        ∧
      (runtimeEvent = none → env'.connectedRuntimes = env.connectedRuntimes)
        ∧
      ∀ device, event = .disconnected device →
        env'.connectedRuntimes
          =
        env.connectedRuntimes.filter fun entry => entry.connectionKey ≠ device.connectionKey := by
  have hBoth := eventTask_replay (Unique.new hKeys) events
  rw [hTask] at hBoth
  rcases hBoth with ⟨hUnique, hReplay⟩
  have hHandled := handled env event
  rw [hEvent] at hHandled
  refine ⟨hUnique.entries, hReplay, arrived_iff_appended hHandled, left_iff_removed hUnique hHandled,
    unchanged_of_none hHandled, ?_⟩
  intro device hDevice
  subst hDevice
  have hLeft := handleDeviceLeft_eq env device
  have hEnv : (env.handleDeviceLeft device).1 = env' := congrArg Prod.fst hEvent
  rw [← hEnv, hLeft]
  exact eraseP_key_of_nodup _ _ hUnique.keys_nodup

theorem eventTask_unique_unplug
    : ∃ env env' : UsbEnvironment,
        replay [0] [.arrived 1] = env.runtimes
          ∧
        env'.connectedRuntimes
          =
        env.connectedRuntimes.filter fun entry => entry.connectionKey ≠ "rusb:1:4" := by
  have h := eventTask_unique
    [⟨"rusb:1:4", none, .ok (some "EP1"), .ok ()⟩,
      ⟨"serialport:ttyACM0:EP1", some "EP1", .ok (some "EP1"), .ok ()⟩]
    [.connected ⟨"serialport:ttyACM1:EP2", some "EP2", .ok (some "EP2"), .ok ()⟩]
    (.disconnected ⟨"rusb:1:4", some "EP1", .ok (some "EP1"), .ok ()⟩)
    ⟨[⟨0, "rusb:1:4", some "EP1"⟩, ⟨1, "serialport:ttyACM1:EP2", some "EP2"⟩], 2⟩
    ⟨[⟨1, "serialport:ttyACM1:EP2", some "EP2"⟩], 2⟩
    [.arrived 1] (some (.left 0)) (by decide) (by decide) (by decide)
  rcases h with ⟨_, hReplay, _, _, _, hLeft⟩
  exact ⟨_, _, hReplay, hLeft _ rfl⟩

end UsbEnvironment
end Usb
end Enody
