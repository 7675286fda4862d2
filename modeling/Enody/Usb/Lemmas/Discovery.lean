import Enody.Service.Lifecycle
import Enody.Usb.Impl.Discovery
import Enody.Usb.Lemmas.Environment

/-!
This module contains what the calls of `start_discovery` and `stop_discovery` do when the backends
succeed, and the way of an event through a discovering `UsbEnvironment`.
-/

namespace Enody
namespace Usb

namespace Backend

@[simp]
theorem isRunning_start (backend : Backend)
    : (backend.startDiscovery (.ok ())).1.isRunning = true := by
  unfold startDiscovery
  split
  . next hRunning => exact hRunning
  . cases backend <;> rfl

@[simp]
theorem start_ok (backend : Backend) : (backend.startDiscovery (.ok ())).2 = .ok () := by
  unfold startDiscovery
  split
  . rfl
  . cases backend <;> rfl

@[simp]
theorem isRunning_stop (backend : Backend) (finishes : Bool)
    : (backend.stopDiscovery finishes).1.isRunning = false := by
  unfold stopDiscovery
  cases backend with
  | rusb => simp only; split <;> rfl
  | serialPort => simp only; split <;> rfl

theorem stop_of_finishes (backend : Backend) : (backend.stopDiscovery true).2 = .ok () := by
  simp [stopDiscovery]

theorem stop_of_not_running {backend : Backend} (h : backend.isRunning = false)
    : (backend.stopDiscovery true).1 = backend := by
  cases backend with
  | rusb running registrations =>
    cases running with
    | true => contradiction
    | false => rfl
  | serialPort running =>
    cases running with
    | true => contradiction
    | false => rfl

end Backend

namespace UsbDiscovery

variable {s t : UsbDiscovery} {debugFormat : Error .std → String}

def operations (debugFormat : Error .std → String) : Service.Operations UsbDiscovery (Error .std) where
  start := startDiscovery debugFormat .success
  stop := stopDiscovery .success

structure Discovers (s : UsbDiscovery) : Prop where
  eventHandlerTask : s.eventHandlerTask.isSome = true
  backends : ∀ backend ∈ s.backends, backend.isRunning = true

structure Stopped (s : UsbDiscovery) : Prop where
  eventHandlerTask : s.eventHandlerTask = none
  backends : ∀ backend ∈ s.backends, backend.isRunning = false

theorem startBackends_success (index : Nat) (backends : List Backend)
    : startBackends .success index backends
        =
      (backends.map fun backend => (backend.startDiscovery (.ok ())).1, none) := by
  induction backends generalizing index with
  | nil => rfl
  | cons backend backends ih =>
    have hOk := backend.start_ok
    unfold startBackends
    rw [ih]
    simp only [Outcomes.success, List.map_cons]
    split
    . next hStart =>
      rw [hStart] at hOk
      contradiction
    . next hStart => rw [hStart]

theorem mapIdx_const {α β : Type} (f : α → β) (as : List α) : as.mapIdx (fun _ a => f a) = as.map f := by
  apply List.ext_getElem
  . simp
  . intro index _ _
    simp

theorem stop_success (s : UsbDiscovery)
    : s.stopDiscovery .success
        =
      ({ s with
          backends := s.backends.map fun backend => (backend.stopDiscovery true).1
          eventHandlerTask := none }, .ok ()) := by
  unfold stopDiscovery
  simp only [Outcomes.success, mapIdx_const]
  rw [List.findSome?_eq_none_iff.mpr, List.map_map]
  . rfl
  . intro stopped hStopped
    rw [List.mem_map] at hStopped
    rcases hStopped with ⟨backend, _, rfl⟩
    simp [backend.stop_of_finishes, errorOf]

theorem Discovers.start_eq (hDiscovers : s.Discovers) (debugFormat : Error .std → String)
    : s.startDiscovery debugFormat .success = (s, .ok ()) := by
  rcases Option.isSome_iff_exists.mp hDiscovers.eventHandlerTask with ⟨events, hTask⟩
  unfold startDiscovery
  simp only [hTask]

theorem start_eq {eventRx : DeviceEvents} (hTask : s.eventHandlerTask = none)
    (hRx : s.deviceEventRx = some eventRx)
    : s.startDiscovery debugFormat .success
        =
      ({ s with
          backends := s.backends.map fun backend => (backend.startDiscovery (.ok ())).1
          deviceEventRx := none
          eventHandlerTask := some eventRx }, .ok ()) := by
  unfold startDiscovery
  simp only [hTask, hRx, startBackends_success]

theorem stopped_stop (s : UsbDiscovery) : (s.stopDiscovery .success).1.Stopped := by
  rw [stop_success]
  constructor
  . rfl
  . intro backend hBackend
    rw [List.mem_map] at hBackend
    rcases hBackend with ⟨before, _, rfl⟩
    simp

theorem Stopped.stop_eq (hStopped : s.Stopped) : (s.stopDiscovery .success).1 = s := by
  have hBackends : (s.backends.map fun backend => (backend.stopDiscovery true).1) = s.backends := by
    rw [List.map_congr_left (g := id)]
    . simp
    . intro backend hBackend
      exact Backend.stop_of_not_running (hStopped.backends backend hBackend)
  rw [stop_success]
  simp only
  rw [hBackends, ← hStopped.eventHandlerTask]

section Pipeline

def handleAll : Nat → UsbDiscovery → Option UsbDiscovery
  | 0, s => some s
  | n + 1, s => s.handleEvent.bind (handleAll n)

theorem handleEvent_eq {event : UsbDeviceEvent} {rest : List UsbDeviceEvent} {events : DeviceEvents}
    (hTask : s.eventHandlerTask = some events) (hQueue : events.queue = event :: rest)
    (hRoom : s.runtimeEvents.queue.length < runtimeEventChannelSize)
    : ∃ t events',
        s.handleEvent = some t
          ∧
        t.eventHandlerTask = some events'
          ∧
        events'.queue = rest
          ∧
        t.environment = (s.environment.handleDeviceEvent event).1
          ∧
        t.runtimeEvents.queue
          = s.runtimeEvents.queue ++ (s.environment.handleDeviceEvent event).2.toList := by
  rcases Channel.recv_eq_some_of_queue_eq_cons hQueue with ⟨events', hRecv, hRest⟩
  unfold handleEvent
  simp only [hTask, hRecv]
  generalize s.environment.handleDeviceEvent event = handled
  rcases handled with ⟨environment, runtimeEvent⟩
  cases runtimeEvent with
  | none => exact ⟨_, events', rfl, rfl, hRest, rfl, by simp⟩
  | some runtimeEvent =>
    simp only
    cases hSend : s.runtimeEvents.trySend runtimeEvent with
    | none =>
      rw [Channel.trySend_eq_none_iff] at hSend
      omega
    | some runtimeEvents =>
      refine ⟨_, events', rfl, rfl, hRest, rfl, ?_⟩
      simp [Channel.queue_of_trySend_eq_some hSend]

theorem handleAll_eq (queue : List UsbDeviceEvent) {events : DeviceEvents}
    (hTask : s.eventHandlerTask = some events) (hQueue : events.queue = queue)
    (hRoom : s.runtimeEvents.queue.length + queue.length ≤ runtimeEventChannelSize)
    : ∃ t,
        handleAll queue.length s = some t
          ∧
        t.eventHandlerTask.isSome = true
          ∧
        t.runtimeEvents.queue = s.runtimeEvents.queue ++ (s.environment.eventTask queue).2 := by
  induction queue generalizing s events with
  | nil => exact ⟨s, rfl, by simp [hTask], by simp [UsbEnvironment.eventTask]⟩
  | cons event rest ih =>
    rw [List.length_cons] at hRoom
    rcases handleEvent_eq hTask hQueue (by omega) with ⟨t, events', hFirst, hTask', hQueue', hEnv, hSent⟩
    have hSentLength : (s.environment.handleDeviceEvent event).2.toList.length ≤ 1 := by
      cases (s.environment.handleDeviceEvent event).2 <;> simp
    have hRoom' : t.runtimeEvents.queue.length + rest.length ≤ runtimeEventChannelSize := by
      rw [hSent, List.length_append]
      omega
    rcases ih hTask' hQueue' hRoom' with ⟨u, hAll, hRunning, hRest⟩
    refine ⟨u, ?_, hRunning, ?_⟩
    . simp [handleAll, hFirst, hAll]
    . rw [hRest, hSent, hEnv]
      simp [UsbEnvironment.eventTask]

/--
Backend events reach `next_runtime_event`: a running backend puts its event behind those that the task
has not handled yet. When the task has handled them all, the channel has their runtime events, and
`next_runtime_event` returns the first of the channel.
-/
structure Delivers (s : UsbDiscovery) : Prop where
  reported : ∀ index < s.backends.length, ∀ (event : UsbDeviceEvent) (events : DeviceEvents),
    s.eventHandlerTask = some events →
    events.queue.length < usbEventChannelSize →
    s.runtimeEvents.queue.length + events.queue.length < runtimeEventChannelSize →
    ∃ t u,
      s.backendEvent index event = some t
        ∧
      handleAll (events.queue.length + 1) t = some u
        ∧
      u.runtimeEvents.queue
        = s.runtimeEvents.queue ++ (s.environment.eventTask (events.queue ++ [event])).2
        ∧
      u.eventHandlerTask.isSome = true
  received : ∀ runtimeEvent rest, s.runtimeEvents.queue = runtimeEvent :: rest →
    ∃ t, s.nextRuntimeEvent = some (t, .ok runtimeEvent) ∧ t.runtimeEvents.queue = rest

theorem Discovers.reported (hDiscovers : s.Discovers) {index : Nat} (event : UsbDeviceEvent)
    {events : DeviceEvents} (hIndex : index < s.backends.length)
    (hTask : s.eventHandlerTask = some events)
    (hRoom : events.queue.length < usbEventChannelSize)
    : ∃ events',
        s.backendEvent index event = some { s with eventHandlerTask := some events' }
          ∧
        events'.queue = events.queue ++ [event] := by
  have hRunning := hDiscovers.backends _ (List.getElem_mem hIndex)
  have hBackend := List.getElem?_eq_getElem hIndex
  unfold backendEvent
  simp only [hBackend, hRunning, hTask, ↓reduceIte]
  cases hSend : events.trySend event with
  | none =>
    rw [Channel.trySend_eq_none_iff] at hSend
    omega
  | some events' => exact ⟨events', rfl, Channel.queue_of_trySend_eq_some hSend⟩

theorem Discovers.delivers (hDiscovers : s.Discovers) : s.Delivers := by
  constructor
  . intro index hIndex event events hTask hRoom hRuntimeRoom
    rcases hDiscovers.reported event hIndex hTask hRoom with ⟨events', hReported, hQueue⟩
    have hLength : (events.queue ++ [event]).length = events.queue.length + 1 := by simp
    have hAll := handleAll_eq (s := { s with eventHandlerTask := some events' })
      (events.queue ++ [event]) rfl hQueue (by rw [hLength]; exact hRuntimeRoom)
    rcases hAll with ⟨u, hAll, hRunning, hSent⟩
    rw [hLength] at hAll
    exact ⟨_, u, hReported, hAll, hSent, hRunning⟩
  . intro runtimeEvent rest hQueue
    rcases Option.isSome_iff_exists.mp hDiscovers.eventHandlerTask with ⟨events, hTask⟩
    rcases Channel.recv_eq_some_of_queue_eq_cons hQueue with ⟨runtimeEvents, hRecv, hRest⟩
    unfold nextRuntimeEvent
    simp only [hTask, hRecv]
    exact ⟨_, rfl, hRest⟩

end Pipeline

structure Fresh (s : UsbDiscovery) : Prop where
  stopped : s.Stopped
  deviceEventRx : s.deviceEventRx.isSome = true

structure Spent (s : UsbDiscovery) : Prop where
  stopped : s.Stopped
  deviceEventRx : s.deviceEventRx = none

structure Active (s : UsbDiscovery) : Prop where
  discovers : s.Discovers
  deviceEventRx : s.deviceEventRx = none

theorem not_running_of_mem_enabledBackends {rusbInit serialPortInit : Bool} {backend : Backend}
    (hBackend : backend ∈ enabledBackends rusbInit serialPortInit)
    : backend.isRunning = false := by
  unfold enabledBackends at hBackend
  rw [List.mem_append] at hBackend
  rcases hBackend with hBackend | hBackend
  . split at hBackend
    . rw [List.mem_singleton] at hBackend
      subst hBackend
      rfl
    . contradiction
  . split at hBackend
    . rw [List.mem_singleton] at hBackend
      subst hBackend
      rfl
    . contradiction

theorem Fresh.new (environment : UsbEnvironment) (rusbInit serialPortInit : Bool)
    : (new environment rusbInit serialPortInit).Fresh := by
  constructor
  . constructor
    . rfl
    . intro backend hBackend
      exact not_running_of_mem_enabledBackends hBackend
  . rfl

theorem keeps_stop (s : UsbDiscovery)
    : (operations debugFormat).Keeps (fun s => s.Discovers ∧ s.Delivers) Stopped s .stop where
  succeeds := congrArg Prod.snd s.stop_success
  running := by
    intro h
    contradiction
  stopped := by
    intro _
    exact s.stopped_stop
  again := by
    intro h
    contradiction
  stillStopped := by
    intro _ hStopped
    exact hStopped.stop_eq

theorem keeps_start {s t : UsbDiscovery} (hStart : s.startDiscovery debugFormat .success = (t, .ok ()))
    (hDiscovers : t.Discovers)
    : (operations debugFormat).Keeps (fun s => s.Discovers ∧ s.Delivers) Stopped s .start := by
  have hPerform : (operations debugFormat).perform s .start = (t, .ok ()) := hStart
  constructor
  . rw [hPerform]
  . intro _
    rw [hPerform]
    exact ⟨hDiscovers, hDiscovers.delivers⟩
  . intro h
    contradiction
  . intro _ hRunning
    rw [hPerform]
    rw [hRunning.left.start_eq] at hStart
    injection hStart with hEq
    exact hEq.symm
  . intro h
    contradiction

theorem Fresh.start (hFresh : s.Fresh) (debugFormat : Error .std → String)
    : ∃ t, s.startDiscovery debugFormat .success = (t, .ok ()) ∧ t.Active := by
  rcases Option.isSome_iff_exists.mp hFresh.deviceEventRx with ⟨eventRx, hRx⟩
  refine ⟨_, start_eq hFresh.stopped.eventHandlerTask hRx, ?_⟩
  constructor
  . constructor
    . rfl
    . intro backend hBackend
      rw [List.mem_map] at hBackend
      rcases hBackend with ⟨before, _, rfl⟩
      simp
  . rfl

theorem oneShot (debugFormat : Error .std → String)
    : (operations debugFormat).OneShot (fun s => s.Discovers ∧ s.Delivers) Stopped Fresh Active
        Spent where
  freshStart := by
    intro s hFresh
    rcases hFresh.start debugFormat with ⟨t, hStart, hActive⟩
    have hPerform : (operations debugFormat).perform s .start = (t, .ok ()) := hStart
    constructor
    . exact keeps_start hStart hActive.discovers
    . rw [hPerform]
      exact hActive
  freshStop := by
    intro s hFresh
    constructor
    . exact keeps_stop s
    . have hEq : ((operations debugFormat).perform s .stop).1 = s := hFresh.stopped.stop_eq
      rw [hEq]
      exact hFresh
  activeStart := by
    intro s hActive
    have hStart := hActive.discovers.start_eq debugFormat
    have hPerform : (operations debugFormat).perform s .start = (s, .ok ()) := hStart
    constructor
    . exact keeps_start hStart hActive.discovers
    . rw [hPerform]
      exact hActive
  activeStop := by
    intro s hActive
    constructor
    . exact keeps_stop s
    . exact ⟨s.stopped_stop, hActive.deviceEventRx⟩
  spentStart := by
    intro s hSpent hOk
    have hPerform : (operations debugFormat).perform s .start
        = (s, .error (.debugText "device event channel already consumed")) := by
      unfold Service.Operations.perform operations startDiscovery
      simp only [hSpent.stopped.eventHandlerTask, hSpent.deviceEventRx]
    rw [hPerform] at hOk
    contradiction
  spentStop := by
    intro s hSpent
    constructor
    . exact keeps_stop s
    . have hEq : ((operations debugFormat).perform s .stop).1 = s := hSpent.stopped.stop_eq
      rw [hEq]
      exact hSpent

end UsbDiscovery

end Usb
end Enody
