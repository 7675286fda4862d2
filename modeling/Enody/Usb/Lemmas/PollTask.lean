import Enody.Usb.Impl.PollTask
import Enody.Usb.Lemmas.SerialPort

/-!
This module contains what the polling task has told its receiver about the ports. The task replaces the
known ports after every tick, also when the channel was full and some changes were lost, and later ticks
do not tell them again. A lost change is made up for only by losing the next change of its port as well.
-/

namespace Enody
namespace Usb

open Presence Transition

namespace PortMap

theorem nodup_keys_insert {map : PortMap} (hNodup : map.keys.Nodup) (key : String) (port : SerialPort)
    : (map.insert key port).keys.Nodup := by
  unfold insert keys
  rw [List.map_append, List.nodup_append]
  refine ⟨?_, List.nodup_singleton _, ?_⟩
  . apply List.Nodup.sublist _ hNodup
    exact List.filter_sublist.map Prod.fst
  . intro kept hKept added hAdded
    rw [List.mem_map] at hKept
    rcases hKept with ⟨entry, hEntry, hFst⟩
    have hNe := (List.mem_filter.mp hEntry).right
    rw [List.map_singleton, List.mem_singleton] at hAdded
    rw [← hFst, hAdded]
    simpa using hNe

end PortMap

theorem nodup_keys_portMap (ports : List SerialPort) : (portMap ports).keys.Nodup := by
  have hFold (map : PortMap) (hNodup : map.keys.Nodup)
      : (ports.foldl (fun map port => map.insert port.connectionKey port) map).keys.Nodup := by
    induction ports generalizing map with
    | nil => exact hNodup
    | cons port ports ih =>
      apply ih
      exact PortMap.nodup_keys_insert hNodup _ _
  exact hFold [] List.nodup_nil

theorem map_connectionKey_without (ports : List SerialPort) (other : PortMap)
    : ((portMap ports).without other).map SerialPort.connectionKey
        =
      (portMap ports).keys.filter fun key => key ∉ other.keys := by
  unfold PortMap.without PortMap.keys
  rw [List.filter_map, List.map_map]
  apply List.map_congr_left
  intro entry hEntry
  exact (mem_portMap (List.mem_filter.mp hEntry).left).right.symm

def portKeys (ports : List SerialPort) : Set String :=
  { key | ∃ port ∈ ports, port.connectionKey = key }

theorem difference_of_perm {knownPorts currentPorts arrived departed : List SerialPort}
    (hArrived : arrived.Perm ((portMap currentPorts).without (portMap knownPorts)))
    (hDeparted : departed.Perm ((portMap knownPorts).without (portMap currentPorts)))
    : Difference (portKeys knownPorts) (portKeys currentPorts)
        (arrived.map SerialPort.connectionKey) (departed.map SerialPort.connectionKey) := by
  have hArrived := hArrived.map SerialPort.connectionKey
  have hDeparted := hDeparted.map SerialPort.connectionKey
  rw [map_connectionKey_without] at hArrived hDeparted
  constructor
  . rw [hArrived.nodup_iff]
    exact (nodup_keys_portMap _).filter _
  . rw [hDeparted.nodup_iff]
    exact (nodup_keys_portMap _).filter _
  . intro key
    rw [hArrived.mem_iff, List.mem_filter, mem_keys_portMap, decide_eq_true_eq, mem_keys_portMap]
    rfl
  . intro key
    rw [hDeparted.mem_iff, List.mem_filter, mem_keys_portMap, decide_eq_true_eq, mem_keys_portMap]
    rfl

theorem map_change_events (arrived departed : List SerialPort)
    : (SerialPortPolling.events arrived departed).map UsbDeviceEvent.change
        =
      (arrived.map SerialPort.connectionKey).map .enter
        ++ (departed.map SerialPort.connectionKey).map .leave := by
  unfold SerialPortPolling.events
  simp only [List.map_append, List.map_map]
  rfl

namespace PollTask

variable {initialPorts : List SerialPort} {labels : List PollLabel} {s t : PollTask}

def pending (s : PollTask) : List (Change String) :=
  match s.ticking with
  | some ticking => ticking.pending.map UsbDeviceEvent.change
  | none => []

def latestPorts (s : PollTask) : List SerialPort :=
  match s.ticking with
  | some ticking => ticking.currentPorts
  | none => s.snapshot

structure Tells (initialPorts : List SerialPort) (s : PollTask) : Prop where
  knownPorts : s.knownPorts = portMap s.snapshot
  strict : Strict (portKeys initialPorts) (tried s.attempts ++ s.pending)
  replay : Presence.replay (portKeys initialPorts) (tried s.attempts ++ s.pending) = portKeys s.latestPorts

inductive StepCase (s : PollTask) : PollLabel → PollTask → Prop where
  | tick {tick : Tick} :
      s.ticking = none →
        tick.arrived.Perm ((portMap tick.currentPorts).without s.knownPorts) →
          tick.departed.Perm (s.knownPorts.without (portMap tick.currentPorts)) →
            StepCase s (.tick tick)
              { s with
                  ticking := some
                    ⟨tick.currentPorts, SerialPortPolling.events tick.arrived tick.departed⟩ }
  | enumerationFailed : s.ticking = none → StepCase s .enumerationFailed s
  | accepted {currentPorts : List SerialPort} {event : UsbDeviceEvent} {rest : List UsbDeviceEvent}
      {deviceEvents : DeviceEvents} :
      s.ticking = some ⟨currentPorts, event :: rest⟩ →
        s.deviceEvents.trySend event = some deviceEvents →
          StepCase s .trySend
            { s with
                ticking := some ⟨currentPorts, rest⟩
                deviceEvents := deviceEvents
                attempts := s.attempts ++ [⟨event.change, true⟩] }
  | lost {currentPorts : List SerialPort} {event : UsbDeviceEvent} {rest : List UsbDeviceEvent} :
      s.ticking = some ⟨currentPorts, event :: rest⟩ →
        s.deviceEvents.queue.length = usbEventChannelSize →
          StepCase s .trySend
            { s with
                ticking := some ⟨currentPorts, rest⟩
                attempts := s.attempts ++ [⟨event.change, false⟩] }
  | replaceKnownPorts {currentPorts : List SerialPort} :
      s.ticking = some ⟨currentPorts, []⟩ →
        StepCase s .replaceKnownPorts
          { s with
              knownPorts := portMap currentPorts
              snapshot := currentPorts
              ticking := none }
  | otherSent {event : UsbDeviceEvent} {deviceEvents : DeviceEvents} :
      StepCase s (.otherSent event) { s with deviceEvents := deviceEvents }
  | received {deviceEvents : DeviceEvents} :
      StepCase s .received { s with deviceEvents := deviceEvents }

theorem step_cases {label : PollLabel} (h : s.step label = some t) : StepCase s label t := by
  cases label with
  | tick tick =>
    unfold step at h
    dsimp only at h
    split at h
    . next hTick =>
      rcases hTick with ⟨hIdle, hArrived, hDeparted⟩
      injection h with h
      subst h
      exact .tick (by simpa using hIdle) hArrived hDeparted
    . contradiction
  | enumerationFailed =>
    unfold step at h
    dsimp only at h
    split at h
    . next hIdle =>
      injection h with h
      subst h
      exact .enumerationFailed (by simpa using hIdle)
    . contradiction
  | trySend =>
    unfold step at h
    dsimp only at h
    split at h
    . next currentPorts event rest hTicking =>
      injection h with h
      subst h
      unfold trySend
      cases hSend : s.deviceEvents.trySend event with
      | some deviceEvents => exact .accepted hTicking hSend
      | none => exact .lost hTicking ((Channel.trySend_eq_none_iff _ _).mp hSend)
    . contradiction
  | replaceKnownPorts =>
    unfold step at h
    dsimp only at h
    split at h
    . next currentPorts hTicking =>
      injection h with h
      subst h
      exact .replaceKnownPorts hTicking
    . contradiction
  | otherSent event =>
    unfold step at h
    dsimp only at h
    split at h
    . injection h with h
      subst h
      exact .otherSent
    . contradiction
  | received =>
    unfold step at h
    dsimp only at h
    split at h
    . injection h with h
      subst h
      exact .received
    . contradiction

theorem Tells.start (initialPorts : List SerialPort) : Tells initialPorts (start initialPorts) where
  knownPorts := rfl
  strict := trivial
  replay := rfl

theorem Tells.step {label : PollLabel} (hTells : Tells initialPorts s) (h : StepCase s label t)
    : Tells initialPorts t := by
  rcases hTells with ⟨hKnown, hStrict, hReplay⟩
  cases h with
  | @tick tick hIdle hArrived hDeparted =>
    rw [hKnown] at hArrived hDeparted
    have hDifference := difference_of_perm hArrived hDeparted
    simp only [pending, latestPorts, hIdle, List.append_nil] at hStrict hReplay
    constructor
    . exact hKnown
    . simp only [pending]
      rw [map_change_events, strict_append, hReplay]
      exact ⟨hStrict, hDifference.strict⟩
    . simp only [pending, latestPorts]
      rw [map_change_events, replay_append, hReplay]
      exact hDifference.replay
  | enumerationFailed => exact ⟨hKnown, hStrict, hReplay⟩
  | accepted hTicking =>
    simp only [pending, latestPorts, hTicking, List.map_cons] at hStrict hReplay
    constructor
    . exact hKnown
    . simpa [pending] using hStrict
    . simpa [pending, latestPorts] using hReplay
  | lost hTicking =>
    simp only [pending, latestPorts, hTicking, List.map_cons] at hStrict hReplay
    constructor
    . exact hKnown
    . simpa [pending] using hStrict
    . simpa [pending, latestPorts] using hReplay
  | replaceKnownPorts hTicking =>
    simp only [pending, latestPorts, hTicking, List.map_nil] at hStrict hReplay
    exact ⟨rfl, hStrict, hReplay⟩
  | otherSent => exact ⟨hKnown, hStrict, hReplay⟩
  | received => exact ⟨hKnown, hStrict, hReplay⟩

theorem Tells.run {ok : PollTask → PollLabel → Prop}
    (hRun : Run PollTask.step ok (PollTask.start initialPorts) labels s)
    : Tells initialPorts s := by
  apply hRun.invariant (Tells.start initialPorts)
  intro s label t hTells _ hStep
  exact hTells.step (step_cases hStep)

def Reported (initialPorts : List SerialPort) (s : PollTask) : Prop :=
  Presence.replay (portKeys initialPorts) (acceptedChanges s.attempts) = portKeys s.snapshot

theorem Tells.reported_iff (hTells : Tells initialPorts s) (hIdle : s.ticking = none)
    : Reported initialPorts s ↔ ∀ key, Even (lostInARow key s.attempts) := by
  rcases hTells with ⟨_, hStrict, hReplay⟩
  simp only [pending, latestPorts, hIdle, List.append_nil] at hStrict hReplay
  unfold Reported
  rw [← hReplay]
  exact replay_acceptedChanges_iff hStrict

def UnchangedTick (s t : PollTask) : Prop :=
  ∃ (tick : Tick) (labels : List PollLabel),
    tick.currentPorts.Perm s.snapshot
      ∧ (∀ label ∈ labels, label.isTick = false)
      ∧ Run step anyStep s (.tick tick :: labels) t
      ∧ t.ticking = none

structure Unchanged (s t : PollTask) : Prop where
  attempts : t.attempts = s.attempts
  snapshot : portKeys t.snapshot = portKeys s.snapshot
  latestPorts : portKeys t.latestPorts = portKeys s.snapshot
  pending : ∀ ticking, t.ticking = some ticking → ticking.pending = []

theorem portKeys_of_perm {ports others : List SerialPort} (h : ports.Perm others)
    : portKeys ports = portKeys others := by
  ext key
  unfold portKeys
  simp only [Set.mem_ofPred_eq, h.mem_iff]

theorem Unchanged.tick {tick : Tick} (hKnown : s.knownPorts = portMap s.snapshot)
    (hPorts : tick.currentPorts.Perm s.snapshot) (h : StepCase s (.tick tick) t)
    : Unchanged s t := by
  cases h with
  | tick hIdle hArrived hDeparted =>
    rw [hKnown] at hArrived hDeparted
    have hDifference := difference_of_perm hArrived hDeparted
    have hKeys := portKeys_of_perm hPorts
    rw [hKeys] at hDifference
    rcases hDifference.eq_nil with ⟨hNoneArrived, hNoneDeparted⟩
    rw [List.map_eq_nil_iff] at hNoneArrived hNoneDeparted
    constructor
    . rfl
    . rfl
    . exact hKeys
    . intro ticking hTicking
      injection hTicking with hTicking
      rw [← hTicking, hNoneArrived, hNoneDeparted]
      rfl

theorem Unchanged.step {u : PollTask} {label : PollLabel} (hUnchanged : Unchanged s t)
    (hLabel : label.isTick = false) (h : StepCase t label u)
    : Unchanged s u := by
  rcases hUnchanged with ⟨hAttempts, hSnapshot, hLatest, hPending⟩
  cases h with
  | tick => contradiction
  | enumerationFailed => exact ⟨hAttempts, hSnapshot, hLatest, hPending⟩
  | accepted hTicking =>
    have hNil := hPending _ hTicking
    contradiction
  | lost hTicking =>
    have hNil := hPending _ hTicking
    contradiction
  | replaceKnownPorts hTicking =>
    simp only [PollTask.latestPorts, hTicking] at hLatest
    constructor
    . exact hAttempts
    . exact hLatest
    . exact hLatest
    . intro ticking hNone
      contradiction
  | otherSent => exact ⟨hAttempts, hSnapshot, hLatest, hPending⟩
  | received => exact ⟨hAttempts, hSnapshot, hLatest, hPending⟩

theorem Unchanged.run {ok : PollTask → PollLabel → Prop} (hUnchanged : Unchanged s t) {u : PollTask}
    (hLabels : ∀ label ∈ labels, label.isTick = false) (hRun : Run PollTask.step ok t labels u)
    : Unchanged s u := by
  have hBoth : (∀ label ∈ labels, label.isTick = false) → Unchanged s u := by
    apply hRun.invariant_of_labels
      (motive := fun labels u => (∀ label ∈ labels, label.isTick = false) → Unchanged s u)
    . intro _
      exact hUnchanged
    . intro labels v label w ih _ hStep hAll
      have hBefore := ih fun other hMem => hAll other (List.mem_append_left _ hMem)
      exact hBefore.step (hAll label (by simp)) (step_cases hStep)
  exact hBoth hLabels

theorem Unchanged.of_unchangedTick (hTells : Tells initialPorts s) (hTick : UnchangedTick s t)
    : Unchanged s t := by
  rcases hTick with ⟨tick, labels, hPorts, hLabels, hRun, _⟩
  rcases hRun.uncons with ⟨u, _, hStep, hRest⟩
  have hUnchanged := Unchanged.tick hTells.knownPorts hPorts (step_cases hStep)
  exact hUnchanged.run hLabels hRest

theorem ticking_of_unchangedTick (hTick : UnchangedTick s t) : s.ticking = none := by
  rcases hTick with ⟨tick, labels, _, _, hRun, _⟩
  rcases hRun.uncons with ⟨u, _, hStep, _⟩
  cases step_cases hStep with
  | tick hIdle => exact hIdle

/-
A tick that finds the same ports repeats nothing, so it changes nothing about what has been reported.
-/
theorem Tells.reported_of_unchangedTick (hTells : Tells initialPorts s) (hTick : UnchangedTick s t)
    : Reported initialPorts t ↔ ∀ key, Even (lostInARow key s.attempts) := by
  have hUnchanged := Unchanged.of_unchangedTick hTells hTick
  rw [← hTells.reported_iff (ticking_of_unchangedTick hTick)]
  unfold Reported
  rw [hUnchanged.attempts, hUnchanged.snapshot]

theorem Tells.exists_unchangedTick (hTells : Tells initialPorts s) (hIdle : s.ticking = none)
    : ∃ t, UnchangedTick s t := by
  have hDifference := difference_of_perm
    (List.Perm.refl ((portMap s.snapshot).without (portMap s.snapshot))) (.refl _)
  have hNone : (portMap s.snapshot).without (portMap s.snapshot) = [] := by
    rw [← List.map_eq_nil_iff]
    exact hDifference.eq_nil.left
  have hTick : s.step (.tick ⟨s.snapshot, [], []⟩)
      = some { s with ticking := some ⟨s.snapshot, []⟩ } := by
    unfold PollTask.step
    simp [hIdle, hTells.knownPorts, hNone, SerialPortPolling.events]
  have hRun : Run PollTask.step anyStep s [.tick ⟨s.snapshot, [], []⟩] _ := Run.single trivial hTick
  refine ⟨_, ⟨s.snapshot, [], []⟩, [.replaceKnownPorts], .refl _, ?_, hRun.snoc trivial rfl, rfl⟩
  intro label hLabel
  rw [List.mem_singleton] at hLabel
  rw [hLabel]
  rfl

def Room (s : PollTask) (label : PollLabel) : Prop :=
  label = .trySend → s.deviceEvents.isFull = false

theorem accepted_of_room (hRun : Run step Room (start initialPorts) labels s)
    : ∀ attempt ∈ s.attempts, attempt.accepted = true := by
  apply hRun.invariant (motive := fun s => ∀ attempt ∈ s.attempts, attempt.accepted = true)
  . intro attempt hMem
    contradiction
  . intro s label t hAccepted hRoom hStep
    cases step_cases hStep with
    | tick => exact hAccepted
    | enumerationFailed => exact hAccepted
    | accepted =>
      intro attempt hMem
      rw [List.mem_append, List.mem_singleton] at hMem
      rcases hMem with hOld | hNew
      . exact hAccepted attempt hOld
      . rw [hNew]
    | lost _ hFull =>
      have hFree := hRoom rfl
      unfold Channel.isFull at hFree
      simp [hFull] at hFree
    | replaceKnownPorts => exact hAccepted
    | otherSent => exact hAccepted
    | received => exact hAccepted

theorem reported_of_room (hRun : Run step Room (start initialPorts) labels s)
    (hIdle : s.ticking = none)
    : Reported initialPorts s := by
  rw [(Tells.run hRun).reported_iff hIdle]
  intro key
  rw [lostInARow_eq_zero (accepted_of_room hRun)]
  exact Even.zero

/--
A port whose last change was lost stays unreported, unless the change was the second one lost in a row,
the fourth, and so on.
-/
theorem unchangedTick_reported_iff (initialPorts : List SerialPort) (labels : List PollLabel)
    (s t : PollTask) (hRun : Run step anyStep (start initialPorts) labels s)
    (hTick : UnchangedTick s t)
    : Reported initialPorts t ↔ ∀ key, Even (lostInARow key s.attempts) := by
  have hTells := Tells.run hRun
  exact hTells.reported_of_unchangedTick hTick

/-
A full channel, then the ticks, then the receiver catches up.
-/
def congested (ticks : List PollLabel) : List PollLabel :=
  List.replicate usbEventChannelSize (.otherSent (.disconnected (SerialPort.device ⟨"ttyACM9", none⟩)))
    ++ ticks ++ List.replicate usbEventChannelSize .received

theorem exists_congested {ticks : List PollLabel} {attempts : List (Attempt String)}
    (h : (exec step (start []) (congested ticks)).map (fun s =>
        (s.ticking.isNone, s.deviceEvents.queue.length, s.attempts))
      = some (true, 0, attempts))
    : ∃ s t, Run step anyStep (start []) (congested ticks) s
        ∧ s.deviceEvents.queue = []
        ∧ s.attempts = attempts
        ∧ UnchangedTick s t := by
  rcases Run.exists_of_exec h with ⟨s, hRun, hState⟩
  simp only [Prod.mk.injEq, Option.isNone_iff_eq_none, List.length_eq_zero_iff] at hState
  rcases hState with ⟨hIdle, hDrained, hAttempts⟩
  rcases (Tells.run hRun).exists_unchangedTick hIdle with ⟨t, hTick⟩
  exact ⟨s, t, hRun, hDrained, hAttempts, hTick⟩

theorem unchangedTick_reported_iff_twice
    : ∃ s t, s.attempts
          = [⟨.enter "serialport:ttyACM0:EP1", false⟩, ⟨.leave "serialport:ttyACM0:EP1", false⟩]
        ∧ UnchangedTick s t
        ∧ Reported [] t := by
  have hExec : (exec step (start []) (congested
      [.tick ⟨[⟨"ttyACM0", some "EP1"⟩], [⟨"ttyACM0", some "EP1"⟩], []⟩, .trySend, .replaceKnownPorts,
        .tick ⟨[], [], [⟨"ttyACM0", some "EP1"⟩]⟩, .trySend, .replaceKnownPorts])).map
          (fun s => (s.ticking.isNone, s.deviceEvents.queue.length, s.attempts))
      = some (true, 0,
          [⟨.enter "serialport:ttyACM0:EP1", false⟩, ⟨.leave "serialport:ttyACM0:EP1", false⟩]) := by
    decide
  rcases exists_congested hExec with ⟨s, t, hRun, _, hAttempts, hTick⟩
  refine ⟨s, t, hAttempts, hTick, ?_⟩
  rw [unchangedTick_reported_iff [] _ s t hRun hTick, hAttempts]
  intro key
  by_cases hKey : "serialport:ttyACM0:EP1" = key
  . have hTwo : lostInARow key [⟨.enter "serialport:ttyACM0:EP1", false⟩,
        ⟨.leave "serialport:ttyACM0:EP1", false⟩] = 2 := by
      simp [lostInARow, countLost, Change.key, hKey]
    rw [hTwo]
    exact ⟨1, rfl⟩
  . simp [lostInARow, countLost, Change.key, hKey]

/-
A port appears while the channel is full. The receiver catches up, and the next tick finds the same port.
-/
theorem not_unchangedTick_reported
    : ¬ ∀ (initialPorts : List SerialPort) (labels : List PollLabel) (s t : PollTask),
        Run step anyStep (start initialPorts) labels s →
          s.deviceEvents.queue = [] → UnchangedTick s t → Reported initialPorts t := by
  intro h
  have hExec : (exec step (start []) (congested
      [.tick ⟨[⟨"ttyACM0", some "EP1"⟩], [⟨"ttyACM0", some "EP1"⟩], []⟩, .trySend,
        .replaceKnownPorts])).map
          (fun s => (s.ticking.isNone, s.deviceEvents.queue.length, s.attempts))
      = some (true, 0, [⟨.enter "serialport:ttyACM0:EP1", false⟩]) := by
    decide
  rcases exists_congested hExec with ⟨s, t, hRun, hDrained, hAttempts, hTick⟩
  have hReported := h [] _ s t hRun hDrained hTick
  rw [(Tells.run hRun).reported_of_unchangedTick hTick, hAttempts] at hReported
  have hEven := hReported "serialport:ttyACM0:EP1"
  simp [lostInARow, countLost, Change.key] at hEven

end PollTask

end Usb
end Enody
