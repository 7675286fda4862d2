import Enody.Merge.Basic
import Enody.Wifi.Impl.Discover
import Enody.Wifi.Lemmas.MdnsOrder

/-!
This module contains what `discover` finds, whatever the sockets receive and however their tasks and the caller take
turns: the devices are those of the packets that have been collected, each socket's in their order. No packet is
lost as long as the caller collects, and when the channel has run dry the devices are those of all packets that
have been received.
-/

namespace Enody
namespace Wifi

open Transition Merge

variable {Name : Type} {mdns : EdgeMdns Name}

section Records

def sectionRecords (answers : Option (List (Option (PeerAnswer Name)))) : Option (List (PeerAnswer Name)) :=
  answers.bind (·.mapM id)

def MdnsMessage.records? (message : MdnsMessage Name) : Option (List (PeerAnswer Name)) := do
  let answer ← sectionRecords message.answer
  let authority ← sectionRecords message.authority
  let additional ← sectionRecords message.additional
  return answer ++ authority ++ additional

def parsePacket (mdns : EdgeMdns Name) (received : KeyOrders × List UInt8) : Option (Packet Name) :=
  ((mdns.fromOctets received.2).bind MdnsMessage.records?).map (⟨·, received.1⟩)

theorem collectSection_eq (answers : Option (List (Option (PeerAnswer Name)))) (records : MdnsRecords)
    : collectSection mdns answers records
        =
      match sectionRecords answers with
      | none => .error .serialization
      | some answers =>
        .ok (answers.foldl (fun records record => collectMdnsRecord mdns record records) records) := by
  unfold collectSection sectionRecords
  cases answers with
  | none => rfl
  | some answers =>
    simp only [Option.bind_some]
    induction answers generalizing records with
    | nil => rfl
    | cons answer answers ih =>
      cases answer with
      | none => rfl
      | some record =>
        rw [collectSection.go, ih, List.mapM_cons]
        cases answers.mapM id <;> rfl

theorem collectMessage_eq (message : MdnsMessage Name) (orders : KeyOrders)
    : collectMessage mdns message
        =
      match message.records? with
      | none => .error .serialization
      | some records => .ok (Packet.collected mdns ⟨records, orders⟩) := by
  unfold collectMessage MdnsMessage.records? Packet.collected
  rw [collectSection_eq]
  cases sectionRecords message.answer with
  | none => rfl
  | some answer =>
    simp only [bind, Except.bind, Option.bind]
    rw [collectSection_eq]
    cases sectionRecords message.authority with
    | none => rfl
    | some authority =>
      simp only
      rw [collectSection_eq]
      cases sectionRecords message.additional with
      | none => rfl
      | some additional => simp only [pure, List.foldl_append]

theorem collectMdnsDevices_eq (orders : KeyOrders) (octets : List UInt8) (devices : HashMap MdnsDevice)
    : (collectMdnsDevices mdns orders octets devices).1
        =
      match parsePacket mdns (orders, octets) with
      | none => devices
      | some packet => packet.collect mdns devices := by
  unfold collectMdnsDevices parsePacket
  simp only
  cases mdns.fromOctets octets with
  | none => rfl
  | some message =>
    simp only [collectMessage_eq message orders, Option.bind_some]
    cases message.records? <;> rfl

theorem discoverPackets_eq (received : List (KeyOrders × List UInt8))
    : discoverPackets mdns received = collectPackets mdns (received.filterMap (parsePacket mdns)) := by
  unfold discoverPackets collectPackets
  generalize (∅ : HashMap MdnsDevice) = devices
  induction received generalizing devices with
  | nil => rfl
  | cons packet received ih =>
    rcases packet with ⟨orders, octets⟩
    rw [List.foldl_cons, List.filterMap_cons, ih]
    simp only [collectMdnsDevices_eq]
    cases parsePacket mdns (orders, octets) <;> rfl

end Records

def DiscoverLabel.arrived : DiscoverLabel → List (Nat × List UInt8)
  | .receive socket datagram => [(socket, datagram.take receiveBufferSize)]
  | _ => []

def ReceiveTask.held : ReceiveTask → List (List UInt8)
  | .sending packet => [packet]
  | _ => []

namespace MdnsDiscovery

variable {sockets : Nat} {orders : Nat → KeyOrders} {s t : MdnsDiscovery sockets} {label : DiscoverLabel}
  {labels : List DiscoverLabel} {socket other : Nat} {task : ReceiveTask}

section Step

inductive StepCase (mdns : EdgeMdns Name) (orders : Nat → KeyOrders) (s : MdnsDiscovery sockets)
    : DiscoverLabel → MdnsDiscovery sockets → Prop where
  | received {socket : Nat} {datagram : List UInt8} :
      s.tasks[socket]? = some .receiving →
        StepCase mdns orders s (.receive socket datagram)
          (s.setTask socket (.sending (datagram.take receiveBufferSize)))
  | sent {socket : Nat} {timeLeft : Bool} {packet : List UInt8} {task : ReceiveTask}
      {packets : Feed (Nat × List UInt8) (sockets * 4)} :
      s.tasks[socket]? = some (.sending packet) → s.packets.send (socket, packet) = some packets →
        task = .receiving ∨ task = .ended →
        StepCase mdns orders s (.send socket timeLeft) { s.setTask socket task with packets := packets }
  | stopped {socket : Nat} :
      s.tasks[socket]? = some .receiving →
        StepCase mdns orders s (.stopReceiving socket) (s.setTask socket .ended)
  | collected {timeLeft : Bool} {source : Nat} {packet : List UInt8} {phase : CollectPhase}
      {channel : Channel (Nat × List UInt8) (sockets * 4)} {packets : Feed (Nat × List UInt8) (sockets * 4)} :
      s.phase = .collecting → s.packets.channel.recv = some ((source, packet), channel) →
        s.packets.recv = some packets → phase ≠ .drained →
        StepCase mdns orders s (.collect timeLeft)
          { s with
            packets := packets
            devices := (collectMdnsDevices mdns (orders s.packets.received.length) packet s.devices).1
            phase := phase }
  | drained :
      s.phase = .collecting → s.packets.channel.queue = [] → (∀ task ∈ s.tasks, task = .ended) →
        StepCase mdns orders s .drain { s with phase := .drained }
  | timedOut : s.phase = .collecting → StepCase mdns orders s .timeOut { s with phase := .timedOut }
  | aborted {socket : Nat} {task : ReceiveTask} :
      s.phase ≠ .collecting → s.tasks[socket]? = some task → task ≠ .ended →
        StepCase mdns orders s (.abort socket) (s.setTask socket .aborted)

theorem send_cases {timeLeft : Bool} (hStep : s.send socket timeLeft = some t)
    : StepCase mdns orders s (.send socket timeLeft) t := by
  unfold send at hStep
  split at hStep
  . next packet hTask =>
    rw [Option.map_eq_some_iff] at hStep
    rcases hStep with ⟨packets, hSend, hEq⟩
    subst hEq
    apply StepCase.sent hTask hSend
    cases timeLeft with
    | true => exact .inl rfl
    | false => exact .inr rfl
  . contradiction

theorem collect_cases {timeLeft : Bool} (hStep : s.collect mdns orders timeLeft = some t)
    : StepCase mdns orders s (.collect timeLeft) t := by
  unfold collect at hStep
  split at hStep
  . next hPhase hRecv =>
    rw [Option.map_eq_some_iff] at hStep
    rcases hStep with ⟨packets, hPackets, hEq⟩
    subst hEq
    apply StepCase.collected hPhase hRecv hPackets
    cases timeLeft <;> simp
  . contradiction

theorem abort_cases (hStep : s.abort socket = some t) : StepCase mdns orders s (.abort socket) t := by
  unfold abort at hStep
  rw [Option.ite_none_left_eq_some] at hStep
  rcases hStep with ⟨hPhase, hStep⟩
  split at hStep
  . next hTask =>
    injection hStep with hStep
    subst hStep
    exact .aborted hPhase hTask (by simp)
  . next hTask =>
    injection hStep with hStep
    subst hStep
    exact .aborted hPhase hTask (by simp)
  . contradiction

theorem step_cases (hStep : s.step mdns orders label = some t) : StepCase mdns orders s label t := by
  cases label with
  | send socket timeLeft => exact send_cases hStep
  | collect timeLeft => exact collect_cases hStep
  | abort socket => exact abort_cases hStep
  | receive socket datagram =>
    unfold step receive at hStep
    simp only at hStep
    split at hStep
    . next hTask =>
      injection hStep with hStep
      subst hStep
      exact .received hTask
    . contradiction
  | stopReceiving socket =>
    unfold step stopReceiving at hStep
    simp only at hStep
    split at hStep
    . next hTask =>
      injection hStep with hStep
      subst hStep
      exact .stopped hTask
    . contradiction
  | drain =>
    unfold step drain at hStep
    simp only [Option.ite_none_right_eq_some] at hStep
    rcases hStep with ⟨⟨hPhase, hQueue, hTasks⟩, hStep⟩
    injection hStep with hStep
    subst hStep
    apply StepCase.drained hPhase hQueue
    simpa using hTasks
  | timeOut =>
    unfold step timeOut at hStep
    simp only [Option.ite_none_right_eq_some] at hStep
    rcases hStep with ⟨hPhase, hStep⟩
    injection hStep with hStep
    subst hStep
    exact .timedOut hPhase

end Step

theorem task_setTask_self (h : socket < s.tasks.length)
    : (s.setTask socket task).tasks[socket]? = some task :=
  List.getElem?_set_self h

def held (s : MdnsDiscovery sockets) (socket : Nat) : List (List UInt8) :=
  match s.tasks[socket]? with
  | some task => task.held
  | none => []

theorem held_of_task (h : s.tasks[socket]? = some task) : s.held socket = task.held := by
  unfold held
  rw [h]

theorem held_of_set (h : t.tasks = s.tasks.set socket task) (hLt : socket < s.tasks.length)
    : t.held socket = task.held := by
  apply held_of_task
  rw [h]
  exact List.getElem?_set_self hLt

/--
Of `arrived`, the packets that the sockets have received, the ones of this socket are in the channel or have been
collected, apart from the one that waits. Only an abort takes that one.
-/
def Accounted (s : MdnsDiscovery sockets) (arrived : List (Nat × List UInt8)) (socket : Nat) : Prop :=
  ∃ rest, part s.packets.delivered socket ++ rest = part arrived socket
    ∧ (s.tasks[socket]? ≠ some .aborted → rest = s.held socket)

namespace Accounted

variable {arrived more : List (Nat × List UInt8)}

theorem congr (h : s.Accounted arrived socket) (hTask : t.tasks[socket]? = s.tasks[socket]?)
    (hDelivered : part t.packets.delivered socket = part s.packets.delivered socket)
    (hArrived : part more socket = part arrived socket)
    : t.Accounted more socket := by
  rcases h with ⟨rest, hParts, hRest⟩
  refine ⟨rest, ?_, ?_⟩
  . rw [hDelivered, hArrived]
    exact hParts
  . intro hNot
    rw [hTask] at hNot
    rw [hRest hNot]
    unfold held
    rw [hTask]

theorem of_task (h : s.Accounted arrived socket) (hTask : s.tasks[socket]? = some task)
    (hNot : task ≠ .aborted)
    : part s.packets.delivered socket ++ task.held = part arrived socket := by
  rcases h with ⟨rest, hParts, hRest⟩
  rw [← held_of_task hTask, ← hRest, hParts]
  rw [hTask]
  simpa using hNot

end Accounted

def arranged (orders : Nat → KeyOrders) (packets : List (Nat × List UInt8)) : List (KeyOrders × List UInt8) :=
  packets.zipIdx.map fun ((_, packet), i) => (orders i, packet)

theorem arranged_concat (packets : List (Nat × List UInt8)) (source : Nat) (packet : List UInt8)
    : arranged orders (packets ++ [(source, packet)])
        = arranged orders packets ++ [(orders packets.length, packet)] := by
  simp [arranged, List.zipIdx_append]

structure Collects (mdns : EdgeMdns Name) (orders : Nat → KeyOrders) (labels : List DiscoverLabel)
    (s : MdnsDiscovery sockets)
    : Prop where
  devices : s.devices = discoverPackets mdns (arranged orders s.packets.received)
  accounted : ∀ socket, s.Accounted (labels.flatMap DiscoverLabel.arrived) socket
  running : s.phase = .collecting → ReceiveTask.aborted ∉ s.tasks
  drained : s.phase = .drained → s.packets.channel.queue = [] ∧ ∀ task ∈ s.tasks, task = .ended

namespace Collects

theorem initial (mdns : EdgeMdns Name) (orders : Nat → KeyOrders) (sockets : Nat)
    : Collects mdns orders [] (initial sockets) where
  devices := rfl
  accounted socket := by
    refine ⟨[], rfl, fun _ => ?_⟩
    unfold held MdnsDiscovery.initial
    rw [List.getElem?_replicate]
    by_cases hLt : socket < sockets
    . rw [if_pos hLt]
      rfl
    . rw [if_neg hLt]
  running _ hMem := by
    have hEq := List.eq_of_mem_replicate hMem
    contradiction
  drained hPhase := by contradiction

theorem ofTask {old : ReceiveTask} (h : Collects mdns orders labels s) (hOld : s.tasks[socket]? = some old)
    (hEnded : old ≠ .ended) (hTasks : t.tasks = s.tasks.set socket task)
    (hRunning : s.phase = .collecting → task ≠ .aborted) (hPhase : t.phase = s.phase)
    (hDevices : t.devices = s.devices) (hReceived : t.packets.received = s.packets.received)
    (hOthers : ∀ other, other ≠ socket →
      part t.packets.delivered other = part s.packets.delivered other ∧ part label.arrived other = [])
    (hSelf : t.Accounted ((labels ++ [label]).flatMap DiscoverLabel.arrived) socket)
    : Collects mdns orders (labels ++ [label]) t where
  devices := by
    rw [hDevices, hReceived]
    exact h.devices
  accounted other := by
    by_cases hOther : other = socket
    . rw [hOther]
      exact hSelf
    . rcases hOthers other hOther with ⟨hDelivered, hArrived⟩
      apply (h.accounted other).congr _ hDelivered
      . rw [List.flatMap_append, part_append, List.flatMap_singleton, hArrived, List.append_nil]
      . rw [hTasks]
        exact List.getElem?_set_ne (Ne.symm hOther)
  running hCollecting hMem := by
    rw [hPhase] at hCollecting
    rw [hTasks] at hMem
    rcases List.mem_or_eq_of_mem_set hMem with hMem | hEq
    . exact h.running hCollecting hMem
    . exact hRunning hCollecting hEq.symm
  drained hDrained := by
    -- a task that takes a step has not ended
    rw [hPhase] at hDrained
    exact absurd ((h.drained hDrained).2 old (List.mem_of_getElem? hOld)) hEnded

theorem ofCaller (h : Collects mdns orders labels s) (hTasks : t.tasks = s.tasks)
    (hDelivered : t.packets.delivered = s.packets.delivered) (hArrived : label.arrived = [])
    (hBefore : s.phase = .collecting)
    (hDevices : t.devices = discoverPackets mdns (arranged orders t.packets.received))
    (hDrained : t.phase = .drained → t.packets.channel.queue = [] ∧ ∀ task ∈ t.tasks, task = .ended)
    : Collects mdns orders (labels ++ [label]) t where
  devices := hDevices
  accounted socket := by
    apply (h.accounted socket).congr
    . rw [hTasks]
    . rw [hDelivered]
    . rw [List.flatMap_append, List.flatMap_singleton, hArrived, List.append_nil]
  running _ := by
    rw [hTasks]
    exact h.running hBefore
  drained := hDrained

theorem step (h : Collects mdns orders labels s) (hStep : s.step mdns orders label = some t)
    : Collects mdns orders (labels ++ [label]) t := by
  cases step_cases hStep with
  | @received socket datagram hTask =>
    have hLt := (List.getElem?_eq_some_iff.mp hTask).1
    have hParts := (h.accounted socket).of_task hTask (by simp)
    refine h.ofTask hTask (by simp) rfl (by simp) rfl rfl rfl ?_ ?_
    . intro other hOther
      refine ⟨rfl, ?_⟩
      unfold DiscoverLabel.arrived
      rw [part_singleton, if_neg (Ne.symm hOther)]
    . refine ⟨[datagram.take receiveBufferSize], ?_, fun _ => ?_⟩
      . rw [List.flatMap_append, part_append, ← hParts]
        simp [ReceiveTask.held, setTask, DiscoverLabel.arrived, part_singleton]
      . rw [held_of_set rfl hLt]
        rfl
  | @sent socket timeLeft packet task packets hTask hSend hNext =>
    have hLt := (List.getElem?_eq_some_iff.mp hTask).1
    have hParts := (h.accounted socket).of_task hTask (by simp)
    have hDelivered := (Feed.of_send hSend).2
    refine h.ofTask hTask (by simp) (show _ = s.tasks.set socket task from rfl) ?_ rfl rfl
      (Feed.received_of_send hSend) ?_ ?_
    . rcases hNext with hNext | hNext <;> simp [hNext]
    . intro other hOther
      refine ⟨?_, rfl⟩
      rw [hDelivered, part_concat_of_ne (Ne.symm hOther)]
    . refine ⟨[], ?_, fun _ => ?_⟩
      . rw [hDelivered, part_concat_self, List.flatMap_append, part_append, ← hParts]
        rfl
      . rw [held_of_set rfl hLt]
        rcases hNext with hNext | hNext <;> rw [hNext] <;> rfl
  | @stopped socket hTask =>
    have hLt := (List.getElem?_eq_some_iff.mp hTask).1
    have hParts := (h.accounted socket).of_task hTask (by simp)
    refine h.ofTask hTask (by simp) rfl (by simp) rfl rfl rfl (fun _ _ => ⟨rfl, rfl⟩) ?_
    refine ⟨[], ?_, fun _ => ?_⟩
    . rw [List.flatMap_append, part_append, ← hParts]
      simp [ReceiveTask.held, setTask, DiscoverLabel.arrived]
    . rw [held_of_set rfl hLt]
      rfl
  | @aborted socket task hPhase hTask hEnded =>
    have hLt := (List.getElem?_eq_some_iff.mp hTask).1
    refine h.ofTask hTask hEnded rfl (fun hCollecting => absurd hCollecting hPhase) rfl rfl rfl
      (fun _ _ => ⟨rfl, rfl⟩) ?_
    rcases h.accounted socket with ⟨rest, hParts, _⟩
    refine ⟨rest, ?_, fun hNot => absurd (task_setTask_self hLt) hNot⟩
    rw [List.flatMap_append, part_append, ← hParts]
    simp [setTask, DiscoverLabel.arrived]
  | @collected timeLeft source packet phase channel packets hPhase hRecv hPackets hNot =>
    refine h.ofCaller rfl (Feed.of_recv hPackets).2 rfl hPhase ?_ fun hDrained => absurd hDrained hNot
    simp only
    rw [Feed.received_of_recv hRecv hPackets, arranged_concat, h.devices]
    unfold discoverPackets
    rw [List.foldl_append]
    rfl
  | drained hPhase hQueue hTasks =>
    exact h.ofCaller rfl rfl rfl hPhase h.devices fun _ => ⟨hQueue, hTasks⟩
  | timedOut hPhase =>
    refine h.ofCaller rfl rfl rfl hPhase h.devices ?_
    intro hDrained
    contradiction

theorem of_run {queried : List Bool} {init s : MdnsDiscovery (queried.count true)}
    (hStart : start queried = .ok init) (hRun : Run (MdnsDiscovery.step mdns orders) anyStep init labels s)
    : Collects mdns orders labels s := by
  have hInit : init = MdnsDiscovery.initial (queried.count true) := by
    unfold start at hStart
    split at hStart
    . contradiction
    . injection hStart with hStart
      exact hStart.symm
  subst hInit
  apply hRun.invariant_of_labels
  . exact initial mdns orders _
  . intro labels s label t h _ hStep
    exact h.step hStep

theorem received_isPrefix (h : Collects mdns orders labels s) (socket : Nat)
    : part s.packets.received socket <+: part (labels.flatMap DiscoverLabel.arrived) socket := by
  rcases h.accounted socket with ⟨rest, hParts, _⟩
  rw [← hParts]
  unfold Feed.delivered
  rw [part_append, List.append_assoc]
  exact List.prefix_append _ _

theorem delivered_of_collecting (h : Collects mdns orders labels s) (hPhase : s.phase = .collecting) (socket : Nat)
    : part s.packets.delivered socket ++ s.held socket
        = part (labels.flatMap DiscoverLabel.arrived) socket := by
  rcases h.accounted socket with ⟨rest, hParts, hRest⟩
  have hNot : s.tasks[socket]? ≠ some .aborted := by
    intro hAborted
    exact h.running hPhase (List.mem_of_getElem? hAborted)
  rw [← hRest hNot, hParts]

theorem received_of_drained (h : Collects mdns orders labels s) (hPhase : s.phase = .drained) (socket : Nat)
    : part s.packets.received socket = part (labels.flatMap DiscoverLabel.arrived) socket := by
  rcases h.drained hPhase with ⟨hQueue, hTasks⟩
  have hDelivered : s.packets.delivered = s.packets.received := by
    unfold Feed.delivered
    rw [hQueue, List.append_nil]
  rcases h.accounted socket with ⟨rest, hParts, hRest⟩
  have hNone : rest = [] := by
    cases hTask : s.tasks[socket]? with
    | none =>
      rw [hRest (by simp [hTask])]
      unfold held
      rw [hTask]
    | some task =>
      have hEnded := hTasks task (List.mem_of_getElem? hTask)
      rw [hRest (by simp [hTask, hEnded]), held_of_task hTask, hEnded]
      rfl
  rw [← hParts, hNone, hDelivered, List.append_nil]

end Collects

section Lamp

/-
Two packets of a lamp, the second one has only the PTR record.
-/
def lampOctets : EdgeMdns LampName :=
  { lampMdns with
    fromOctets := fun octets =>
      if octets = [0] then
        some ⟨some (lampComplete.records.map some), some [], some []⟩
      else if octets = [1] then
        some ⟨some (lampPointer.records.map some), some [], some []⟩
      else
        none }

theorem documented_lampOctets : lampOctets.Documented := ⟨documented_lampMdns.dots, documented_lampMdns.nameEq⟩

/-
The second socket is faster, although its packet has come later.
-/
def lampArrivals : List DiscoverLabel :=
  [.receive 0 [0], .receive 1 [1], .send 1 false, .send 0 true, .collect true, .stopReceiving 0, .collect true,
    .drain]

theorem lampArrivals_run
    : ∃ s, Run (step lampOctets fun _ => .asListed) anyStep (initial ([true, false, true].count true)) lampArrivals s
        ∧ s.phase = .drained := by
  apply Run.exists_of_exec
  decide +kernel

end Lamp

/--
At any time the devices are those of the packets that have been collected, which are the first ones of each socket
in their order. As long as the caller collects, the rest is in the channel or waits for room there. When the channel
has run dry, nothing is left.
-/
theorem run_collects {queried : List Bool} {init s : MdnsDiscovery (queried.count true)}
    (hStart : start queried = .ok init) (hRun : Run (MdnsDiscovery.step mdns orders) anyStep init labels s)
    : s.devices = discoverPackets mdns (arranged orders s.packets.received)
        ∧
      ∀ socket,
        part s.packets.received socket <+: part (labels.flatMap DiscoverLabel.arrived) socket
          ∧
        (s.phase = .collecting →
          part s.packets.delivered socket ++ s.held socket
            = part (labels.flatMap DiscoverLabel.arrived) socket)
          ∧
        (s.phase = .drained →
          part s.packets.received socket = part (labels.flatMap DiscoverLabel.arrived) socket) := by
  have h := Collects.of_run hStart hRun
  refine ⟨h.devices, fun socket => ?_⟩
  exact ⟨h.received_isPrefix socket, fun hPhase => h.delivered_of_collecting hPhase socket,
    fun hPhase => h.received_of_drained hPhase socket⟩

theorem lampArrivals_collected
    : ∃ s : MdnsDiscovery ([true, false, true].count true),
        part s.packets.received 0 = [[0]] ∧ part s.packets.received 1 = [[1]] := by
  rcases lampArrivals_run with ⟨s, hRun, hDrained⟩
  rcases run_collects rfl hRun with ⟨_, hSockets⟩
  refine ⟨s, ?_, ?_⟩
  . rw [(hSockets 0).2.2 hDrained]
    decide
  . rw [(hSockets 1).2.2 hDrained]
    decide

section Order

def arrivedPackets (mdns : EdgeMdns Name) (arrived : List (Nat × List UInt8)) : List (Packet Name) :=
  arrived.filterMap fun (_, packet) => parsePacket mdns (.asListed, packet)

theorem records_arranged (orders : Nat → KeyOrders) (packets : List (Nat × List UInt8))
    : List.Forall₂ (fun packet other => other.records = packet.records) (arrivedPackets mdns packets)
        ((arranged orders packets).filterMap (parsePacket mdns)) := by
  induction packets using List.reverseRecOn with
  | nil => exact .nil
  | append_singleton packets entry ih =>
    rcases entry with ⟨source, octets⟩
    unfold arrivedPackets at ih ⊢
    rw [arranged_concat, List.filterMap_append, List.filterMap_append]
    apply List.rel_append ih
    simp only [List.filterMap_cons, List.filterMap_nil, parsePacket]
    cases (mdns.fromOctets octets).bind MdnsMessage.records? with
    | none => exact .nil
    | some records => exact .cons rfl .nil

/--
When the channel has run dry, it makes no difference in which order the sockets and their tasks have taken turns: a
device whose packets do not depend on their order is found as if all packets had come one after the other.
-/
theorem run_order_free {queried : List Bool} {init s : MdnsDiscovery (queried.count true)}
    (hMdns : mdns.Documented) (hStart : start queried = .ok init)
    (hRun : Run (MdnsDiscovery.step mdns orders) anyStep init labels s) (hDrained : s.phase = .drained)
    (hAgree : RecordsAgree mdns (arrivedPackets mdns (labels.flatMap DiscoverLabel.arrived)))
    (hSpelled : ∀ packet ∈ arrivedPackets mdns (labels.flatMap DiscoverLabel.arrived),
      SpelledOnce (packet.collected mdns))
    {name : String} (hFree : OrderFree mdns (arrivedPackets mdns (labels.flatMap DiscoverLabel.arrived)) name)
    : s.devices.lookup name
        = (collectPackets mdns (arrivedPackets mdns (labels.flatMap DiscoverLabel.arrived))).lookup name := by
  have h := Collects.of_run hStart hRun
  have hPerm : s.packets.received.Perm (labels.flatMap DiscoverLabel.arrived) :=
    perm_of_part fun socket => h.received_of_drained hDrained socket
  rw [h.devices, discoverPackets_eq]
  apply hFree.lookup_eq hMdns hAgree
  apply Rearranged.of_spelledOnce (hPerm.filterMap _) _ hSpelled
  exact records_arranged orders s.packets.received

theorem arrivedPackets_lamp
    : arrivedPackets lampOctets (lampArrivals.flatMap DiscoverLabel.arrived) = [lampComplete, lampPointer] := by
  simp [arrivedPackets, lampArrivals, DiscoverLabel.arrived, parsePacket, lampOctets, receiveBufferSize,
    MdnsMessage.records?, sectionRecords, lampComplete, lampPointer]

theorem spelledOnce_of_keys {records : MdnsRecords} (owner : String) (hSrv : records.srvRecords.keys ⊆ [owner])
    (hTxt : records.txtRecords.keys = [])
    : SpelledOnce records := by
  have hOwner : ∀ name, ServiceOwner records name → name = owner := by
    rintro name ⟨_, hMem | hMem⟩
    . exact List.mem_singleton.mp (hSrv hMem)
    . rw [hTxt] at hMem
      exact absurd hMem List.not_mem_nil
  intro name other hName hOther _
  rw [hOwner name hName, hOwner other hOther]

theorem spelledOnce_lamp {packet : Packet LampName} (hMem : packet ∈ [lampComplete, lampPointer])
    : SpelledOnce (packet.collected lampOctets) := by
  simp only [List.mem_cons, List.not_mem_nil, or_false] at hMem
  rcases hMem with hSame | hSame <;> subst hSame
  all_goals
    apply spelledOnce_of_keys "lamp._enody._tcp.local."
    . decide +kernel
    . decide +kernel

theorem orderFree_lampOctets (name : String) : OrderFree lampOctets [lampComplete, lampPointer] name := by
  have h := orderFree_lamp name
  exact ⟨h.port, h.address, h.hostless, h.kept⟩

theorem lampArrivals_found
    : ∃ s : MdnsDiscovery ([true, false, true].count true),
        s.devices.lookup "lamp._enody._tcp.local."
          = (collectPackets lampOctets [lampComplete, lampPointer]).lookup "lamp._enody._tcp.local." := by
  rcases lampArrivals_run with ⟨s, hRun, hDrained⟩
  refine ⟨s, ?_⟩
  rw [← arrivedPackets_lamp]
  apply run_order_free documented_lampOctets rfl hRun hDrained
  . rw [arrivedPackets_lamp]
    exact recordsAgree_lampPointer
  . rw [arrivedPackets_lamp]
    intro packet
    exact spelledOnce_lamp
  . rw [arrivedPackets_lamp]
    exact orderFree_lampOctets _

end Order

end MdnsDiscovery

end Wifi
end Enody
