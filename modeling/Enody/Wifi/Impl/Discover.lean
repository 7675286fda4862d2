import Enody.Channel.Feed
import Enody.Transition.Run
import Enody.Wifi.Impl.Mdns

/-!
This module contains `discover` of `wifi.rs` as a transition system. Each socket has a task that receives its
datagrams and sends them to one channel, where it waits as long as the channel is full; the caller collects the
devices of the packets that come out of the channel. The clock is part of the labels: whether there is time left
and when a timeout ends a wait is up to the run.

Packets carry the number of the socket that they came from. `orders` are the orders of the hash maps of each
packet that is collected.
-/

namespace Enody
namespace Wifi

def receiveBufferSize : Nat := 2048

inductive ReceiveTask where
  | receiving
  | sending (packet : List UInt8)
  | ended
  | aborted
  deriving DecidableEq

/--
`drained`: the channel is empty and all of its senders are gone.
-/
inductive CollectPhase where
  | collecting
  | drained
  | timedOut
  deriving DecidableEq

structure MdnsDiscovery (sockets : Nat) where
  tasks : List ReceiveTask
  packets : Feed (Nat × List UInt8) (sockets * 4)
  devices : HashMap MdnsDevice
  phase : CollectPhase

/--
`stopReceiving` is an error of the socket or the end of the time.
-/
inductive DiscoverLabel where
  | receive (socket : Nat) (datagram : List UInt8)
  | send (socket : Nat) (timeLeft : Bool)
  | stopReceiving (socket : Nat)
  | collect (timeLeft : Bool)
  | drain
  | timeOut
  | abort (socket : Nat)

namespace MdnsDiscovery

variable {sockets : Nat}

def initial (sockets : Nat) : MdnsDiscovery sockets where
  tasks := List.replicate sockets .receiving
  packets := .empty
  devices := ∅
  phase := .collecting

/-
`queried` says for each interface whether its socket could be made and has sent the query.
-/
def start (queried : List Bool) : Except (Error .std) (MdnsDiscovery (queried.count true)) :=
  if queried.count true = 0 then
    .error (.debugText "failed to send mDNS query on any interface")
  else
    .ok (initial (queried.count true))

def setTask (s : MdnsDiscovery sockets) (socket : Nat) (task : ReceiveTask) : MdnsDiscovery sockets :=
  { s with tasks := s.tasks.set socket task }

def receive (s : MdnsDiscovery sockets) (socket : Nat) (datagram : List UInt8)
    : Option (MdnsDiscovery sockets) :=
  match s.tasks[socket]? with
  | some .receiving => some (s.setTask socket (.sending (datagram.take receiveBufferSize)))
  | _ => none

def send (s : MdnsDiscovery sockets) (socket : Nat) (timeLeft : Bool) : Option (MdnsDiscovery sockets) :=
  match s.tasks[socket]? with
  | some (.sending packet) =>
    (s.packets.send (socket, packet)).map fun packets =>
      { s.setTask socket (if timeLeft then .receiving else .ended) with packets := packets }
  | _ => none

def stopReceiving (s : MdnsDiscovery sockets) (socket : Nat) : Option (MdnsDiscovery sockets) :=
  match s.tasks[socket]? with
  | some .receiving => some (s.setTask socket .ended)
  | _ => none

def collect {Name : Type} (mdns : EdgeMdns Name) (orders : Nat → KeyOrders) (s : MdnsDiscovery sockets)
    (timeLeft : Bool)
    : Option (MdnsDiscovery sockets) :=
  match s.phase, s.packets.channel.recv with
  | .collecting, some ((_, packet), _) =>
    s.packets.recv.map fun packets =>
      { s with
        packets := packets
        devices := (collectMdnsDevices mdns (orders s.packets.received.length) packet s.devices).1
        phase := if timeLeft then .collecting else .timedOut }
  | _, _ => none

def drain (s : MdnsDiscovery sockets) : Option (MdnsDiscovery sockets) :=
  if s.phase = .collecting ∧ s.packets.channel.queue = [] ∧ s.tasks.all (· = .ended) = true then
    some { s with phase := .drained }
  else
    none

def timeOut (s : MdnsDiscovery sockets) : Option (MdnsDiscovery sockets) :=
  if s.phase = .collecting then some { s with phase := .timedOut } else none

/-
After the loop all tasks are aborted, which makes no difference to those that have ended.
-/
def abort (s : MdnsDiscovery sockets) (socket : Nat) : Option (MdnsDiscovery sockets) :=
  if s.phase = .collecting then
    none
  else
    match s.tasks[socket]? with
    | some .receiving => some (s.setTask socket .aborted)
    | some (.sending _) => some (s.setTask socket .aborted)
    | _ => none

def step {Name : Type} (mdns : EdgeMdns Name) (orders : Nat → KeyOrders) (s : MdnsDiscovery sockets)
    : DiscoverLabel → Option (MdnsDiscovery sockets)
  | .receive socket datagram => s.receive socket datagram
  | .send socket timeLeft => s.send socket timeLeft
  | .stopReceiving socket => s.stopReceiving socket
  | .collect timeLeft => s.collect mdns orders timeLeft
  | .drain => s.drain
  | .timeOut => s.timeOut
  | .abort socket => s.abort socket

end MdnsDiscovery

end Wifi
end Enody
