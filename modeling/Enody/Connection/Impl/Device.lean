import Enody.Message

/-!
This module contains the two halves of a connection as `WifiConnection`, `SerialPortDevice` and
`RusbDevice` store them: the connection itself and the receiver of its messages, each behind a lock of
its own. Connections are numbered in the order in which they are opened, and a receiver has the number of
its connection.
-/

namespace Enody
namespace Connection

inductive Transport where
  | wifi
  | serialPort
  | rusb
  deriving DecidableEq

abbrev ConnectionId := Nat

structure Device where
  connection : Option ConnectionId
  messageRx : Option ConnectionId
  opened : Nat
  deriving DecidableEq

namespace Device

def new : Device where
  connection := none
  messageRx := none
  opened := 0

/-
`TcpStream::connect` and `authenticate`, or the `open` of a USB connection, have succeeded.
-/
def store (device : Device) : Device :=
  { device with connection := some device.opened, opened := device.opened + 1 }

def take (device : Device) : Device :=
  { device with connection := none }

def setMessageRx (device : Device) (rx : Option ConnectionId) : Device :=
  { device with messageRx := rx }

end Device

/-
What `disconnect` returns when no connection is stored. WiFi goes on and clears the receiver.
-/
def disconnectAbsent : Transport → Option (Error .std)
  | .wifi => none
  | .serialPort => some (.usbText "Attemped to disconnect from inexistent connection")
  | .rusb => some (.usbText "Attemped to disconnect from inexistent connection")

/-
What `recv_message` returns when no receiver is stored.
-/
def recvAbsent : Transport → Error .std
  | .wifi => .busy
  | .serialPort => .usbText "No active connection"
  | .rusb => .usbText "No active connection"

/-
What `recv_message` returns when the sender of the channel is dropped.
-/
def recvEnded : Transport → Error .std
  | .wifi => .timeout
  | .serialPort => .usbText "failed to recv message"
  | .rusb => .usbText "failed to recv message"

end Connection
end Enody
