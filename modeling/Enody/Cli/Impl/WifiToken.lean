import Enody.Script.Basic
import Enody.TokenStore.Impl
import Enody.Wifi.Impl.Mdns

/-!
This module contains the command of `main.rs` that pairs with a device that mDNS finds: it lets the device generate
a token, verifies the token with connections of its own, and saves it. What is printed is left out.
-/

namespace Enody
namespace Wifi

def startsWith (s start : String) : Bool := start.toList.isPrefixOf s.toList

namespace MdnsDevice

def isEp01 (device : MdnsDevice) : Bool :=
  match device.model with
  | some model => eqIgnoreAsciiCase model "ep01"
  | none => startsWith (toAsciiLowercase (trimEndMatches device.instance '.')) "ep01 "

def isTokenGenerationCandidate (device : MdnsDevice) : Bool :=
  device.endpoint.isSome && device.protocol == some wifiProtocol && device.isEp01

end MdnsDevice
end Wifi

namespace Cli

open Message Wifi

def wifiTokenVerifyAttempts : Nat := 8

inductive TokenCall where
  | discover
  | promptDevice (devices : List MdnsDevice)
  | generateToken (device : MdnsDevice)
  | connect (attempt : Nat) (connection : WifiConnection)
  | host (attempt : Nat)
  | disconnect (attempt : Nat)
  | sleep
  | saveToken (token : Message.Token)

abbrev TokenCall.Yield : TokenCall → Type
  | discover => List MdnsDevice
  | promptDevice _ => MdnsDevice
  | generateToken _ => Message.Token
  | connect _ _ => Unit
  | host _ => HostInfo
  | disconnect _ => Unit
  | sleep => Unit
  | saveToken _ => TokenStore.PathBuf

abbrev TokenCall.Response (call : TokenCall) : Type := Except (Error .std) call.Yield

end Cli
end Enody
