import Enody.Message

/-!
This module contains the devices that mDNS discovery yields, the saved tokens, and the `WifiConnection`
that is made from both. Of a `WifiDiscoveredDevice` it has the fields that decide about a connection.
-/

namespace Enody
namespace Wifi

open Message

def wifiPort : UInt16 := 8788
def wifiProtocol : String := "enody-v1"
def wifiAuth : String := "noise-psk"

structure Ipv4Addr where
  a : UInt8
  b : UInt8
  c : UInt8
  d : UInt8
  deriving DecidableEq

def Ipv4Addr.toString (address : Ipv4Addr) : String :=
  ".".intercalate ([address.a, address.b, address.c, address.d].map fun byte => byte.toNat.repr)

structure WifiDiscoveredDevice where
  host : String
  address : Option Ipv4Addr
  hostId : Option Identifier
  port : Option UInt16
  protocol : Option String
  auth : Option String
  deriving DecidableEq

def trimEndMatches (s : String) (c : Char) : String :=
  String.ofList (s.toList.reverse.dropWhile (· == c)).reverse

namespace WifiDiscoveredDevice

def endpoint (device : WifiDiscoveredDevice) : Option String :=
  let host :=
    match device.address with
    | some address => some address.toString
    | none =>
      let host := trimEndMatches device.host '.'
      if host.isEmpty then none else some host
  host.map fun host => host ++ ":" ++ (device.port.getD wifiPort).toNat.repr

end WifiDiscoveredDevice

/-
The tokens as they are collected into a map: the last one of each host is kept.
-/
abbrev TokenMap := Identifier → Option Message.Token

def collectTokens (tokens : List Message.Token) : TokenMap :=
  fun hostId => tokens.reverse.find? fun token => token.hostId == hostId

def tokenForDiscoveredDevice (tokens : TokenMap) (device : WifiDiscoveredDevice)
    : Option Message.Token :=
  match device.hostId with
  | none => none
  | some hostId =>
    match tokens hostId with
    | none => none
    | some stored =>
      if device.protocol ≠ some wifiProtocol then
        none
      else if device.auth ≠ some wifiAuth then
        none
      else
        some stored

structure WifiConnection where
  endpoint : String
  identifier : Identifier
  keyId : TokenKeyId
  key : List UInt8
  key_length : key.length = 32
  deriving DecidableEq

namespace WifiConnection

def fromEndpoint (token : Message.Token) (endpoint : String) : Except (Error .std) WifiConnection :=
  if h : token.data.items.length = 32 then
    .ok
      { endpoint := endpoint
        identifier := token.hostId
        keyId := token.keyId
        key := token.data.items
        key_length := h }
  else
    .error .argument

def fromDiscoveredDevice (token : Message.Token) (device : WifiDiscoveredDevice)
    : Except (Error .std) WifiConnection :=
  match device.endpoint with
  | none => .error .argument
  | some endpoint => fromEndpoint token endpoint

end WifiConnection

end Wifi
end Enody
