import Enody.Wifi.Impl.Device
import Mathlib.Data.List.AList

/-!
This module contains what mDNS discovery makes of the packets that it receives. The parser of edge-mdns and
the texts of its names are parameters, and so is the order in which a hash map lists its keys.
-/

namespace Enody
namespace Wifi

abbrev HashMap (V : Type) := AList fun _ : String => V

/-
`values_mut`
-/
def HashMap.mapValues {V : Type} (f : V → V) (map : HashMap V) : HashMap V :=
  ⟨map.entries.map (.map id fun _ => f), map.nodupKeys.map₂ _ _⟩

structure KeyOrder where
  order : List String → List String
  perm : ∀ keys, (order keys).Perm keys

def toAsciiLowercase (s : String) : String :=
  String.ofList (s.toList.map Char.toLower)

def eqIgnoreAsciiCase (left right : String) : Bool :=
  left.toList.map Char.toLower == right.toList.map Char.toLower

def endsWith (s suffix : String) : Bool :=
  suffix.toList.isSuffixOf s.toList

def splitOnce (s : String) (c : Char) : Option (String × String) :=
  match s.toList.span (· ≠ c) with
  | (_, []) => none
  | (before, _ :: after) => some (String.ofList before, String.ofList after)

def parseDigits : List Char → Nat → Option Nat
  | [], n => some n
  | c :: cs, n => if c.isDigit then parseDigits cs (n * 10 + (c.toNat - 48)) else none

/-
`str::parse` of an unsigned integer: a sign `+` is allowed, at least one digit is required.
-/
def parseUnsigned (s : String) : Option Nat :=
  let digits :=
    match s.toList with
    | '+' :: digits => digits
    | digits => digits
  if digits.isEmpty then none else parseDigits digits 0

def parseU8 (s : String) : Option UInt8 :=
  (parseUnsigned s).bind fun n => if n < 256 then some (UInt8.ofNat n) else none

def parseU16 (s : String) : Option UInt16 :=
  (parseUnsigned s).bind fun n => if n < 65536 then some (UInt16.ofNat n) else none

def wifiServiceLabels : List String := ["_enody", "_tcp", "local"]
def wifiServiceSuffix : String := "._enody._tcp.local"

structure MdnsDevice extends WifiDiscoveredDevice where
  «instance» : String
  model : Option String
  apiVersion : Option UInt8
  firmwareVersion : Option String
  httpPort : Option UInt16
  deriving DecidableEq

def MdnsDevice.default : MdnsDevice where
  host := ""
  address := none
  hostId := none
  port := none
  protocol := none
  auth := none
  «instance» := ""
  model := none
  apiVersion := none
  firmwareVersion := none
  httpPort := none

inductive RecordData (Name : Type) where
  | a (address : Ipv4Addr)
  | ptr (ptrdname : Name)
  | srv (target : Name) (port : UInt16)
  | txt (items : List (List UInt8))
  | other

structure PeerAnswer (Name : Type) where
  owner : Name
  data : RecordData Name

/--
A section is `none` when it cannot be reached, a record is `none` when it cannot be parsed.
-/
structure MdnsMessage (Name : Type) where
  answer : Option (List (Option (PeerAnswer Name)))
  authority : Option (List (Option (PeerAnswer Name)))
  additional : Option (List (Option (PeerAnswer Name)))

/--
What mDNS discovery uses of other crates: the parser of a message, the text of a name, the comparison of a
name with labels, and the parser of an identifier.
-/
structure EdgeMdns (Name : Type) where
  fromOctets : List UInt8 → Option (MdnsMessage Name)
  toString : Name → String
  nameEq : Name → List String → Bool
  parseIdentifier : String → Option Identifier

structure MdnsRecords where
  ptrInstances : List String
  srvRecords : HashMap (String × UInt16)
  txtRecords : HashMap (HashMap String)
  aRecords : HashMap Ipv4Addr

def MdnsRecords.default : MdnsRecords := ⟨[], ∅, ∅, ∅⟩

def parseTxtRecord (items : List (List UInt8)) : HashMap String :=
  items.foldl (fun values item =>
    match (String.fromUTF8? ⟨item.toArray⟩).bind (splitOnce · '=') with
    | none => values
    | some (key, value) => values.insert key value) ∅

def dnsNameEq (left right : String) : Bool :=
  eqIgnoreAsciiCase (trimEndMatches left '.') (trimEndMatches right '.')

def isServiceName (name : String) : Bool :=
  endsWith (toAsciiLowercase (trimEndMatches name '.')) wifiServiceSuffix

section Collect

variable {Name : Type} (mdns : EdgeMdns Name)

def dnsNameToString (name : Name) : String :=
  let name := mdns.toString name
  if endsWith name "." then name else name ++ "."

def collectMdnsRecord (record : PeerAnswer Name) (records : MdnsRecords) : MdnsRecords :=
  let name := dnsNameToString mdns record.owner
  match record.data with
  | .a address => { records with aRecords := records.aRecords.insert name address }
  | .ptr ptrdname =>
    if mdns.nameEq record.owner wifiServiceLabels then
      { records with ptrInstances := records.ptrInstances ++ [dnsNameToString mdns ptrdname] }
    else
      records
  | .srv target port =>
    { records with
      srvRecords := records.srvRecords.insert name (dnsNameToString mdns target, port) }
  | .txt items => { records with txtRecords := records.txtRecords.insert name (parseTxtRecord items) }
  | .other => records

def collectSection (answers : Option (List (Option (PeerAnswer Name)))) (records : MdnsRecords)
    : Except (Error .std) MdnsRecords :=
  match answers with
  | none => .error .serialization
  | some answers => go answers records
where
  go : List (Option (PeerAnswer Name)) → MdnsRecords → Except (Error .std) MdnsRecords
    | [], records => .ok records
    | none :: _, _ => .error .serialization
    | some record :: answers, records => go answers (collectMdnsRecord mdns record records)

def collectMessage (message : MdnsMessage Name) : Except (Error .std) MdnsRecords := do
  let records ← collectSection mdns message.answer .default
  let records ← collectSection mdns message.authority records
  collectSection mdns message.additional records

end Collect

structure KeyOrders where
  srv : KeyOrder
  txt : KeyOrder

def instanceNames (orders : KeyOrders) (records : MdnsRecords) : List String :=
  (orders.srv.order records.srvRecords.keys ++ orders.txt.order records.txtRecords.keys).foldl
    (fun names name =>
      if isServiceName name && !names.any (dnsNameEq · name) then names ++ [name] else names)
    records.ptrInstances

section Devices

variable (parseIdentifier : String → Option Identifier) (records : MdnsRecords)

def collectSrv (name : String) (entry : MdnsDevice) : MdnsDevice :=
  match records.srvRecords.lookup name with
  | none => entry
  | some (host, port) =>
    { entry with
      host := trimEndMatches host '.'
      port := some port
      address := records.aRecords.lookup host }

def collectTxt (name : String) (entry : MdnsDevice) : MdnsDevice :=
  match records.txtRecords.lookup name with
  | none => entry
  | some txt =>
    { entry with
      model := txt.lookup "model"
      apiVersion := (txt.lookup "api").bind parseU8
      hostId := (txt.lookup "id").bind parseIdentifier
      firmwareVersion := (txt.lookup "firmware").or (txt.lookup "fw")
      httpPort := (txt.lookup "http").bind parseU16
      port := ((txt.lookup "port").bind parseU16).or entry.port
      protocol := txt.lookup "proto"
      auth := txt.lookup "auth" }

def collectInstance (devices : HashMap MdnsDevice) (name : String) : HashMap MdnsDevice :=
  let entry := (devices.lookup name).getD { MdnsDevice.default with «instance» := name }
  devices.insert name (collectTxt parseIdentifier records name (collectSrv records name entry))

def collectAddress (device : MdnsDevice) : MdnsDevice :=
  match records.aRecords.lookup (trimEndMatches device.host '.' ++ ".") with
  | none => device
  | some address => { device with address := some address }

def collectDevices (orders : KeyOrders) (devices : HashMap MdnsDevice) : HashMap MdnsDevice :=
  ((instanceNames orders records).foldl (collectInstance parseIdentifier records) devices).mapValues
    (collectAddress records)

end Devices

section Discover

variable {Name : Type} (mdns : EdgeMdns Name)

def collectMdnsDevices (orders : KeyOrders) (packet : List UInt8) (devices : HashMap MdnsDevice)
    : HashMap MdnsDevice × Except (Error .std) Unit :=
  match mdns.fromOctets packet with
  | none => (devices, .error .insufficientData)
  | some message =>
    match collectMessage mdns message with
    | .error error => (devices, .error error)
    | .ok records => (collectDevices mdns.parseIdentifier records orders devices, .ok ())

/-
The loop of `discover` over the packets. A packet that cannot be parsed is ignored.
-/
def discoverPackets (packets : List (KeyOrders × List UInt8)) : HashMap MdnsDevice :=
  packets.foldl (fun devices (orders, packet) => (collectMdnsDevices mdns orders packet devices).1) ∅

end Discover

end Wifi
end Enody
