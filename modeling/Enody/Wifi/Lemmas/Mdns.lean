import Enody.Latest.Basic
import Enody.Wifi.Impl.Mdns
import Mathlib.Data.List.DropRight
import Mathlib.Data.List.Induction

/-!
This module contains what one packet does to the device of one name, and the state of the device after any
packets: each of its parts is the latest one that a packet supplies.
-/

namespace Enody
namespace Wifi

variable {Name : Type}

/--
What the documentation of the crates says about names: dots in labels are escaped, so no text ends in two
dots, and the comparison of names ignores the case of ASCII letters.
-/
structure EdgeMdns.Documented (mdns : EdgeMdns Name) : Prop where
  dots : ∀ name, endsWith (mdns.toString name) ".." = false
  nameEq : ∀ name other labels,
    eqIgnoreAsciiCase (dnsNameToString mdns name) (dnsNameToString mdns other) = true →
      mdns.nameEq name labels = mdns.nameEq other labels

def EdgeMdns.ofText (text : Name → String) : EdgeMdns Name where
  fromOctets _ := none
  toString := text
  nameEq name labels :=
    eqIgnoreAsciiCase (if endsWith (text name) "." then text name else text name ++ ".")
      (".".intercalate labels ++ ".")
  parseIdentifier _ := none

theorem EdgeMdns.documented_ofText {text : Name → String}
    (hDots : ∀ name, endsWith (text name) ".." = false)
    : (EdgeMdns.ofText text).Documented := by
  refine ⟨hDots, ?_⟩
  intro name other labels hSame
  have hList : (dnsNameToString (.ofText text) name).toList.map Char.toLower
      = (dnsNameToString (.ofText text) other).toList.map Char.toLower := beq_iff_eq.mp hSame
  change eqIgnoreAsciiCase (dnsNameToString (.ofText text) name) _
    = eqIgnoreAsciiCase (dnsNameToString (.ofText text) other) _
  unfold eqIgnoreAsciiCase
  rw [hList]

def KeyOrders.asListed : KeyOrders := ⟨⟨id, fun _ => .rfl⟩, ⟨id, fun _ => .rfl⟩⟩

structure Packet (Name : Type) where
  records : List (PeerAnswer Name)
  orders : KeyOrders

theorem HashMap.lookup_mapValues {V : Type} (f : V → V) (map : HashMap V) (name : String)
    : (map.mapValues f).lookup name = (map.lookup name).map f :=
  List.dlookup_map₂ name

section Names

theorem endsWith_dot {s : String}
    : endsWith s "." = true ↔ ∃ stem, s.toList = stem ++ ['.'] := by
  unfold endsWith
  rw [List.isSuffixOf_iff_suffix]
  constructor
  . rintro ⟨stem, hStem⟩
    exact ⟨stem, hStem.symm⟩
  . rintro ⟨stem, hStem⟩
    exact ⟨stem, hStem.symm⟩

theorem trimEndMatches_concat {s : String} {stem : List Char} (hStem : s.toList = stem ++ ['.'])
    (hLast : ∀ c ∈ stem.getLast?, c ≠ '.')
    : trimEndMatches s '.' ++ "." = s := by
  have hTrim : (stem ++ ['.']).reverse.dropWhile (· == '.') = stem.reverse := by
    rw [List.reverse_append, List.reverse_singleton, List.singleton_append,
      List.dropWhile_cons_of_pos (by decide)]
    cases hRev : stem.reverse with
    | nil => rfl
    | cons c rest =>
      have hMem : c ∈ stem.getLast? := by
        rw [List.getLast?_eq_head?_reverse, hRev]
        rfl
      rw [List.dropWhile_cons_of_neg]
      simp [hLast c hMem]
  apply String.toList_injective
  unfold trimEndMatches
  rw [String.toList_append, hStem, hTrim, List.reverse_reverse, String.toList_ofList]
  rfl

theorem trimEndMatches_trimEndMatches (s : String) (c : Char)
    : trimEndMatches (trimEndMatches s c) c = trimEndMatches s c := by
  unfold trimEndMatches
  rw [String.toList_ofList, List.reverse_reverse, List.dropWhile_idempotent]

theorem dnsNameToString_absolute {mdns : EdgeMdns Name} (hMdns : mdns.Documented) (name : Name)
    : trimEndMatches (dnsNameToString mdns name) '.' ++ "." = dnsNameToString mdns name := by
  have hDots := hMdns.dots name
  unfold dnsNameToString
  simp only
  split
  . next hDot =>
    rcases endsWith_dot.mp hDot with ⟨stem, hStem⟩
    apply trimEndMatches_concat hStem
    intro c hLast hEq
    rcases List.getLast?_eq_some_iff.mp hLast with ⟨front, hFront⟩
    have hTwo : endsWith (mdns.toString name) ".." = true := by
      unfold endsWith
      rw [List.isSuffixOf_iff_suffix]
      exact ⟨front, by rw [hStem, hFront, hEq, List.append_assoc]; rfl⟩
    rw [hTwo] at hDots
    contradiction
  . next hDot =>
    apply trimEndMatches_concat String.toList_append
    intro c hLast hEq
    rcases List.getLast?_eq_some_iff.mp hLast with ⟨front, hFront⟩
    exact hDot (endsWith_dot.mpr ⟨front, hEq ▸ hFront⟩)

end Names

section InstanceNames

variable {orders : KeyOrders} {records : MdnsRecords} {name : String}

def ServiceOwner (records : MdnsRecords) (name : String) : Prop :=
  isServiceName name = true ∧ (name ∈ records.srvRecords.keys ∨ name ∈ records.txtRecords.keys)

/-
No two of these names differ in their case only.
-/
def SpelledOnce (records : MdnsRecords) : Prop :=
  ∀ name other, ServiceOwner records name → ServiceOwner records other →
    dnsNameEq name other = true → name = other

theorem mem_foldl_instanceNames {keys names : List String}
    (hSpelled : ∀ name ∈ keys, ∀ other ∈ keys, isServiceName name = true → isServiceName other = true →
      dnsNameEq name other = true → name = other)
    : name ∈ keys.foldl (fun names name =>
          if isServiceName name && !names.any (dnsNameEq · name) then names ++ [name] else names) names
        ↔
      name ∈ names
        ∨ (name ∈ keys ∧ isServiceName name = true ∧ ∀ other ∈ names, dnsNameEq other name = false) := by
  induction keys generalizing names with
  | nil => simp
  | cons key keys ih =>
    have hRest : ∀ name ∈ keys, ∀ other ∈ keys, isServiceName name = true →
        isServiceName other = true → dnsNameEq name other = true → name = other :=
      fun name hName other hOther => hSpelled name (by simp [hName]) other (by simp [hOther])
    rw [List.foldl_cons, ih hRest]
    split
    . next hNew =>
      rw [Bool.and_eq_true, Bool.not_eq_true', List.any_eq_false] at hNew
      constructor
      . rintro (hMem | ⟨hKeys, hService, hFresh⟩)
        . rcases List.mem_append.mp hMem with hMem | hMem
          . exact .inl hMem
          . rw [List.mem_singleton.mp hMem]
            exact .inr ⟨List.mem_cons_self, hNew.left,
              fun other hOther => by simpa using hNew.right other hOther⟩
        . exact .inr ⟨List.mem_cons_of_mem _ hKeys, hService,
            fun other hOther => hFresh other (List.mem_append_left _ hOther)⟩
      . rintro (hMem | ⟨hKeys, hService, hFresh⟩)
        . exact .inl (List.mem_append_left _ hMem)
        . rcases List.mem_cons.mp hKeys with hSame | hMem
          . exact .inl (by simp [hSame])
          . by_cases hSame : key = name
            . exact .inl (by simp [hSame])
            . refine .inr ⟨hMem, hService, ?_⟩
              intro other hOther
              rcases List.mem_append.mp hOther with hOther | hOther
              . exact hFresh other hOther
              . rw [List.mem_singleton.mp hOther]
                by_contra hEq
                exact hSame (hSpelled key (by simp) name hKeys hNew.left hService (by simpa using hEq))
    . next hOld =>
      constructor
      . rintro (hMem | ⟨hKeys, hService, hFresh⟩)
        . exact .inl hMem
        . exact .inr ⟨List.mem_cons_of_mem _ hKeys, hService, hFresh⟩
      . rintro (hMem | ⟨hKeys, hService, hFresh⟩)
        . exact .inl hMem
        . rcases List.mem_cons.mp hKeys with hSame | hMem
          . subst hSame
            apply absurd _ hOld
            rw [Bool.and_eq_true, Bool.not_eq_true', List.any_eq_false]
            exact ⟨hService, fun other hOther => by simp [hFresh other hOther]⟩
          . exact .inr ⟨hMem, hService, hFresh⟩

theorem mem_instanceNames (hSpelled : SpelledOnce records)
    : name ∈ instanceNames orders records
        ↔
      name ∈ records.ptrInstances
        ∨ (ServiceOwner records name ∧ ∀ other ∈ records.ptrInstances, dnsNameEq other name = false) := by
  have hKeys {other : String}
      : other ∈ orders.srv.order records.srvRecords.keys ++ orders.txt.order records.txtRecords.keys
        ↔ other ∈ records.srvRecords.keys ∨ other ∈ records.txtRecords.keys := by
    rw [List.mem_append, (orders.srv.perm _).mem_iff, (orders.txt.perm _).mem_iff]
  unfold instanceNames
  rw [mem_foldl_instanceNames, hKeys]
  . constructor
    . rintro (hMem | ⟨hOwner, hService, hFresh⟩)
      . exact .inl hMem
      . exact .inr ⟨⟨hService, hOwner⟩, hFresh⟩
    . rintro (hMem | ⟨⟨hService, hOwner⟩, hFresh⟩)
      . exact .inl hMem
      . exact .inr ⟨hOwner, hService, hFresh⟩
  . intro name hName other hOther hService hService'
    exact hSpelled name other ⟨hService, hKeys.mp hName⟩ ⟨hService', hKeys.mp hOther⟩

end InstanceNames

section Entry

variable (parseIdentifier : String → Option Identifier) (records : MdnsRecords)

structure TxtFields where
  model : Option String
  apiVersion : Option UInt8
  hostId : Option Identifier
  firmwareVersion : Option String
  httpPort : Option UInt16
  protocol : Option String
  auth : Option String

def MdnsDevice.txtFields (device : MdnsDevice) : TxtFields where
  model := device.model
  apiVersion := device.apiVersion
  hostId := device.hostId
  firmwareVersion := device.firmwareVersion
  httpPort := device.httpPort
  protocol := device.protocol
  auth := device.auth

def TxtFields.ofTxt (txt : HashMap String) : TxtFields where
  model := txt.lookup "model"
  apiVersion := (txt.lookup "api").bind parseU8
  hostId := (txt.lookup "id").bind parseIdentifier
  firmwareVersion := (txt.lookup "firmware").or (txt.lookup "fw")
  httpPort := (txt.lookup "http").bind parseU16
  protocol := txt.lookup "proto"
  auth := txt.lookup "auth"

def txtPort (txt : HashMap String) : Option UInt16 :=
  (txt.lookup "port").bind parseU16

def MdnsDevice.fresh (name : String) : MdnsDevice :=
  { MdnsDevice.default with «instance» := name }

theorem MdnsDevice.ext_parts {device other : MdnsDevice} (hInstance : device.instance = other.instance)
    (hHost : device.host = other.host) (hAddress : device.address = other.address)
    (hPort : device.port = other.port) (hTxt : device.txtFields = other.txtFields)
    : device = other := by
  rcases device with ⟨⟨host, address, hostId, port, protocol, auth⟩, name, model, api, firmware, http⟩
  rcases other with ⟨⟨_, _, _, _, _, _⟩, _, _, _, _, _⟩
  simp only [MdnsDevice.txtFields, TxtFields.mk.injEq] at hTxt
  simp_all

def updateEntry (name : String) (entry : MdnsDevice) : MdnsDevice :=
  collectTxt parseIdentifier records name (collectSrv records name entry)

theorem updateEntry_updateEntry (name : String) (entry : MdnsDevice)
    : updateEntry parseIdentifier records name (updateEntry parseIdentifier records name entry)
        = updateEntry parseIdentifier records name entry := by
  unfold updateEntry collectTxt collectSrv
  cases records.srvRecords.lookup name with
  | none =>
    cases records.txtRecords.lookup name with
    | none => rfl
    | some txt =>
      simp only
      cases (txt.lookup "port").bind parseU16 with
      | none => rfl
      | some port => rfl
  | some srv =>
    cases records.txtRecords.lookup name with
    | none => rfl
    | some txt => rfl

theorem lookup_collectInstances_of_notMem {names : List String} {name : String} (hName : name ∉ names)
    (devices : HashMap MdnsDevice)
    : (names.foldl (collectInstance parseIdentifier records) devices).lookup name
        = devices.lookup name := by
  induction names generalizing devices with
  | nil => rfl
  | cons other names ih =>
    rw [List.mem_cons, not_or] at hName
    rw [List.foldl_cons, ih hName.right]
    exact AList.lookup_insert_ne hName.left

theorem lookup_collectInstances_of_mem {names : List String} {name : String} (hName : name ∈ names)
    (devices : HashMap MdnsDevice)
    : (names.foldl (collectInstance parseIdentifier records) devices).lookup name
        = some (updateEntry parseIdentifier records name
            ((devices.lookup name).getD (MdnsDevice.fresh name))) := by
  induction names generalizing devices with
  | nil => contradiction
  | cons other names ih =>
    rw [List.foldl_cons]
    by_cases hSame : name = other
    . subst hSame
      have hLookup : (collectInstance parseIdentifier records devices name).lookup name
          = some (updateEntry parseIdentifier records name
              ((devices.lookup name).getD (MdnsDevice.fresh name))) := AList.lookup_insert devices
      by_cases hRest : name ∈ names
      . rw [ih hRest, hLookup, Option.getD_some, updateEntry_updateEntry]
      . rw [lookup_collectInstances_of_notMem _ _ hRest, hLookup]
    . have hRest : name ∈ names := (List.mem_cons.mp hName).resolve_left hSame
      rw [ih hRest]
      unfold collectInstance
      rw [AList.lookup_insert_ne hSame]

section Fields

variable {parseIdentifier records} {name : String} {entry : MdnsDevice}

@[simp]
theorem updateEntry_instance
    : (updateEntry parseIdentifier records name entry).instance = entry.instance := by
  unfold updateEntry collectTxt collectSrv
  cases records.srvRecords.lookup name <;> cases records.txtRecords.lookup name <;> rfl

@[simp]
theorem updateEntry_host
    : (updateEntry parseIdentifier records name entry).host
        = ((records.srvRecords.lookup name).map fun srv => trimEndMatches srv.1 '.').getD
            entry.host := by
  unfold updateEntry collectTxt collectSrv
  cases records.srvRecords.lookup name <;> cases records.txtRecords.lookup name <;> rfl

@[simp]
theorem updateEntry_port
    : (updateEntry parseIdentifier records name entry).port
        = (((records.txtRecords.lookup name).bind txtPort).or
            ((records.srvRecords.lookup name).map Prod.snd)).or entry.port := by
  unfold updateEntry collectTxt collectSrv
  cases records.srvRecords.lookup name with
  | none =>
    cases records.txtRecords.lookup name with
    | none => rfl
    | some txt => cases hPort : (txt.lookup "port").bind parseU16 <;> simp [txtPort, hPort]
  | some srv =>
    cases records.txtRecords.lookup name with
    | none => rfl
    | some txt => cases hPort : (txt.lookup "port").bind parseU16 <;> simp [txtPort, hPort]

@[simp]
theorem updateEntry_address
    : (updateEntry parseIdentifier records name entry).address
        = ((records.srvRecords.lookup name).map fun srv => records.aRecords.lookup srv.1).getD
            entry.address := by
  unfold updateEntry collectTxt collectSrv
  cases records.srvRecords.lookup name <;> cases records.txtRecords.lookup name <;> rfl

@[simp]
theorem updateEntry_txtFields
    : (updateEntry parseIdentifier records name entry).txtFields
        = ((records.txtRecords.lookup name).map (TxtFields.ofTxt parseIdentifier)).getD
            entry.txtFields := by
  unfold updateEntry collectTxt collectSrv
  cases records.srvRecords.lookup name <;> cases records.txtRecords.lookup name <;> rfl

theorem collectAddress_eq
    : collectAddress records entry
        = { entry with
            address := (records.aRecords.lookup (trimEndMatches entry.host '.' ++ ".")).or
              entry.address } := by
  unfold collectAddress
  cases records.aRecords.lookup (trimEndMatches entry.host '.' ++ ".") <;> rfl

end Fields

end Entry

namespace Packet

variable (mdns : EdgeMdns Name)

def collected (packet : Packet Name) : MdnsRecords :=
  packet.records.foldl (fun records record => collectMdnsRecord mdns record records) .default

def instances (packet : Packet Name) : List String :=
  instanceNames packet.orders (packet.collected mdns)

def collect (devices : HashMap MdnsDevice) (packet : Packet Name) : HashMap MdnsDevice :=
  collectDevices mdns.parseIdentifier (packet.collected mdns) packet.orders devices

/-
What the packet says about the host and the port of the device `name`.
-/
def srvOf (name : String) (packet : Packet Name) : Option (String × UInt16) :=
  if name ∈ packet.instances mdns then (packet.collected mdns).srvRecords.lookup name else none

def txtOf (name : String) (packet : Packet Name) : Option (HashMap String) :=
  if name ∈ packet.instances mdns then (packet.collected mdns).txtRecords.lookup name else none

def addressOf (host : String) (packet : Packet Name) : Option Ipv4Addr :=
  (packet.collected mdns).aRecords.lookup host

def portOf (name : String) (packet : Packet Name) : Option UInt16 :=
  ((packet.txtOf mdns name).bind txtPort).or ((packet.srvOf mdns name).map Prod.snd)

variable {mdns} {packet : Packet Name} {name : String}

theorem srvOf_of_notMem (hName : name ∉ packet.instances mdns)
    : packet.srvOf mdns name = none := if_neg hName

theorem txtOf_of_notMem (hName : name ∉ packet.instances mdns)
    : packet.txtOf mdns name = none := if_neg hName

theorem mem_of_txtOf {txt : HashMap String} (hTxt : packet.txtOf mdns name = some txt)
    : name ∈ packet.instances mdns := by
  by_contra hName
  rw [txtOf_of_notMem hName] at hTxt
  contradiction

theorem portOf_of_notMem (hName : name ∉ packet.instances mdns)
    : packet.portOf mdns name = none := by
  unfold portOf
  rw [srvOf_of_notMem hName, txtOf_of_notMem hName]
  rfl

theorem srvOf_of_mem (hName : name ∈ packet.instances mdns)
    : packet.srvOf mdns name = (packet.collected mdns).srvRecords.lookup name := if_pos hName

theorem txtOf_of_mem (hName : name ∈ packet.instances mdns)
    : packet.txtOf mdns name = (packet.collected mdns).txtRecords.lookup name := if_pos hName

theorem mem_of_srvOf {srv : String × UInt16} (hSrv : packet.srvOf mdns name = some srv)
    : name ∈ packet.instances mdns := by
  by_contra hName
  rw [srvOf_of_notMem hName] at hSrv
  contradiction

end Packet

section Records

def PeerAnswer.srvAt (mdns : EdgeMdns Name) (name : String) (record : PeerAnswer Name)
    : Option (String × UInt16) :=
  match record.data with
  | .srv target port =>
    if dnsNameToString mdns record.owner = name then some (dnsNameToString mdns target, port) else none
  | _ => none

def PeerAnswer.txtAt (mdns : EdgeMdns Name) (name : String) (record : PeerAnswer Name)
    : Option (HashMap String) :=
  match record.data with
  | .txt items =>
    if dnsNameToString mdns record.owner = name then some (parseTxtRecord items) else none
  | _ => none

def PeerAnswer.aAt (mdns : EdgeMdns Name) (name : String) (record : PeerAnswer Name)
    : Option Ipv4Addr :=
  match record.data with
  | .a address => if dnsNameToString mdns record.owner = name then some address else none
  | _ => none

theorem lookup_foldl_insert {V : Type} (map : MdnsRecords → HashMap V)
    {insert : MdnsRecords → PeerAnswer Name → MdnsRecords}
    {supplies : PeerAnswer Name → Option V} {name : String}
    (hInsert : ∀ records record,
      (map (insert records record)).lookup name = (supplies record).or ((map records).lookup name))
    (hEmpty : (map .default).lookup name = none) (answers : List (PeerAnswer Name))
    : (map (answers.foldl insert .default)).lookup name = latest supplies answers := by
  induction answers using List.reverseRecOn with
  | nil => exact hEmpty
  | append_singleton answers record ih =>
    rw [List.foldl_append, List.foldl_cons, List.foldl_nil, hInsert, latest_concat, ih]

theorem lookup_insert_or {V : Type} (map : HashMap V) (key name : String) (value : V)
    : (map.insert key value).lookup name
        = (if key = name then some value else none).or (map.lookup name) := by
  split
  . next hSame => rw [hSame, AList.lookup_insert, Option.some_or]
  . next hOther => rw [AList.lookup_insert_ne (Ne.symm hOther), Option.none_or]

theorem Packet.lookup_srvRecords (mdns : EdgeMdns Name) (packet : Packet Name) (name : String)
    : (packet.collected mdns).srvRecords.lookup name
        = latest (PeerAnswer.srvAt mdns name) packet.records := by
  refine lookup_foldl_insert MdnsRecords.srvRecords ?_ rfl packet.records
  rintro records ⟨owner, _ | ptrdname | ⟨target, port⟩ | items | _⟩
  . rfl
  . unfold collectMdnsRecord
    simp only
    split <;> rfl
  . exact lookup_insert_or _ _ _ _
  . rfl
  . rfl

theorem Packet.lookup_txtRecords (mdns : EdgeMdns Name) (packet : Packet Name) (name : String)
    : (packet.collected mdns).txtRecords.lookup name
        = latest (PeerAnswer.txtAt mdns name) packet.records := by
  refine lookup_foldl_insert MdnsRecords.txtRecords ?_ rfl packet.records
  rintro records ⟨owner, _ | ptrdname | ⟨target, port⟩ | items | _⟩
  . rfl
  . unfold collectMdnsRecord
    simp only
    split <;> rfl
  . rfl
  . exact lookup_insert_or _ _ _ _
  . rfl

theorem Packet.lookup_aRecords (mdns : EdgeMdns Name) (packet : Packet Name) (name : String)
    : (packet.collected mdns).aRecords.lookup name
        = latest (PeerAnswer.aAt mdns name) packet.records := by
  refine lookup_foldl_insert MdnsRecords.aRecords ?_ rfl packet.records
  rintro records ⟨owner, address | ptrdname | ⟨target, port⟩ | items | _⟩
  . exact lookup_insert_or _ _ _ _
  . unfold collectMdnsRecord
    simp only
    split <;> rfl
  . rfl
  . rfl
  . rfl

end Records

theorem Packet.absolute_of_srvOf {mdns : EdgeMdns Name} {packet : Packet Name} {name : String}
    {target : String} {port : UInt16} (hMdns : mdns.Documented)
    (hSrv : packet.srvOf mdns name = some (target, port))
    : trimEndMatches target '.' ++ "." = target := by
  rw [srvOf_of_mem (mem_of_srvOf hSrv), lookup_srvRecords] at hSrv
  rcases exists_of_latest hSrv with ⟨⟨owner, _ | _ | ⟨host, _⟩ | _ | _⟩, _, hValue⟩
  case srv =>
    simp only [PeerAnswer.srvAt, Option.ite_none_right_eq_some, Option.some.injEq, Prod.mk.injEq]
      at hValue
    rw [← hValue.right.left]
    exact dnsNameToString_absolute hMdns host
  all_goals contradiction

def collectPackets (mdns : EdgeMdns Name) (packets : List (Packet Name)) : HashMap MdnsDevice :=
  packets.foldl (Packet.collect mdns) ∅

section Parsed

def Packet.Parses (mdns : EdgeMdns Name) (packet : Packet Name) (octets : List UInt8) : Prop :=
  ∃ answer authority additional : List (PeerAnswer Name),
    mdns.fromOctets octets
      = some ⟨some (answer.map some), some (authority.map some), some (additional.map some)⟩
      ∧
    packet.records = answer ++ authority ++ additional

theorem collectSection_map_some (mdns : EdgeMdns Name) (answers : List (PeerAnswer Name))
    (records : MdnsRecords)
    : collectSection mdns (some (answers.map some)) records
        = .ok (answers.foldl (fun records record => collectMdnsRecord mdns record records) records) := by
  unfold collectSection
  induction answers generalizing records with
  | nil => rfl
  | cons record answers ih => exact ih _

theorem collectMdnsDevices_parses {mdns : EdgeMdns Name} {packet : Packet Name} {octets : List UInt8}
    (h : packet.Parses mdns octets) (devices : HashMap MdnsDevice)
    : collectMdnsDevices mdns packet.orders octets devices = (packet.collect mdns devices, .ok ()) := by
  rcases h with ⟨answer, authority, additional, hOctets, hRecords⟩
  have hMessage : collectMessage mdns
      ⟨some (answer.map some), some (authority.map some), some (additional.map some)⟩
        = .ok (packet.collected mdns) := by
    unfold collectMessage Packet.collected
    rw [hRecords, List.foldl_append, List.foldl_append, collectSection_map_some]
    change (collectSection mdns (some (authority.map some)) _ >>= _) = _
    rw [collectSection_map_some]
    change collectSection mdns (some (additional.map some)) _ = _
    rw [collectSection_map_some]
  unfold collectMdnsDevices
  rw [hOctets]
  simp only [hMessage]
  rfl

theorem discoverPackets_parses {mdns : EdgeMdns Name} {packets : List (Packet Name)}
    {received : List (KeyOrders × List UInt8)}
    (h : List.Forall₂ (fun packet packetOctets => packetOctets.1 = packet.orders
      ∧ packet.Parses mdns packetOctets.2) packets received)
    : discoverPackets mdns received = collectPackets mdns packets := by
  unfold discoverPackets collectPackets
  generalize (∅ : HashMap MdnsDevice) = devices
  induction h generalizing devices with
  | nil => rfl
  | cons hPacket _ ih =>
    rw [List.foldl_cons, List.foldl_cons, ← ih]
    rcases hPacket with ⟨hOrders, hParses⟩
    simp only [hOrders, collectMdnsDevices_parses hParses]

end Parsed

section Collect

variable {mdns : EdgeMdns Name} {packet : Packet Name} {name : String}

theorem Packet.lookup_collect_of_mem (hName : name ∈ packet.instances mdns)
    (devices : HashMap MdnsDevice)
    : (packet.collect mdns devices).lookup name
        = some (collectAddress (packet.collected mdns)
            (updateEntry mdns.parseIdentifier (packet.collected mdns) name
              ((devices.lookup name).getD (MdnsDevice.fresh name)))) := by
  unfold Packet.collect collectDevices
  rw [HashMap.lookup_mapValues]
  unfold Packet.instances at hName
  rw [lookup_collectInstances_of_mem _ _ hName]
  rfl

theorem Packet.lookup_collect_of_notMem (hName : name ∉ packet.instances mdns)
    (devices : HashMap MdnsDevice)
    : (packet.collect mdns devices).lookup name
        = (devices.lookup name).map (collectAddress (packet.collected mdns)) := by
  unfold Packet.collect collectDevices
  rw [HashMap.lookup_mapValues]
  unfold Packet.instances at hName
  rw [lookup_collectInstances_of_notMem _ _ hName]

end Collect

end Wifi
end Enody
