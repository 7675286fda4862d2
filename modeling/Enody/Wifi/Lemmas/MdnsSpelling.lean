import Enody.Wifi.Lemmas.MdnsReading

/-!
This module contains when the letter case of DNS names does not matter for the devices that discovery finds.
-/

namespace Enody
namespace Wifi

def SameName (left right : String) : Prop :=
  left.toList.map Char.toLower = right.toList.map Char.toLower

section SameName

variable {left right third : String}

theorem SameName.refl (name : String) : SameName name name := Eq.refl _

theorem SameName.symm (h : SameName left right) : SameName right left := Eq.symm h

theorem SameName.trans (h : SameName left right) (hThird : SameName right third) : SameName left third :=
  Eq.trans h hThird

theorem toLower_eq_dot {c : Char} : c.toLower = '.' ↔ c = '.' := by
  unfold Char.toLower
  split
  . next hUpper =>
    have hLow : 65 ≤ c.val.toNat := hUpper.left
    have hHigh : c.val.toNat ≤ 90 := hUpper.right
    constructor
    . intro hLower
      have hVal := congrArg (fun c => c.val.toNat) hLower
      rw [UInt32.toNat_add] at hVal
      have hNat : (c.val.toNat + 32) % 2 ^ 32 = 46 := hVal
      omega
    . intro hDot
      rw [hDot] at hLow
      contradiction
  . rfl

theorem toList_trimEndMatches_map (s : String)
    : (trimEndMatches s '.').toList.map Char.toLower
        = ((s.toList.map Char.toLower).reverse.dropWhile (· == '.')).reverse := by
  have hDot : ((· == '.') ∘ Char.toLower : Char → Bool) = (· == '.') := by
    funext c
    simp [toLower_eq_dot]
  unfold trimEndMatches
  rw [String.toList_ofList, ← List.map_reverse, List.dropWhile_map, hDot, List.map_reverse]

theorem SameName.trim (h : SameName left right)
    : SameName (trimEndMatches left '.') (trimEndMatches right '.') := by
  unfold SameName at h ⊢
  rw [toList_trimEndMatches_map, toList_trimEndMatches_map, h]

theorem SameName.append (h : SameName left right) (s : String) : SameName (left ++ s) (right ++ s) := by
  unfold SameName at h ⊢
  rw [String.toList_append, String.toList_append, List.map_append, List.map_append, h]

theorem dnsNameEq_iff : dnsNameEq left right = true
    ↔ SameName (trimEndMatches left '.') (trimEndMatches right '.') := by
  unfold dnsNameEq eqIgnoreAsciiCase SameName
  rw [beq_iff_eq]

theorem SameName.isServiceName_eq (h : SameName left right) : isServiceName left = isServiceName right := by
  unfold isServiceName toAsciiLowercase
  rw [h.trim]

theorem SameName.eq_dot (h : SameName left ".") : left = "." := by
  have hList : left.toList = ['.'] := by
    unfold SameName at h
    rcases hLeft : left.toList with _ | ⟨c, _ | ⟨d, rest⟩⟩
    . rw [hLeft] at h
      contradiction
    . rw [hLeft] at h
      have hDot : c.toLower = '.' := by simpa using h
      rw [toLower_eq_dot.mp hDot]
    . rw [hLeft] at h
      simp at h
  apply String.toList_injective
  rw [hList]
  rfl

end SameName

variable {Name : Type} {mdns : EdgeMdns Name}

inductive RecordData.Respelled (mdns : EdgeMdns Name) : RecordData Name → RecordData Name → Prop where
  | a (address : Ipv4Addr) : Respelled mdns (.a address) (.a address)
  | ptr {ptrdname ptrdname' : Name}
    (h : SameName (dnsNameToString mdns ptrdname) (dnsNameToString mdns ptrdname'))
    : Respelled mdns (.ptr ptrdname) (.ptr ptrdname')
  | srv {target target' : Name} (port : UInt16)
    (h : SameName (dnsNameToString mdns target) (dnsNameToString mdns target'))
    : Respelled mdns (.srv target port) (.srv target' port)
  | txt (items : List (List UInt8)) : Respelled mdns (.txt items) (.txt items)
  | other : Respelled mdns .other .other

structure PeerAnswer.Respelled (mdns : EdgeMdns Name) (record record' : PeerAnswer Name) : Prop where
  owner : SameName (dnsNameToString mdns record.owner) (dnsNameToString mdns record'.owner)
  data : RecordData.Respelled mdns record.data record'.data

/-
The hash maps may list their keys in another order.
-/
def Packet.Respelled (mdns : EdgeMdns Name) (packet packet' : Packet Name) : Prop :=
  List.Forall₂ (PeerAnswer.Respelled mdns) packet.records packet'.records

theorem PeerAnswer.Respelled.symm {record record' : PeerAnswer Name} (h : record.Respelled mdns record')
    : record'.Respelled mdns record := by
  rcases record with ⟨owner, data⟩
  rcases record' with ⟨owner', data'⟩
  refine ⟨h.owner.symm, ?_⟩
  cases h.data with
  | a address => exact .a address
  | ptr hName => exact .ptr hName.symm
  | srv port hName => exact .srv port hName.symm
  | txt items => exact .txt items
  | other => exact .other

theorem Packet.Respelled.symm {packet packet' : Packet Name} (h : packet.Respelled mdns packet')
    : packet'.Respelled mdns packet := by
  unfold Respelled at h ⊢
  exact List.Forall₂.flip (h.imp fun _ _ hRecord => hRecord.symm)

/-
The names that a record spells: the one of an instance of the service, the owner of its data, and the owner of
an address.
-/
def PeerAnswer.pointer (mdns : EdgeMdns Name) (record : PeerAnswer Name) : Option String :=
  match record.data with
  | .ptr ptrdname =>
    if mdns.nameEq record.owner wifiServiceLabels then some (dnsNameToString mdns ptrdname) else none
  | _ => none

def PeerAnswer.instanceOwner (mdns : EdgeMdns Name) (record : PeerAnswer Name) : Option String :=
  match record.data with
  | .srv _ _ => some (dnsNameToString mdns record.owner)
  | .txt _ => some (dnsNameToString mdns record.owner)
  | _ => none

def Packet.ServiceName (mdns : EdgeMdns Name) (packet : Packet Name) (name : String) : Prop :=
  (∃ record ∈ packet.records, record.pointer mdns = some name)
    ∨ (isServiceName name = true ∧ ∃ record ∈ packet.records, record.instanceOwner mdns = some name)

/--
What may differ between two devices that are the same: the letter case of `instance` and `host`.
-/
structure SameDevice (device device' : MdnsDevice) : Prop where
  instanceName : SameName device.instance device'.instance
  host : SameName device.host device'.host
  address : device'.address = device.address
  port : device'.port = device.port
  txtFields : device'.txtFields = device.txtFields

structure Covers (devices devices' : HashMap MdnsDevice) : Prop where
  found : ∀ name device, devices.lookup name = some device →
    ∃ name' device', devices'.lookup name' = some device' ∧ SameName name name'
      ∧ SameDevice device device'
  once : ∀ name other, name ∈ devices → other ∈ devices → SameName name other → name = other

structure SameDevices (devices devices' : HashMap MdnsDevice) : Prop where
  forth : Covers devices devices'
  back : Covers devices' devices

structure Supplied.Same (supplied supplied' : Supplied) : Prop where
  host : SameName supplied.host supplied'.host
  address : supplied'.address = supplied.address
  port : supplied'.port = supplied.port
  txtFields : supplied'.txtFields = supplied.txtFields

/--
What the exact lookups supply for the devices is the same in both lists, and neither list picks a device in two
spellings.
-/
structure SuppliedAlike (mdns : EdgeMdns Name) (packets packets' : List (Packet Name)) : Prop where
  once : ∀ name other, Known mdns packets name → Known mdns packets other → SameName name other → name = other
  once' : ∀ name other, Known mdns packets' name → Known mdns packets' other → SameName name other →
    name = other
  supplied : ∀ name name', Known mdns packets name → Known mdns packets' name' → SameName name name' →
    Supplied.Same ((Reading.exact mdns name).supplied mdns.parseIdentifier packets)
      ((Reading.exact mdns name').supplied mdns.parseIdentifier packets')

/--
A list for which it makes no difference whether the code compares names exactly or by `dns_name_eq`: each device is
picked in one spelling, and the lookups by this spelling supply what the ones by `dns_name_eq` do.
-/
structure ReadsAsDns (mdns : EdgeMdns Name) (packets : List (Packet Name)) : Prop where
  once : ∀ name other, Known mdns packets name → Known mdns packets other → SameName name other → name = other
  supplied : ∀ name, Known mdns packets name →
    Supplied.Same ((Reading.exact mdns name).supplied mdns.parseIdentifier packets)
      ((Reading.dns mdns name).supplied mdns.parseIdentifier packets)

def PeerAnswer.names (mdns : EdgeMdns Name) (record : PeerAnswer Name) : List String :=
  dnsNameToString mdns record.owner ::
    match record.data with
    | .ptr ptrdname => [dnsNameToString mdns ptrdname]
    | .srv target _ => [dnsNameToString mdns target]
    | _ => []

def Written (mdns : EdgeMdns Name) (packets : List (Packet Name)) (name : String) : Prop :=
  ∃ packet ∈ packets, ∃ record ∈ packet.records, name ∈ record.names mdns

/--
The packets write every DNS name in one way.
-/
def OneSpelling (mdns : EdgeMdns Name) (packets : List (Packet Name)) : Prop :=
  ∀ name other, Written mdns packets name → Written mdns packets other → SameName name other → name = other

section Same

variable {supplied supplied' supplied'' : Supplied}

theorem Supplied.Same.refl (supplied : Supplied) : supplied.Same supplied := ⟨.refl _, rfl, rfl, rfl⟩

theorem Supplied.Same.symm (h : supplied.Same supplied') : supplied'.Same supplied :=
  ⟨h.host.symm, h.address.symm, h.port.symm, h.txtFields.symm⟩

theorem Supplied.Same.trans (h : supplied.Same supplied') (hThird : supplied'.Same supplied'')
    : supplied.Same supplied'' :=
  ⟨h.host.trans hThird.host, hThird.address.trans h.address, hThird.port.trans h.port,
    hThird.txtFields.trans h.txtFields⟩

theorem sameDevice_iff {device device' : MdnsDevice}
    : SameDevice device device'
        ↔
      SameName device.instance device'.instance ∧ device.supplied.Same device'.supplied := by
  constructor
  . intro h
    exact ⟨h.instanceName, h.host, h.address, h.port, h.txtFields⟩
  . rintro ⟨hInstance, h⟩
    exact ⟨hInstance, h.host, h.address, h.port, h.txtFields⟩

end Same

section Picked

variable {names keys : List String} {name : String}

theorem named_of_mem_foldl (h : name ∈ keys.foldl (fun names name =>
      if isServiceName name && !names.any (dnsNameEq · name) then names ++ [name] else names) names)
    : name ∈ names ∨ (name ∈ keys ∧ isServiceName name = true) := by
  induction keys generalizing names with
  | nil => exact .inl h
  | cons key keys ih =>
    rw [List.foldl_cons] at h
    split at h
    . next hNew =>
      rw [Bool.and_eq_true] at hNew
      rcases ih h with hMem | ⟨hMem, hService⟩
      . rcases List.mem_append.mp hMem with hMem | hMem
        . exact .inl hMem
        . rw [List.mem_singleton.mp hMem]
          exact .inr ⟨List.mem_cons_self, hNew.left⟩
      . exact .inr ⟨List.mem_cons_of_mem _ hMem, hService⟩
    . rcases ih h with hMem | ⟨hMem, hService⟩
      . exact .inl hMem
      . exact .inr ⟨List.mem_cons_of_mem _ hMem, hService⟩

theorem exists_mem_foldl_of_named (h : name ∈ names ∨ (name ∈ keys ∧ isServiceName name = true))
    : ∃ other ∈ keys.foldl (fun names name =>
          if isServiceName name && !names.any (dnsNameEq · name) then names ++ [name] else names) names,
        other = name ∨ dnsNameEq other name = true := by
  induction keys generalizing names name with
  | nil =>
    rcases h with hMem | ⟨hMem, _⟩
    . exact ⟨name, hMem, .inl rfl⟩
    . contradiction
  | cons key keys ih =>
    rw [List.foldl_cons]
    split
    . rcases h with hMem | ⟨hMem, hService⟩
      . exact ih (.inl (List.mem_append_left _ hMem))
      . rcases List.mem_cons.mp hMem with hSame | hMem
        . exact ih (.inl (by simp [hSame]))
        . exact ih (.inr ⟨hMem, hService⟩)
    . next hOld =>
      rcases h with hMem | ⟨hMem, hService⟩
      . exact ih (.inl hMem)
      . rcases List.mem_cons.mp hMem with hSame | hMem
        -- a key that is passed over is on the list in some spelling
        . rw [← hSame, hService, Bool.true_and, Bool.not_eq_true', Bool.not_eq_false,
            List.any_eq_true] at hOld
          rcases hOld with ⟨first, hFirst, hEq⟩
          rcases ih (.inl hFirst) with ⟨other, hOther, hSame | hSame⟩
          . rw [← hSame] at hEq
            exact ⟨other, hOther, .inr hEq⟩
          . rw [dnsNameEq_iff] at hEq hSame
            exact ⟨other, hOther, .inr (dnsNameEq_iff.mpr (hSame.trans hEq))⟩
        . exact ih (.inr ⟨hMem, hService⟩)

end Picked

section ServiceNames

variable {packet packet' : Packet Name} {devices devices' : HashMap MdnsDevice} {name name' : String}

theorem SameName.of_absolute (h : SameName (trimEndMatches name '.') (trimEndMatches name' '.'))
    (hName : trimEndMatches name '.' ++ "." = name) (hName' : trimEndMatches name' '.' ++ "." = name')
    : SameName name name' := by
  have hAppend := h.append "."
  rw [hName, hName'] at hAppend
  exact hAppend

theorem Packet.ptrInstances_eq
    : (packet.collected mdns).ptrInstances = packet.records.filterMap (PeerAnswer.pointer mdns) := by
  unfold collected
  induction packet.records using List.reverseRecOn with
  | nil => rfl
  | append_singleton records record ih =>
    rw [List.foldl_append, List.filterMap_append, ← ih]
    rcases record with ⟨owner, _ | ptrdname | ⟨target, port⟩ | items | _⟩
    case ptr =>
      simp only [List.foldl_cons, List.foldl_nil, collectMdnsRecord]
      split
      . next hEq => simp [PeerAnswer.pointer, hEq]
      . next hEq => simp [PeerAnswer.pointer, hEq]
    all_goals simp [collectMdnsRecord, PeerAnswer.pointer]

theorem instanceOwner_eq_some_iff {record : PeerAnswer Name}
    : record.instanceOwner mdns = some name
        ↔ record.srvAt mdns name ≠ none ∨ record.txtAt mdns name ≠ none := by
  rcases record with ⟨owner, _ | ptrdname | ⟨target, port⟩ | items | _⟩
  all_goals simp [PeerAnswer.instanceOwner, PeerAnswer.srvAt, PeerAnswer.txtAt]

theorem Packet.serviceOwner_iff
    : ServiceOwner (packet.collected mdns) name
        ↔ isServiceName name = true ∧ ∃ record ∈ packet.records, record.instanceOwner mdns = some name := by
  have hSrv : name ∈ (packet.collected mdns).srvRecords.keys
      ↔ ∃ record ∈ packet.records, record.srvAt mdns name ≠ none := by
    rw [← AList.mem_keys, ← AList.lookup_isSome, lookup_srvRecords, Option.isSome_iff_ne_none, ne_eq,
      latest_eq_none_iff]
    simp
  have hTxt : name ∈ (packet.collected mdns).txtRecords.keys
      ↔ ∃ record ∈ packet.records, record.txtAt mdns name ≠ none := by
    rw [← AList.mem_keys, ← AList.lookup_isSome, lookup_txtRecords, Option.isSome_iff_ne_none, ne_eq,
      latest_eq_none_iff]
    simp
  unfold ServiceOwner
  rw [hSrv, hTxt]
  simp only [instanceOwner_eq_some_iff, and_or_left, exists_or]

theorem owner_of_instanceOwner {record : PeerAnswer Name} (h : record.instanceOwner mdns = some name)
    : dnsNameToString mdns record.owner = name := by
  rcases record with ⟨owner, _ | ptrdname | ⟨target, port⟩ | items | _⟩
  all_goals
    simp only [PeerAnswer.instanceOwner, Option.some.injEq, reduceCtorEq] at h
  . exact h
  . exact h

theorem PeerAnswer.Respelled.instanceOwner {record record' : PeerAnswer Name}
    (h : record.Respelled mdns record') (hOwner : record.instanceOwner mdns = some name)
    : record'.instanceOwner mdns = some (dnsNameToString mdns record'.owner) := by
  rcases record with ⟨owner, data⟩
  rcases record' with ⟨owner', data'⟩
  cases h.data with
  | srv port hTarget => rfl
  | txt items => rfl
  | _ => simp [PeerAnswer.instanceOwner] at hOwner

theorem Packet.ServiceName.absolute (hMdns : mdns.Documented) (h : packet.ServiceName mdns name)
    : trimEndMatches name '.' ++ "." = name := by
  rcases h with ⟨⟨owner, data⟩, _, hPointer⟩ | ⟨_, ⟨owner, data⟩, _, hOwner⟩
  . cases data with
    | ptr ptrdname =>
      simp only [PeerAnswer.pointer, Option.ite_none_right_eq_some, Option.some.injEq] at hPointer
      rw [← hPointer.right]
      exact dnsNameToString_absolute hMdns ptrdname
    | _ => simp [PeerAnswer.pointer] at hPointer
  . rw [← owner_of_instanceOwner hOwner]
    exact dnsNameToString_absolute hMdns owner

theorem Packet.Respelled.serviceName (h : packet.Respelled mdns packet') (hMdns : mdns.Documented)
    (hName : packet.ServiceName mdns name)
    : ∃ name', packet'.ServiceName mdns name' ∧ SameName name name' := by
  rcases hName with ⟨⟨owner, data⟩, hMem, hPointer⟩ | ⟨hService, ⟨owner, data⟩, hMem, hOwner⟩
  . rcases exists_of_forall₂_left h hMem with ⟨⟨owner', data'⟩, hMem', hRecord⟩
    have hEq := hMdns.nameEq owner owner' wifiServiceLabels (beq_iff_eq.mpr hRecord.owner)
    cases hRecord.data with
    | ptr hTarget =>
      simp only [PeerAnswer.pointer, Option.ite_none_right_eq_some, Option.some.injEq] at hPointer
      refine ⟨_, .inl ⟨_, hMem', if_pos (hEq.symm.trans hPointer.left)⟩, ?_⟩
      rw [← hPointer.right]
      exact hTarget
    | _ => simp [PeerAnswer.pointer] at hPointer
  . rcases exists_of_forall₂_left h hMem with ⟨record', hMem', hRecord⟩
    have hSame := hRecord.owner
    rw [owner_of_instanceOwner hOwner] at hSame
    exact ⟨_, .inr ⟨hSame.isServiceName_eq.symm.trans hService, record', hMem',
      hRecord.instanceOwner hOwner⟩, hSame⟩

end ServiceNames

section Instances

variable {packet packet' : Packet Name} {packets packets' : List (Packet Name)} {name name' : String}

theorem dnsNameEq_iff_sameName (hName : trimEndMatches name '.' ++ "." = name)
    (hName' : trimEndMatches name' '.' ++ "." = name')
    : dnsNameEq name name' = true ↔ SameName name name' := by
  rw [dnsNameEq_iff]
  constructor
  . intro hSame
    exact hSame.of_absolute hName hName'
  . exact SameName.trim

theorem dnsNameEq_congr {other other' : String} (hName : SameName name name') (hOther : SameName other other')
    : dnsNameEq name other = dnsNameEq name' other' := by
  rw [Bool.eq_iff_iff, dnsNameEq_iff, dnsNameEq_iff]
  constructor
  . intro hSame
    exact (hName.symm.trim.trans hSame).trans hOther.trim
  . intro hSame
    exact (hName.trim.trans hSame).trans hOther.symm.trim

theorem mem_instances_keys {keys : KeyOrders} {records : MdnsRecords}
    : name ∈ keys.srv.order records.srvRecords.keys ++ keys.txt.order records.txtRecords.keys
        ↔ name ∈ records.srvRecords.keys ∨ name ∈ records.txtRecords.keys := by
  rw [List.mem_append, (keys.srv.perm _).mem_iff, (keys.txt.perm _).mem_iff]

theorem Packet.serviceName_iff
    : packet.ServiceName mdns name
        ↔
      name ∈ (packet.collected mdns).ptrInstances ∨ ServiceOwner (packet.collected mdns) name := by
  rw [Packet.ptrInstances_eq, Packet.serviceOwner_iff, List.mem_filterMap]
  rfl

theorem Packet.serviceName_of_mem (hName : name ∈ packet.instances mdns) : packet.ServiceName mdns name := by
  rw [serviceName_iff]
  rcases named_of_mem_foldl hName with hMem | ⟨hMem, hService⟩
  . exact .inl hMem
  . exact .inr ⟨hService, mem_instances_keys.mp hMem⟩

theorem Packet.ServiceName.picked (h : packet.ServiceName mdns name)
    : ∃ other ∈ packet.instances mdns, dnsNameEq other name = true := by
  have hMem : name ∈ (packet.collected mdns).ptrInstances
      ∨ (name ∈ packet.orders.srv.order (packet.collected mdns).srvRecords.keys
          ++ packet.orders.txt.order (packet.collected mdns).txtRecords.keys ∧ isServiceName name = true) := by
    rw [mem_instances_keys]
    rcases serviceName_iff.mp h with hMem | hOwner
    . exact .inl hMem
    . exact .inr ⟨hOwner.right, hOwner.left⟩
  rcases exists_mem_foldl_of_named hMem with ⟨other, hOther, hSame | hSame⟩
  . refine ⟨other, hOther, ?_⟩
    rw [hSame, dnsNameEq_iff]
    exact .refl _
  . exact ⟨other, hOther, hSame⟩

theorem Known.absolute (hMdns : mdns.Documented) (h : Known mdns packets name)
    : trimEndMatches name '.' ++ "." = name := by
  rcases h with ⟨packet, _, hName⟩
  exact (Packet.serviceName_of_mem hName).absolute hMdns

theorem Packet.Respelled.any_instances (h : packet.Respelled mdns packet') (hMdns : mdns.Documented)
    (hName : SameName name name')
    : (packet.instances mdns).any (dnsNameEq · name) = (packet'.instances mdns).any (dnsNameEq · name') := by
  have hForth {packet packet' : Packet Name} {name name' : String} (h : packet.Respelled mdns packet')
      (hName : SameName name name') (hAny : (packet.instances mdns).any (dnsNameEq · name) = true)
      : (packet'.instances mdns).any (dnsNameEq · name') = true := by
    rcases List.any_eq_true.mp hAny with ⟨other, hOther, hEq⟩
    rcases h.serviceName hMdns (serviceName_of_mem hOther) with ⟨other', hService, hSame⟩
    rcases hService.picked with ⟨third, hThird, hPicked⟩
    refine List.any_eq_true.mpr ⟨third, hThird, ?_⟩
    rw [dnsNameEq_iff] at hEq hPicked ⊢
    exact ((hPicked.trans hSame.symm.trim).trans hEq).trans hName.trim
  rw [Bool.eq_iff_iff]
  exact ⟨hForth h hName, hForth h.symm hName.symm⟩

theorem known_of_respelled (hMdns : mdns.Documented)
    (hRespelled : List.Forall₂ (Packet.Respelled mdns) packets packets') (h : Known mdns packets name)
    : ∃ name', Known mdns packets' name' ∧ SameName name name' := by
  rcases h with ⟨packet, hPacket, hName⟩
  rcases exists_of_forall₂_left hRespelled hPacket with ⟨packet', hPacket', hSame⟩
  rcases hSame.serviceName hMdns (Packet.serviceName_of_mem hName) with ⟨name', hService, hName'⟩
  rcases hService.picked with ⟨other, hOther, hEq⟩
  have hKnown : Known mdns packets' other := ⟨packet', hPacket', hOther⟩
  rw [dnsNameEq_iff_sameName (hKnown.absolute hMdns) (hService.absolute hMdns)] at hEq
  exact ⟨other, hKnown, hName'.trans hEq.symm⟩

end Instances

section Lookups

variable {record record' : PeerAnswer Name} {name name' : String} {packet packet' : Packet Name}
  {packets packets' : List (Packet Name)}

theorem eq_of_rel {V : Type} {a b : Option V} (h : Option.Rel Eq a b) : b = a := by
  cases h with
  | none => rfl
  | some hSame => rw [hSame]

theorem PeerAnswer.Respelled.dnsAt {V : Type} {S : V → V → Prop}
    {supplies : String → PeerAnswer Name → Option V}
    (h : record.Respelled mdns record') (hName : SameName name name')
    (hSupplies : Option.Rel S (supplies (dnsNameToString mdns record.owner) record)
      (supplies (dnsNameToString mdns record'.owner) record'))
    : Option.Rel S (record.dnsAt mdns supplies name) (record'.dnsAt mdns supplies name') := by
  unfold PeerAnswer.dnsAt
  simp only [dnsNameEq_congr h.owner hName]
  split
  . exact hSupplies
  . exact .none

theorem PeerAnswer.Respelled.srvAt (h : record.Respelled mdns record')
    : Option.Rel (fun srv srv' => SameName srv.1 srv'.1 ∧ srv'.2 = srv.2)
        (record.srvAt mdns (dnsNameToString mdns record.owner))
        (record'.srvAt mdns (dnsNameToString mdns record'.owner)) := by
  rcases record with ⟨owner, data⟩
  rcases record' with ⟨owner', data'⟩
  unfold PeerAnswer.srvAt
  cases h.data with
  | srv port hTarget =>
    simp only [if_true]
    exact .some ⟨hTarget, rfl⟩
  | _ => exact .none

theorem PeerAnswer.Respelled.txtAt (h : record.Respelled mdns record')
    : Option.Rel Eq (record.txtAt mdns (dnsNameToString mdns record.owner))
        (record'.txtAt mdns (dnsNameToString mdns record'.owner)) := by
  rcases record with ⟨owner, data⟩
  rcases record' with ⟨owner', data'⟩
  unfold PeerAnswer.txtAt
  cases h.data with
  | txt items =>
    simp only [if_true]
    exact .some rfl
  | _ => exact .none

theorem PeerAnswer.Respelled.aAt (h : record.Respelled mdns record')
    : Option.Rel Eq (record.aAt mdns (dnsNameToString mdns record.owner))
        (record'.aAt mdns (dnsNameToString mdns record'.owner)) := by
  rcases record with ⟨owner, data⟩
  rcases record' with ⟨owner', data'⟩
  unfold PeerAnswer.aAt
  cases h.data with
  | a address =>
    simp only [if_true]
    exact .some rfl
  | _ => exact .none

theorem Packet.Respelled.dns_srvOf (h : packet.Respelled mdns packet') (hMdns : mdns.Documented)
    (hName : SameName name name')
    : Option.Rel (fun srv srv' => SameName srv.1 srv'.1 ∧ srv'.2 = srv.2)
        ((Reading.dns mdns name).srvOf packet) ((Reading.dns mdns name').srvOf packet') := by
  unfold Reading.dns
  simp only [h.any_instances hMdns hName]
  split
  . apply latest_rel_of_mem h
    intro record record' hRecord _ _
    exact hRecord.dnsAt hName hRecord.srvAt
  . exact .none

theorem Packet.Respelled.dns_txtOf (h : packet.Respelled mdns packet') (hMdns : mdns.Documented)
    (hName : SameName name name')
    : (Reading.dns mdns name').txtOf packet' = (Reading.dns mdns name).txtOf packet := by
  unfold Reading.dns
  simp only [h.any_instances hMdns hName]
  split
  . apply eq_of_rel
    apply latest_rel_of_mem h
    intro record record' hRecord _ _
    exact hRecord.dnsAt hName hRecord.txtAt
  . rfl

theorem Packet.Respelled.dns_addressOf (h : packet.Respelled mdns packet') {host host' : String}
    (hHost : SameName host host')
    : (Reading.dns mdns name').addressOf host' packet' = (Reading.dns mdns name).addressOf host packet := by
  apply eq_of_rel
  apply latest_rel_of_mem h
  intro record record' hRecord _ _
  exact hRecord.dnsAt hHost hRecord.aAt

theorem Packet.Respelled.dns_portOf (h : packet.Respelled mdns packet') (hMdns : mdns.Documented)
    (hName : SameName name name')
    : (Reading.dns mdns name').portOf packet' = (Reading.dns mdns name).portOf packet := by
  have hSrv := h.dns_srvOf hMdns hName
  unfold Reading.portOf
  rw [h.dns_txtOf hMdns hName]
  congr 1
  generalize (Reading.dns mdns name).srvOf packet = srv at hSrv ⊢
  generalize (Reading.dns mdns name').srvOf packet' = srv' at hSrv ⊢
  cases hSrv with
  | none => rfl
  | some hSame => rw [Option.map_some, Option.map_some, hSame.right]

end Lookups

section Dns

variable {name name' : String} {packets packets' : List (Packet Name)}

theorem latest_eq_of_respelled {V : Type} {f g : Packet Name → Option V}
    (h : List.Forall₂ (Packet.Respelled mdns) packets packets')
    (hEq : ∀ packet packet', Packet.Respelled mdns packet packet' → g packet' = f packet)
    : latest g packets' = latest f packets := by
  apply eq_of_rel
  apply latest_rel_of_mem h
  intro packet packet' hPacket _ _
  rw [hEq packet packet' hPacket]
  cases f packet with
  | none => exact .none
  | some value => exact .some rfl

theorem isSome_of_rel {V W : Type} {S : V → W → Prop} {a : Option V} {b : Option W} (h : Option.Rel S a b)
    : a.isSome = b.isSome := by
  cases h with
  | none => rfl
  | some _ => rfl

theorem isEmpty_of_forall₂ {V : Type} {R : V → V → Prop} {l m : List V} (h : List.Forall₂ R l m)
    : l.isEmpty = m.isEmpty := by
  cases h with
  | nil => rfl
  | cons _ _ => rfl

/-
The induction is on both lists of packets, with what has been kept so far.
-/
theorem since_dns_of_respelled (hMdns : mdns.Documented) (hName : SameName name name')
    (hRespelled : List.Forall₂ (Packet.Respelled mdns) packets packets')
    : List.Forall₂ (Packet.Respelled mdns) ((Reading.dns mdns name).since packets)
        ((Reading.dns mdns name').since packets') := by
  unfold Reading.since
  suffices hAll : ∀ current current', List.Forall₂ (Packet.Respelled mdns) current current' →
      List.Forall₂ (Packet.Respelled mdns) (packets.foldl (Reading.dns mdns name).keep current)
        (packets'.foldl (Reading.dns mdns name').keep current') by
    exact hAll [] [] .nil
  induction hRespelled with
  | nil =>
    intro current current' hCurrent
    exact hCurrent
  | cons hPacket _ ih =>
    intro current current' hCurrent
    rw [List.foldl_cons, List.foldl_cons]
    apply ih
    have hNamed := hPacket.any_instances hMdns hName
    unfold Reading.keep
    rw [isSome_of_rel (hPacket.dns_srvOf hMdns hName), isEmpty_of_forall₂ hCurrent]
    change List.Forall₂ _
      (if _ then _ else if _ && !(Packet.instances mdns _).any (dnsNameEq · name) then _ else _) _
    rw [hNamed]
    split
    . exact .cons hPacket .nil
    . change List.Forall₂ _ _ (if _ && !(Packet.instances mdns _).any (dnsNameEq · name') then _ else _)
      split
      . exact .nil
      . exact List.rel_append hCurrent (.cons hPacket .nil)

theorem target_dns_of_respelled (hMdns : mdns.Documented) (hName : SameName name name')
    (hRespelled : List.Forall₂ (Packet.Respelled mdns) packets packets')
    : SameName ((Reading.dns mdns name).target packets) ((Reading.dns mdns name').target packets') := by
  have hSrv : Option.Rel (fun srv srv' => SameName srv.1 srv'.1 ∧ srv'.2 = srv.2)
      (latest (Reading.dns mdns name).srvOf packets) (latest (Reading.dns mdns name').srvOf packets') := by
    apply latest_rel_of_mem hRespelled
    intro packet packet' hPacket _ _
    exact hPacket.dns_srvOf hMdns hName
  unfold Reading.target
  generalize latest (Reading.dns mdns name).srvOf packets = srv at hSrv ⊢
  generalize latest (Reading.dns mdns name').srvOf packets' = srv' at hSrv ⊢
  cases hSrv with
  | none => exact .refl _
  | some hSame => exact hSame.left

/--
The lookups by `dns_name_eq` do not depend on the spelling.
-/
theorem supplied_dns_of_respelled (hMdns : mdns.Documented) (hName : SameName name name')
    (hRespelled : List.Forall₂ (Packet.Respelled mdns) packets packets')
    : Supplied.Same ((Reading.dns mdns name).supplied mdns.parseIdentifier packets)
        ((Reading.dns mdns name').supplied mdns.parseIdentifier packets') := by
  have hTarget := target_dns_of_respelled hMdns hName hRespelled
  constructor
  . exact hTarget.trim
  . apply latest_eq_of_respelled (since_dns_of_respelled hMdns hName hRespelled)
    intro packet packet' hPacket
    exact hPacket.dns_addressOf hTarget
  . apply latest_eq_of_respelled hRespelled
    intro packet packet' hPacket
    exact hPacket.dns_portOf hMdns hName
  . have hTxt : latest (Reading.dns mdns name').txtOf packets' = latest (Reading.dns mdns name).txtOf packets := by
      apply latest_eq_of_respelled hRespelled
      intro packet packet' hPacket
      exact hPacket.dns_txtOf hMdns hName
    unfold Reading.supplied
    simp only [hTxt]

end Dns

section OneSpelling

variable {name : String} {packet : Packet Name} {packets packets' : List (Packet Name)}

theorem PeerAnswer.mem_names_of_pointer {record : PeerAnswer Name} (h : record.pointer mdns = some name)
    : name ∈ record.names mdns := by
  rcases record with ⟨owner, data⟩
  cases data with
  | ptr ptrdname =>
    simp only [PeerAnswer.pointer, Option.ite_none_right_eq_some, Option.some.injEq] at h
    simp [PeerAnswer.names, h.right]
  | _ => simp [PeerAnswer.pointer] at h

theorem Packet.ServiceName.written (hPacket : packet ∈ packets) (h : packet.ServiceName mdns name)
    : Written mdns packets name := by
  rcases h with ⟨record, hMem, hPointer⟩ | ⟨_, record, hMem, hOwner⟩
  . exact ⟨packet, hPacket, record, hMem, PeerAnswer.mem_names_of_pointer hPointer⟩
  . refine ⟨packet, hPacket, record, hMem, ?_⟩
    rw [← owner_of_instanceOwner hOwner]
    exact List.mem_cons_self

theorem Known.written (h : Known mdns packets name) : Written mdns packets name := by
  rcases h with ⟨packet, hPacket, hName⟩
  exact (Packet.serviceName_of_mem hName).written hPacket

theorem written_owner {record : PeerAnswer Name} (hPacket : packet ∈ packets) (hMem : record ∈ packet.records)
    : Written mdns packets (dnsNameToString mdns record.owner) :=
  ⟨packet, hPacket, record, hMem, List.mem_cons_self⟩

theorem written_target {target : String} {port : UInt16} (hPacket : packet ∈ packets)
    (hSrv : packet.srvOf mdns name = some (target, port))
    : Written mdns packets target := by
  rw [Packet.srvOf_of_mem (Packet.mem_of_srvOf hSrv), Packet.lookup_srvRecords] at hSrv
  rcases exists_of_latest hSrv with ⟨record, hMem, hValue⟩
  refine ⟨packet, hPacket, record, hMem, ?_⟩
  rcases record with ⟨owner, data⟩
  cases data with
  | srv host _ =>
    simp only [PeerAnswer.srvAt, Option.ite_none_right_eq_some, Option.some.injEq, Prod.mk.injEq] at hValue
    simp [PeerAnswer.names, hValue.right.left]
  | _ => simp [PeerAnswer.srvAt] at hValue

theorem PeerAnswer.dnsAt_eq {V : Type} {supplies : String → PeerAnswer Name → Option V} {record : PeerAnswer Name}
    (hOnly : dnsNameEq (dnsNameToString mdns record.owner) name = true → dnsNameToString mdns record.owner = name)
    (hOther : dnsNameToString mdns record.owner ≠ name → supplies name record = none)
    : supplies name record = record.dnsAt mdns supplies name := by
  unfold PeerAnswer.dnsAt
  simp only
  split
  . next hEq => rw [hOnly hEq]
  . next hEq =>
    apply hOther
    intro hSame
    apply hEq
    rw [hSame, dnsNameEq_iff]
    exact .refl _

theorem PeerAnswer.srvAt_of_ne {record : PeerAnswer Name} (h : dnsNameToString mdns record.owner ≠ name)
    : record.srvAt mdns name = none := by
  rcases record with ⟨owner, data⟩
  cases data <;> simp [PeerAnswer.srvAt, h]

theorem PeerAnswer.txtAt_of_ne {record : PeerAnswer Name} (h : dnsNameToString mdns record.owner ≠ name)
    : record.txtAt mdns name = none := by
  rcases record with ⟨owner, data⟩
  cases data <;> simp [PeerAnswer.txtAt, h]

theorem PeerAnswer.aAt_of_ne {record : PeerAnswer Name} (h : dnsNameToString mdns record.owner ≠ name)
    : record.aAt mdns name = none := by
  rcases record with ⟨owner, data⟩
  cases data <;> simp [PeerAnswer.aAt, h]

theorem OneSpelling.supplied_eq (h : OneSpelling mdns packets) (hMdns : mdns.Documented)
    (hKnown : Known mdns packets name)
    : (Reading.exact mdns name).supplied mdns.parseIdentifier packets
        = (Reading.dns mdns name).supplied mdns.parseIdentifier packets := by
  have hAbsolute := hKnown.absolute hMdns
  have hNamed : ∀ packet ∈ packets,
      (packet.instances mdns).contains name = (packet.instances mdns).any (dnsNameEq · name) := by
    intro packet hPacket
    rw [Bool.eq_iff_iff, List.contains_iff_mem, List.any_eq_true]
    constructor
    . intro hName
      exact ⟨name, hName, dnsNameEq_iff.mpr (.refl _)⟩
    . rintro ⟨other, hOther, hEq⟩
      have hService := Packet.serviceName_of_mem hOther
      rw [dnsNameEq_iff_sameName (hService.absolute hMdns) hAbsolute] at hEq
      rw [← h other name (hService.written hPacket) hKnown.written hEq]
      exact hOther
  have hOwner {packet : Packet Name} {record : PeerAnswer Name} {other : String} (hPacket : packet ∈ packets)
      (hMem : record ∈ packet.records) (hOther : Written mdns packets other ∨ other = ".")
      (hAbsolute : trimEndMatches other '.' ++ "." = other)
      (hEq : dnsNameEq (dnsNameToString mdns record.owner) other = true)
      : dnsNameToString mdns record.owner = other := by
    rw [dnsNameEq_iff_sameName (dnsNameToString_absolute hMdns _) hAbsolute] at hEq
    rcases hOther with hWritten | hDot
    . exact h _ other (written_owner hPacket hMem) hWritten hEq
    . rw [hDot] at hEq ⊢
      exact hEq.eq_dot
  have hTarget : Written mdns packets ((Reading.exact mdns name).target packets)
      ∨ (Reading.exact mdns name).target packets = "." := by
    unfold Reading.target
    cases hSrv : latest (Reading.exact mdns name).srvOf packets with
    | none => exact .inr rfl
    | some srv =>
      rcases exists_of_latest hSrv with ⟨packet, hPacket, hSrv⟩
      exact .inl (written_target hPacket hSrv)
  apply Reading.supplied_congr
  . exact hNamed
  . intro packet hPacket
    unfold Reading.exact Reading.dns Packet.srvOf
    simp only [← hNamed packet hPacket, List.contains_iff_mem, Packet.lookup_srvRecords]
    rw [latest_congr fun record hMem => PeerAnswer.dnsAt_eq (hOwner hPacket hMem (.inl hKnown.written) hAbsolute)
      PeerAnswer.srvAt_of_ne]
  . intro packet hPacket
    unfold Reading.exact Reading.dns Packet.txtOf
    simp only [← hNamed packet hPacket, List.contains_iff_mem, Packet.lookup_txtRecords]
    rw [latest_congr fun record hMem => PeerAnswer.dnsAt_eq (hOwner hPacket hMem (.inl hKnown.written) hAbsolute)
      PeerAnswer.txtAt_of_ne]
  . intro packet hPacket
    change Packet.addressOf mdns _ packet = latest _ packet.records
    unfold Packet.addressOf
    rw [Packet.lookup_aRecords]
    apply latest_congr
    intro record hMem
    exact PeerAnswer.dnsAt_eq (hOwner hPacket hMem hTarget (absolute_target hMdns)) PeerAnswer.aAt_of_ne

theorem OneSpelling.readsAsDns (h : OneSpelling mdns packets) (hMdns : mdns.Documented)
    : ReadsAsDns mdns packets := by
  constructor
  . intro name other hName hOther hSame
    exact h name other hName.written hOther.written hSame
  . intro name hKnown
    rw [h.supplied_eq hMdns hKnown]
    exact .refl _

end OneSpelling

section Devices

variable {packets packets' : List (Packet Name)} {name : String}

theorem mem_collectPackets_iff : name ∈ collectPackets mdns packets ↔ Known mdns packets name := by
  rw [← AList.lookup_isSome, Option.isSome_iff_ne_none, Ne, lookup_eq_none_iff, not_not]

theorem covers_iff
    : Covers (collectPackets mdns packets) (collectPackets mdns packets')
        ↔
      (∀ name, Known mdns packets name → ∃ name', Known mdns packets' name' ∧ SameName name name' ∧
        SameDevice (entryAfter mdns packets name) (entryAfter mdns packets' name'))
        ∧
      ∀ name other, Known mdns packets name → Known mdns packets other → SameName name other →
        name = other := by
  constructor
  . intro h
    constructor
    . intro name hKnown
      rcases h.found name _ (lookup_of_known hKnown) with ⟨name', device', hDevice', hName, hSame⟩
      have hKnown' : Known mdns packets' name' := by
        rw [← mem_collectPackets_iff, ← AList.lookup_isSome, hDevice']
        rfl
      rw [lookup_of_known hKnown'] at hDevice'
      injection hDevice' with hDevice'
      rw [← hDevice'] at hSame
      exact ⟨name', hKnown', hName, hSame⟩
    . simpa only [mem_collectPackets_iff] using h.once
  . rintro ⟨hFound, hOnce⟩
    constructor
    . intro name device hDevice
      have hKnown : Known mdns packets name := by
        rw [← mem_collectPackets_iff, ← AList.lookup_isSome, hDevice]
        rfl
      rw [lookup_of_known hKnown] at hDevice
      injection hDevice with hDevice
      rcases hFound name hKnown with ⟨name', hKnown', hName, hSame⟩
      rw [← hDevice]
      exact ⟨name', _, lookup_of_known hKnown', hName, hSame⟩
    . simpa only [mem_collectPackets_iff] using hOnce

theorem sameDevice_entryAfter_iff {name' : String} (hMdns : mdns.Documented) (hName : SameName name name')
    : SameDevice (entryAfter mdns packets name) (entryAfter mdns packets' name')
        ↔
      Supplied.Same ((Reading.exact mdns name).supplied mdns.parseIdentifier packets)
        ((Reading.exact mdns name').supplied mdns.parseIdentifier packets') := by
  rw [sameDevice_iff, supplied_entryAfter hMdns, supplied_entryAfter hMdns,
    (latestParts_entryAfter mdns packets name).instanceName,
    (latestParts_entryAfter mdns packets' name').instanceName, and_iff_right hName]

theorem sameDevices_iff_suppliedAlike (hMdns : mdns.Documented)
    (hRespelled : List.Forall₂ (Packet.Respelled mdns) packets packets')
    : SameDevices (collectPackets mdns packets) (collectPackets mdns packets')
        ↔ SuppliedAlike mdns packets packets' := by
  constructor
  . rintro ⟨hForth, hBack⟩
    rw [covers_iff] at hForth hBack
    refine ⟨hForth.right, hBack.right, ?_⟩
    intro name name' hKnown hKnown' hName
    rcases hForth.left name hKnown with ⟨other, hOther, hSame, hDevice⟩
    rw [← hBack.right other name' hOther hKnown' (hSame.symm.trans hName)]
    exact (sameDevice_entryAfter_iff hMdns hSame).mp hDevice
  . intro h
    have hBackwards : List.Forall₂ (Packet.Respelled mdns) packets' packets :=
      (hRespelled.imp fun _ _ hPacket => hPacket.symm).flip
    constructor
    . rw [covers_iff]
      refine ⟨?_, h.once⟩
      intro name hKnown
      rcases known_of_respelled hMdns hRespelled hKnown with ⟨name', hKnown', hName⟩
      exact ⟨name', hKnown', hName,
        (sameDevice_entryAfter_iff hMdns hName).mpr (h.supplied name name' hKnown hKnown' hName)⟩
    . rw [covers_iff]
      refine ⟨?_, h.once'⟩
      intro name hKnown
      rcases known_of_respelled hMdns hBackwards hKnown with ⟨name', hKnown', hName⟩
      exact ⟨name', hKnown', hName, (sameDevice_entryAfter_iff hMdns hName).mpr
        (h.supplied name' name hKnown' hKnown hName.symm).symm⟩

theorem ReadsAsDns.suppliedAlike (h : ReadsAsDns mdns packets) (h' : ReadsAsDns mdns packets')
    (hMdns : mdns.Documented) (hRespelled : List.Forall₂ (Packet.Respelled mdns) packets packets')
    : SuppliedAlike mdns packets packets' := by
  refine ⟨h.once, h'.once, ?_⟩
  intro name name' hKnown hKnown' hName
  have hDns := supplied_dns_of_respelled hMdns hName hRespelled
  exact ((h.supplied name hKnown).trans hDns).trans (h'.supplied name' hKnown').symm

theorem SuppliedAlike.readsAsDns (h : SuppliedAlike mdns packets packets') (hOne : OneSpelling mdns packets')
    (hMdns : mdns.Documented) (hRespelled : List.Forall₂ (Packet.Respelled mdns) packets packets')
    : ReadsAsDns mdns packets := by
  refine ⟨h.once, ?_⟩
  intro name hKnown
  rcases known_of_respelled hMdns hRespelled hKnown with ⟨name', hKnown', hName⟩
  have hSupplied := h.supplied name name' hKnown hKnown' hName
  rw [hOne.supplied_eq hMdns hKnown'] at hSupplied
  exact hSupplied.trans (supplied_dns_of_respelled hMdns hName hRespelled).symm

/--
Lists that differ in the spelling yield the same devices exactly when exact lookups supply the same in both. This is
so when neither list has a record that only a lookup by `dns_name_eq` finds at last; and against a list in one
spelling it is so only then.
-/
theorem sameDevices_iff (hMdns : mdns.Documented)
    (hRespelled : List.Forall₂ (Packet.Respelled mdns) packets packets')
    : (SameDevices (collectPackets mdns packets) (collectPackets mdns packets')
        ↔ SuppliedAlike mdns packets packets')
        ∧
      (ReadsAsDns mdns packets → ReadsAsDns mdns packets' →
        SameDevices (collectPackets mdns packets) (collectPackets mdns packets'))
        ∧
      (OneSpelling mdns packets' →
        (SameDevices (collectPackets mdns packets) (collectPackets mdns packets')
          ↔ ReadsAsDns mdns packets)) := by
  have hIff := sameDevices_iff_suppliedAlike hMdns hRespelled
  refine ⟨hIff, ?_, ?_⟩
  . intro h h'
    exact hIff.mpr (h.suppliedAlike h' hMdns hRespelled)
  . intro hOne
    constructor
    . intro hSame
      exact (hIff.mp hSame).readsAsDns hOne hMdns hRespelled
    . intro h
      exact hIff.mpr (h.suppliedAlike (hOne.readsAsDns hMdns) hMdns hRespelled)

end Devices

section Capital

inductive CapitalName where
  | service
  | lamp
  | lampCapital
  | host
  | hostCapital
  deriving DecidableEq

def capitalText : CapitalName → String
  | .service => "_enody._tcp.local"
  | .lamp => "lamp._enody._tcp.local"
  | .lampCapital => "Lamp._enody._tcp.local"
  | .host => "lamp.local"
  | .hostCapital => "LAMP.local"

def capitalMdns : EdgeMdns CapitalName := .ofText capitalText

theorem documented_capitalMdns : capitalMdns.Documented := by
  apply EdgeMdns.documented_ofText
  intro name
  cases name <;> decide +kernel

def capitalPacket (pointer owner target : CapitalName) : Packet CapitalName :=
  ⟨[⟨.service, .ptr pointer⟩, ⟨owner, .srv target 8788⟩, ⟨target, .a ⟨192, 168, 1, 20⟩⟩], .asListed⟩

theorem sameName_lamp : SameName (dnsNameToString capitalMdns .lamp) (dnsNameToString capitalMdns .lampCapital) := by
  unfold SameName
  decide +kernel

theorem respelled_capitalPacket {pointer owner target pointer' owner' target' : CapitalName}
    (hPointer : SameName (dnsNameToString capitalMdns pointer) (dnsNameToString capitalMdns pointer'))
    (hOwner : SameName (dnsNameToString capitalMdns owner) (dnsNameToString capitalMdns owner'))
    (hTarget : SameName (dnsNameToString capitalMdns target) (dnsNameToString capitalMdns target'))
    : List.Forall₂ (Packet.Respelled capitalMdns) [capitalPacket pointer owner target]
        [capitalPacket pointer' owner' target'] :=
  .cons (.cons ⟨.refl _, .ptr hPointer⟩ (.cons ⟨hOwner, .srv 8788 hTarget⟩
    (.cons ⟨hTarget, .a ⟨192, 168, 1, 20⟩⟩ .nil))) .nil

/-
An answer with its SRV record sent again, in the spelling `owner`.
-/
def againPacket (owner : CapitalName) : Packet CapitalName :=
  ⟨[⟨.service, .ptr .lamp⟩, ⟨.lamp, .srv .host 8788⟩, ⟨owner, .srv .host 8788⟩,
      ⟨.host, .a ⟨192, 168, 1, 20⟩⟩],
    .asListed⟩

theorem respelled_againPacket
    : List.Forall₂ (Packet.Respelled capitalMdns) [againPacket .lampCapital] [againPacket .lamp] :=
  .cons (.cons ⟨.refl _, .ptr (.refl _)⟩ (.cons ⟨.refl _, .srv 8788 (.refl _)⟩
    (.cons ⟨sameName_lamp.symm, .srv 8788 (.refl _)⟩ (.cons ⟨.refl _, .a ⟨192, 168, 1, 20⟩⟩ .nil)))) .nil

theorem oneSpelling_of_texts {packets : List (Packet CapitalName)}
    (hWritten : ∀ name, Written capitalMdns packets name →
      name = "_enody._tcp.local." ∨ name = "lamp._enody._tcp.local." ∨ name = "lamp.local.")
    : OneSpelling capitalMdns packets := by
  intro name other hName hOther hSame
  unfold SameName at hSame
  rcases hWritten name hName with hText | hText | hText <;>
    rcases hWritten other hOther with hText' | hText' | hText' <;> subst hText hText'
  case inl.inl | inr.inl.inr.inl | inr.inr.inr.inr => rfl
  all_goals
    revert hSame
    decide +kernel

theorem oneSpelling_againPacket : OneSpelling capitalMdns [againPacket .lamp] := by
  apply oneSpelling_of_texts
  rintro name ⟨packet, hPacket, record, hMem, hName⟩
  rw [List.mem_singleton.mp hPacket] at hMem
  have hService : dnsNameToString capitalMdns .service = "_enody._tcp.local." := by decide +kernel
  have hLamp : dnsNameToString capitalMdns .lamp = "lamp._enody._tcp.local." := by decide +kernel
  have hHost : dnsNameToString capitalMdns .host = "lamp.local." := by decide +kernel
  simp only [againPacket, List.mem_cons, List.not_mem_nil, or_false] at hMem
  rcases hMem with hSame | hSame | hSame | hSame <;> subst hSame <;>
    simp only [PeerAnswer.names, hService, hLamp, hHost, List.mem_cons, List.not_mem_nil, or_false] at hName
  . rcases hName with hName | hName <;> simp [hName]
  . rcases hName with hName | hName <;> simp [hName]
  . rcases hName with hName | hName <;> simp [hName]
  . simp [hName]

theorem sameDevices_againPacket
    : SameDevices (collectPackets capitalMdns [againPacket .lampCapital])
        (collectPackets capitalMdns [againPacket .lamp]) := by
  have hEq : collectPackets capitalMdns [againPacket .lampCapital]
      = collectPackets capitalMdns [againPacket .lamp] := by
    apply AList.ext
    decide +kernel
  have hKeys : (collectPackets capitalMdns [againPacket .lamp]).keys = ["lamp._enody._tcp.local."] := by
    decide +kernel
  have hCovers : Covers (collectPackets capitalMdns [againPacket .lamp])
      (collectPackets capitalMdns [againPacket .lamp]) := by
    constructor
    . intro name device hDevice
      exact ⟨name, device, hDevice, .refl name, ⟨.refl _, .refl _, rfl, rfl, rfl⟩⟩
    . intro name other hName hOther _
      rw [AList.mem_keys, hKeys, List.mem_singleton] at hName hOther
      rw [hName, hOther]
  rw [hEq]
  exact ⟨hCovers, hCovers⟩

theorem sameDevices_iff_againPacket : ReadsAsDns capitalMdns [againPacket .lampCapital] :=
  ((sameDevices_iff documented_capitalMdns respelled_againPacket).right.right oneSpelling_againPacket).mp
    sameDevices_againPacket

/-
The PTR record alone is respelled: the device is found without its port.
-/
theorem not_sameDevices
    : ¬ ∀ (Name : Type) (mdns : EdgeMdns Name) (packets packets' : List (Packet Name)), mdns.Documented →
        List.Forall₂ (Packet.Respelled mdns) packets packets' →
          SameDevices (collectPackets mdns packets) (collectPackets mdns packets') := by
  intro hAll
  have hSame := hAll CapitalName capitalMdns _ _ documented_capitalMdns
    (respelled_capitalPacket sameName_lamp (.refl (dnsNameToString capitalMdns .lamp))
      (.refl (dnsNameToString capitalMdns .host)))
  have hPort : ((collectPackets capitalMdns [capitalPacket .lamp .lamp .host]).lookup
      "lamp._enody._tcp.local.").map (fun device => device.port) = some (some 8788) := by decide +kernel
  have hKeys : (collectPackets capitalMdns [capitalPacket .lampCapital .lamp .host]).keys
      = ["Lamp._enody._tcp.local."] := by decide +kernel
  have hPort' : ((collectPackets capitalMdns [capitalPacket .lampCapital .lamp .host]).lookup
      "Lamp._enody._tcp.local.").map (fun device => device.port) = some none := by decide +kernel
  rcases Option.map_eq_some_iff.mp hPort with ⟨device, hDevice, hPort⟩
  rcases hSame.forth.found _ device hDevice with ⟨name', device', hDevice', _, hSame⟩
  have hName' : name' ∈ collectPackets capitalMdns [capitalPacket .lampCapital .lamp .host] := by
    rw [← AList.lookup_isSome, hDevice']
    rfl
  rw [AList.mem_keys, hKeys, List.mem_singleton] at hName'
  rw [hName'] at hDevice'
  rw [hDevice', Option.map_some, hSame.port, hPort] at hPort'
  simp at hPort'

end Capital

end Wifi
end Enody
