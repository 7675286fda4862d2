import Enody.Wifi.Lemmas.MdnsRun

/-!
This module contains when the order of mDNS packets does not matter for the devices that discovery finds.
-/

namespace Enody
namespace Wifi

variable {Name : Type} {mdns : EdgeMdns Name} {packets : List (Packet Name)} {packet : Packet Name}
  {name : String}

def PeerAnswer.Agree (mdns : EdgeMdns Name) (record other : PeerAnswer Name) : Prop :=
  dnsNameToString mdns record.owner = dnsNameToString mdns other.owner →
    match record.data, other.data with
    | .a address, .a address' => address = address'
    | .srv target port, .srv target' port' =>
      dnsNameToString mdns target = dnsNameToString mdns target' ∧ port = port'
    | .txt items, .txt items' => items = items'
    | _, _ => True

def RecordsAgree (mdns : EdgeMdns Name) (packets : List (Packet Name)) : Prop :=
  ∀ packet ∈ packets, ∀ other ∈ packets, ∀ record ∈ packet.records, ∀ record' ∈ other.records,
    record.Agree mdns record'

/--
The same packet. Its hash maps may list their keys in another order, if the same instances come out.
-/
structure Packet.Same (mdns : EdgeMdns Name) (packet other : Packet Name) : Prop where
  records : other.records = packet.records
  instances : ∀ name, name ∈ other.instances mdns ↔ name ∈ packet.instances mdns

def Rearranged (mdns : EdgeMdns Name) (packets others : List (Packet Name)) : Prop :=
  ∃ permuted, permuted.Perm packets ∧ List.Forall₂ (Packet.Same mdns) permuted others

/--
The packets commute: in every order they yield the same devices, and on the way no packet takes an address or
a port away.
-/
structure Commute (mdns : EdgeMdns Name) (packets : List (Packet Name)) : Prop where
  devices : ∀ others, Rearranged mdns packets others →
    ∀ name, (collectPackets mdns others).lookup name = (collectPackets mdns packets).lookup name
  keeps : ∀ earlier packet later, Rearranged mdns packets (earlier ++ packet :: later) →
    ∀ name device, (collectPackets mdns earlier).lookup name = some device →
      ∃ device', (collectPackets mdns (earlier ++ [packet])).lookup name = some device'
        ∧ (device.address ≠ none → device'.address ≠ none)
        ∧ (device.port ≠ none → device'.port ≠ none)

/--
When the order does not matter for the device `name`: all packets that supply its port supply the same one.
When a packet with its SRV record has no address of the host, no packet has one. An address of the root, which
is the host of a device without an SRV record, does not come alone.
-/
structure OrderFree (mdns : EdgeMdns Name) (packets : List (Packet Name)) (name : String) : Prop where
  port : Unanimous (Packet.portOf mdns name) packets
  address : ∀ packet ∈ packets, ∀ target port, packet.srvOf mdns name = some (target, port) →
    packet.addressOf mdns target = none → ∀ other ∈ packets, other.addressOf mdns target = none
  hostless : (∀ packet ∈ packets, packet.srvOf mdns name = none) → Known mdns packets name →
    ∀ packet ∈ packets, packet.addressOf mdns "." ≠ none →
      ∃ other ∈ packets, name ∈ other.instances mdns ∧ other.addressOf mdns "." ≠ none
  kept : ∀ packet ∈ packets, ∀ target port, packet.srvOf mdns name = some (target, port) →
    packet.addressOf mdns target = none →
    ∀ other ∈ packets, name ∈ other.instances mdns → other.srvOf mdns name = none →
    ∀ root ∈ packets, root.srvOf mdns name = none → root.addressOf mdns "." = none

section Agreement

theorem PeerAnswer.Agree.srvAt_eq {record other : PeerAnswer Name} (h : record.Agree mdns other)
    {a b : String × UInt16} (hA : record.srvAt mdns name = some a) (hB : other.srvAt mdns name = some b)
    : a = b := by
  rcases record with ⟨owner, _ | _ | ⟨target, port⟩ | _ | _⟩
  case srv =>
    rcases other with ⟨owner', _ | _ | ⟨target', port'⟩ | _ | _⟩
    case srv =>
      simp only [PeerAnswer.srvAt, Option.ite_none_right_eq_some, Option.some.injEq] at hA hB
      rcases h (hA.left.trans hB.left.symm) with ⟨hTarget, hPort⟩
      rw [← hA.right, ← hB.right, hTarget, hPort]
    all_goals contradiction
  all_goals contradiction

theorem PeerAnswer.Agree.txtAt_eq {record other : PeerAnswer Name} (h : record.Agree mdns other)
    {a b : HashMap String} (hA : record.txtAt mdns name = some a) (hB : other.txtAt mdns name = some b)
    : a = b := by
  rcases record with ⟨owner, _ | _ | _ | items | _⟩
  case txt =>
    rcases other with ⟨owner', _ | _ | _ | items' | _⟩
    case txt =>
      simp only [PeerAnswer.txtAt, Option.ite_none_right_eq_some, Option.some.injEq] at hA hB
      have hItems : items = items' := h (hA.left.trans hB.left.symm)
      rw [← hA.right, ← hB.right, hItems]
    all_goals contradiction
  all_goals contradiction

theorem PeerAnswer.Agree.aAt_eq {record other : PeerAnswer Name} (h : record.Agree mdns other)
    {a b : Ipv4Addr} (hA : record.aAt mdns name = some a) (hB : other.aAt mdns name = some b)
    : a = b := by
  rcases record with ⟨owner, address | _ | _ | _ | _⟩
  case a =>
    rcases other with ⟨owner', address' | _ | _ | _ | _⟩
    case a =>
      simp only [PeerAnswer.aAt, Option.ite_none_right_eq_some, Option.some.injEq] at hA hB
      rw [← hA.right, ← hB.right]
      exact h (hA.left.trans hB.left.symm)
    all_goals contradiction
  all_goals contradiction

theorem RecordsAgree.unanimous {V : Type} (supplies : PeerAnswer Name → Option V)
    {lookup : Packet Name → Option V} (hAgree : RecordsAgree mdns packets)
    (hValue : ∀ record record', PeerAnswer.Agree mdns record record' →
      ∀ a b, supplies record = some a → supplies record' = some b → a = b)
    (hLookup : ∀ packet b, lookup packet = some b → latest supplies packet.records = some b)
    : Unanimous lookup packets := by
  intro packet hPacket other hOther a b hA hB
  rcases exists_of_latest (hLookup packet a hA) with ⟨record, hRecord, hA⟩
  rcases exists_of_latest (hLookup other b hB) with ⟨record', hRecord', hB⟩
  exact hValue record record' (hAgree packet hPacket other hOther record hRecord record' hRecord')
    a b hA hB

theorem RecordsAgree.unanimous_srvOf (hAgree : RecordsAgree mdns packets) (name : String)
    : Unanimous (Packet.srvOf mdns name) packets := by
  refine hAgree.unanimous (PeerAnswer.srvAt mdns name) (fun _ _ h _ _ => h.srvAt_eq) ?_
  intro packet srv hSrv
  rw [← Packet.lookup_srvRecords, ← Packet.srvOf_of_mem (Packet.mem_of_srvOf hSrv), hSrv]

theorem RecordsAgree.unanimous_txtOf (hAgree : RecordsAgree mdns packets) (name : String)
    : Unanimous (Packet.txtOf mdns name) packets := by
  refine hAgree.unanimous (PeerAnswer.txtAt mdns name) (fun _ _ h _ _ => h.txtAt_eq) ?_
  intro packet txt hTxt
  rw [← Packet.lookup_txtRecords, ← Packet.txtOf_of_mem (Packet.mem_of_txtOf hTxt), hTxt]

theorem RecordsAgree.unanimous_addressOf (hAgree : RecordsAgree mdns packets) (host : String)
    : Unanimous (Packet.addressOf mdns host) packets := by
  refine hAgree.unanimous (PeerAnswer.aAt mdns host) (fun _ _ h _ _ => h.aAt_eq) ?_
  intro packet address hAddress
  rw [← Packet.lookup_aRecords]
  exact hAddress

end Agreement

section Rearranged

variable {others : List (Packet Name)} {other : Packet Name}

theorem Packet.Same.collected (h : packet.Same mdns other)
    : other.collected mdns = packet.collected mdns := by
  unfold Packet.collected
  rw [h.records]

theorem Packet.Same.srvOf (h : packet.Same mdns other) (name : String)
    : other.srvOf mdns name = packet.srvOf mdns name := by
  unfold Packet.srvOf
  simp only [h.collected, h.instances]

theorem Packet.Same.txtOf (h : packet.Same mdns other) (name : String)
    : other.txtOf mdns name = packet.txtOf mdns name := by
  unfold Packet.txtOf
  simp only [h.collected, h.instances]

theorem Packet.Same.addressOf (h : packet.Same mdns other) (host : String)
    : other.addressOf mdns host = packet.addressOf mdns host := by
  unfold Packet.addressOf
  rw [h.collected]

theorem Packet.Same.portOf (h : packet.Same mdns other) (name : String)
    : other.portOf mdns name = packet.portOf mdns name := by
  unfold Packet.portOf
  rw [h.srvOf, h.txtOf]

theorem Packet.Same.addressUpdate (h : packet.Same mdns other) (name host : String)
    : other.addressUpdate mdns name host = packet.addressUpdate mdns name host := by
  unfold Packet.addressUpdate
  rw [h.srvOf, h.addressOf]

theorem Rearranged.of_perm (h : others.Perm packets) : Rearranged mdns packets others :=
  ⟨others, h, List.forall₂_same.mpr fun _ _ => ⟨rfl, fun _ => .rfl⟩⟩

theorem Packet.same_of_spelledOnce (hSpelled : SpelledOnce (packet.collected mdns))
    (hRecords : other.records = packet.records)
    : packet.Same mdns other := by
  have hCollected : other.collected mdns = packet.collected mdns := by
    unfold Packet.collected
    rw [hRecords]
  refine ⟨hRecords, ?_⟩
  intro name
  unfold Packet.instances
  rw [hCollected, mem_instanceNames hSpelled, mem_instanceNames hSpelled]

theorem Rearranged.of_spelledOnce {permuted : List (Packet Name)} (hPerm : permuted.Perm packets)
    (hRecords : List.Forall₂ (fun packet other => other.records = packet.records) permuted others)
    (hSpelled : ∀ packet ∈ packets, SpelledOnce (packet.collected mdns))
    : Rearranged mdns packets others := by
  refine ⟨permuted, hPerm, ?_⟩
  have hSpelled : ∀ packet ∈ permuted, SpelledOnce (packet.collected mdns) :=
    fun packet hMem => hSpelled packet (hPerm.mem_iff.mp hMem)
  clear hPerm
  induction hRecords with
  | nil => exact .nil
  | cons hPacket _ ih =>
    exact .cons (Packet.same_of_spelledOnce (hSpelled _ List.mem_cons_self) hPacket)
      (ih fun packet hMem => hSpelled packet (List.mem_cons_of_mem _ hMem))

theorem Rearranged.exists_same (h : Rearranged mdns packets others) (hMem : packet ∈ packets)
    : ∃ other ∈ others, packet.Same mdns other := by
  rcases h with ⟨permuted, hPerm, hSame⟩
  exact exists_of_forall₂_left hSame (hPerm.mem_iff.mpr hMem)

theorem Rearranged.exists_of_mem (h : Rearranged mdns packets others) (hMem : other ∈ others)
    : ∃ packet ∈ packets, packet.Same mdns other := by
  rcases h with ⟨permuted, hPerm, hSame⟩
  rcases exists_of_forall₂_left hSame.flip hMem with ⟨packet, hPacket, hSame⟩
  exact ⟨packet, hPerm.mem_iff.mp hPacket, hSame⟩

theorem Rearranged.known_iff (h : Rearranged mdns packets others)
    : Known mdns others name ↔ Known mdns packets name := by
  constructor
  . rintro ⟨other, hMem, hName⟩
    rcases h.exists_of_mem hMem with ⟨packet, hPacket, hSame⟩
    exact ⟨packet, hPacket, (hSame.instances name).mp hName⟩
  . rintro ⟨packet, hMem, hName⟩
    rcases h.exists_same hMem with ⟨other, hOther, hSame⟩
    exact ⟨other, hOther, (hSame.instances name).mpr hName⟩

theorem Rearranged.latest_eq {V : Type} {f : Packet Name → Option V}
    (h : Rearranged mdns packets others) (hUnanimous : Unanimous f packets)
    (hSame : ∀ packet other, Packet.Same mdns packet other → f other = f packet)
    : latest f others = latest f packets := by
  apply latest_eq_of_supplies hUnanimous
  . intro packet hMem b hValue
    rcases h.exists_same hMem with ⟨other, hOther, hPacket⟩
    exact ⟨other, hOther, (hSame packet other hPacket).trans hValue⟩
  . intro other hMem b hValue
    rcases h.exists_of_mem hMem with ⟨packet, hPacket, hOther⟩
    exact ⟨packet, hPacket, (hSame packet other hOther).symm.trans hValue⟩

theorem Rearranged.unanimous {V : Type} {f : Packet Name → Option V}
    (h : Rearranged mdns packets others) (hUnanimous : Unanimous f packets)
    (hSame : ∀ packet other, Packet.Same mdns packet other → f other = f packet)
    : Unanimous f others := by
  apply hUnanimous.of_supplies
  intro other hMem b hValue
  rcases h.exists_of_mem hMem with ⟨packet, hPacket, hOther⟩
  exact ⟨packet, hPacket, (hSame packet other hOther).symm.trans hValue⟩

end Rearranged

section Sufficient

variable {others : List (Packet Name)}

theorem mem_fromFirst (hMem : packet ∈ packets) (hName : name ∈ packet.instances mdns)
    : packet ∈ fromFirst mdns packets name := by
  have hSplit := List.takeWhile_append_dropWhile
    (p := fun packet => decide (name ∉ packet.instances mdns)) (l := packets)
  rw [← hSplit] at hMem
  rcases List.mem_append.mp hMem with hMem | hMem
  . have hNot := List.mem_takeWhile_imp hMem
    exact absurd hName (of_decide_eq_true hNot)
  . exact hMem

theorem mem_of_mem_fromFirst (hMem : packet ∈ fromFirst mdns packets name) : packet ∈ packets :=
  (List.dropWhile_suffix _).mem hMem

theorem address_of_root {address : Ipv4Addr} (hSrv : ∀ packet ∈ packets, packet.srvOf mdns name = none)
    (hUnanimous : Unanimous (Packet.addressOf mdns ".") packets) (hMem : packet ∈ packets)
    (hName : name ∈ packet.instances mdns) (hAddress : packet.addressOf mdns "." = some address)
    : (entryAfter mdns packets name).address = some address := by
  rw [address_of_no_srv hSrv]
  apply latest_of_mem _ (mem_fromFirst hMem hName) hAddress
  intro x hX y hY
  exact hUnanimous x (mem_of_mem_fromFirst hX) y (mem_of_mem_fromFirst hY)

theorem address_of_no_root (hSrv : ∀ packet ∈ packets, packet.srvOf mdns name = none)
    (hRoot : ∀ packet ∈ fromFirst mdns packets name, packet.addressOf mdns "." = none)
    : (entryAfter mdns packets name).address = none := by
  rw [address_of_no_srv hSrv]
  exact latest_eq_none_iff.mpr hRoot

theorem OrderFree.unanimous_addressUpdate (hFree : OrderFree mdns packets name)
    (hAgree : RecordsAgree mdns packets) (hMem : packet ∈ packets) {target : String} {port : UInt16}
    (hSrv : packet.srvOf mdns name = some (target, port))
    : Unanimous (Packet.addressUpdate mdns name target) packets := by
  have hTaken : ∀ other ∈ packets, other.addressUpdate mdns name target = some none →
      ∀ third ∈ packets, third.addressOf mdns target = none := by
    intro other hOther hNone
    cases hSome : other.srvOf mdns name with
    | none =>
      simp [Packet.addressUpdate_of_no_srv hSome] at hNone
    | some srv =>
      rw [Packet.addressUpdate_of_srv hSome] at hNone
      injection hNone with hNone
      rw [hAgree.unanimous_srvOf name other hOther packet hMem _ _ hSome hSrv] at hSome
      exact hFree.address other hOther target port hSome hNone
  intro x hX y hY a b hA hB
  cases a with
  | none =>
    cases b with
    | none => rfl
    | some address =>
      have hNone := hTaken x hX hA y hY
      rw [Packet.addressOf_of_update hB] at hNone
      contradiction
  | some address =>
    have hAddress := Packet.addressOf_of_update hA
    cases b with
    | none =>
      rw [hTaken y hY hB x hX] at hAddress
      contradiction
    | some address' =>
      have hSame := hAgree.unanimous_addressOf target x hX y hY _ _ hAddress
        (Packet.addressOf_of_update hB)
      rw [hSame]

theorem forall_srvOf_eq_none (hSrv : ¬ ∃ packet ∈ packets, packet.srvOf mdns name ≠ none)
    : ∀ packet ∈ packets, packet.srvOf mdns name = none := by
  intro packet hMem
  by_contra hSome
  exact hSrv ⟨packet, hMem, hSome⟩

theorem OrderFree.address_eq_of_srv (hFree : OrderFree mdns packets name) (hMdns : mdns.Documented)
    (hAgree : RecordsAgree mdns packets) (h : Rearranged mdns packets others)
    (hMem : packet ∈ packets) (hSome : packet.srvOf mdns name ≠ none)
    : (entryAfter mdns others name).address = (entryAfter mdns packets name).address := by
  rcases Option.ne_none_iff_exists'.mp hSome with ⟨⟨target, port⟩, hSrv⟩
  rcases h.exists_same hMem with ⟨other, hOther, hSame⟩
  have hSrvs := hAgree.unanimous_srvOf name
  have hSrvs' := h.unanimous hSrvs fun _ _ hSame => hSame.srvOf name
  have hAbsolute := Packet.absolute_of_srvOf hMdns hSrv
  have hSrv' := (hSame.srvOf name).trans hSrv
  rw [address_of_srv hAbsolute _ ⟨packet, hMem, hSome⟩,
    address_of_srv hAbsolute _ ⟨other, hOther, (hSame.srvOf name).symm ▸ hSome⟩,
    h.latest_eq (hFree.unanimous_addressUpdate hAgree hMem hSrv)
      (fun _ _ hSame => hSame.addressUpdate name target)]
  . intro third hThird srv hValue
    exact congrArg Prod.fst (hSrvs' third hThird other hOther _ _ hValue hSrv')
  . intro third hThird srv hValue
    exact congrArg Prod.fst (hSrvs third hThird packet hMem _ _ hValue hSrv)

theorem OrderFree.address_eq_of_no_srv (hFree : OrderFree mdns packets name)
    (hAgree : RecordsAgree mdns packets) (h : Rearranged mdns packets others)
    (hKnown : Known mdns packets name) (hNoSrv : ∀ packet ∈ packets, packet.srvOf mdns name = none)
    : (entryAfter mdns others name).address = (entryAfter mdns packets name).address := by
  have hNoSrv' : ∀ other ∈ others, other.srvOf mdns name = none := by
    intro other hMem
    rcases h.exists_of_mem hMem with ⟨packet, hPacket, hSame⟩
    rw [hSame.srvOf]
    exact hNoSrv packet hPacket
  by_cases hRoot : ∃ packet ∈ packets, packet.addressOf mdns "." ≠ none
  . rcases hRoot with ⟨root, hMem, hRoot⟩
    rcases hFree.hostless hNoSrv hKnown root hMem hRoot with ⟨packet, hPacket, hName, hSome⟩
    rcases Option.ne_none_iff_exists'.mp hSome with ⟨address, hAddress⟩
    rcases h.exists_same hPacket with ⟨other, hOther, hSame⟩
    have hRoots := hAgree.unanimous_addressOf "."
    rw [address_of_root hNoSrv hRoots hPacket hName hAddress]
    exact address_of_root hNoSrv' (h.unanimous hRoots fun _ _ hSame => hSame.addressOf ".") hOther
      ((hSame.instances name).mpr hName) ((hSame.addressOf ".").trans hAddress)
  . have hNoRoot : ∀ packet ∈ packets, packet.addressOf mdns "." = none := by
      intro packet hMem
      by_contra hSome
      exact hRoot ⟨packet, hMem, hSome⟩
    rw [address_of_no_root hNoSrv fun packet hMem => hNoRoot packet (mem_of_mem_fromFirst hMem)]
    apply address_of_no_root hNoSrv'
    intro other hMem
    rcases h.exists_of_mem (mem_of_mem_fromFirst hMem) with ⟨packet, hPacket, hSame⟩
    rw [hSame.addressOf]
    exact hNoRoot packet hPacket

theorem OrderFree.entryAfter_eq (hFree : OrderFree mdns packets name) (hMdns : mdns.Documented)
    (hAgree : RecordsAgree mdns packets) (h : Rearranged mdns packets others)
    : entryAfter mdns others name = entryAfter mdns packets name := by
  have hParts := latestParts_entryAfter mdns packets name
  have hOthers := latestParts_entryAfter mdns others name
  by_cases hKnown : Known mdns packets name
  . apply MdnsDevice.ext_parts
    . rw [hParts.instanceName, hOthers.instanceName]
    . rw [hParts.host, hOthers.host,
        h.latest_eq (hAgree.unanimous_srvOf name) fun _ _ hSame => hSame.srvOf name]
    . by_cases hSrv : ∃ packet ∈ packets, packet.srvOf mdns name ≠ none
      . rcases hSrv with ⟨packet, hMem, hSome⟩
        exact hFree.address_eq_of_srv hMdns hAgree h hMem hSome
      . exact hFree.address_eq_of_no_srv hAgree h hKnown (forall_srvOf_eq_none hSrv)
    . rw [hParts.port, hOthers.port, h.latest_eq hFree.port fun _ _ hSame => hSame.portOf name]
    . rw [hParts.txtFields, hOthers.txtFields,
        h.latest_eq (hAgree.unanimous_txtOf name) fun _ _ hSame => hSame.txtOf name]
  . rw [entryAfter_of_not_known hKnown,
      entryAfter_of_not_known fun hOthers => hKnown (h.known_iff.mp hOthers)]

theorem OrderFree.lookup_eq (hFree : OrderFree mdns packets name) (hMdns : mdns.Documented)
    (hAgree : RecordsAgree mdns packets) (h : Rearranged mdns packets others)
    : (collectPackets mdns others).lookup name = (collectPackets mdns packets).lookup name := by
  by_cases hKnown : Known mdns packets name
  . rw [lookup_of_known hKnown, lookup_of_known (h.known_iff.mpr hKnown),
      hFree.entryAfter_eq hMdns hAgree h]
  . rw [lookup_eq_none_iff.mpr hKnown,
      lookup_eq_none_iff.mpr fun hOthers => hKnown (h.known_iff.mp hOthers)]

theorem Known.concat (hKnown : Known mdns packets name) : Known mdns (packets ++ [packet]) name := by
  rcases hKnown with ⟨other, hMem, hName⟩
  exact ⟨other, List.mem_append_left _ hMem, hName⟩

theorem port_concat (hPort : (entryAfter mdns packets name).port ≠ none)
    : (entryAfter mdns (packets ++ [packet]) name).port ≠ none := by
  rw [(latestParts_entryAfter mdns (packets ++ [packet]) name).port, latest_concat]
  rw [(latestParts_entryAfter mdns packets name).port] at hPort
  cases packet.portOf mdns name with
  | none => exact hPort
  | some port => simp

theorem OrderFree.address_concat {earlier later : List (Packet Name)} (hFree : OrderFree mdns packets name)
    (hMdns : mdns.Documented) (hAgree : RecordsAgree mdns packets)
    (h : Rearranged mdns packets (earlier ++ packet :: later)) (hKnown : Known mdns earlier name)
    (hAddress : (entryAfter mdns earlier name).address ≠ none)
    : (entryAfter mdns (earlier ++ [packet]) name).address ≠ none := by
  have hPacket : packet ∈ earlier ++ packet :: later := by simp
  have hEarlier : ∀ other ∈ earlier, other ∈ earlier ++ packet :: later := by
    intro other hMem
    exact List.mem_append_left _ hMem
  cases hSrv : packet.srvOf mdns name with
  | none =>
    rw [address_concat_of_no_srv rfl hSrv hKnown.concat]
    intro hNone
    exact hAddress (Option.or_eq_none_iff.mp hNone).right
  | some srv =>
    rcases srv with ⟨target, port⟩
    have hAbsolute := Packet.absolute_of_srvOf hMdns hSrv
    rw [address_concat_of_srv _ hAbsolute hSrv]
    intro hNone
    rcases h.exists_of_mem hPacket with ⟨original, hOriginal, hSame⟩
    have hSrv' := (hSame.srvOf name).symm.trans hSrv
    have hNone' := (hSame.addressOf target).symm.trans hNone
    by_cases hBefore : ∃ other ∈ earlier, other.srvOf mdns name ≠ none
    . rw [address_of_srv hAbsolute _ hBefore] at hAddress
      . rcases Option.ne_none_iff_exists'.mp hAddress with ⟨address, hJoin⟩
        rcases exists_of_latest (Option.join_eq_some_iff.mp hJoin) with ⟨other, hMem, hUpdate⟩
        rcases h.exists_of_mem (hEarlier other hMem) with ⟨third, hThird, hSame⟩
        have hOther := Packet.addressOf_of_update hUpdate
        rw [hSame.addressOf, hFree.address original hOriginal target port hSrv' hNone' third hThird]
          at hOther
        contradiction
      . have hSrvs := h.unanimous (hAgree.unanimous_srvOf name) fun _ _ hSame => hSame.srvOf name
        intro third hThird srv hValue
        exact congrArg Prod.fst (hSrvs third (hEarlier third hThird) packet hPacket _ _ hValue hSrv)
    . have hNoSrv := forall_srvOf_eq_none hBefore
      rw [address_of_no_srv hNoSrv] at hAddress
      rcases Option.ne_none_iff_exists'.mp hAddress with ⟨address, hLatest⟩
      rcases exists_of_latest hLatest with ⟨root, hRoot, hValue⟩
      have hRoot := mem_of_mem_fromFirst hRoot
      rcases hKnown with ⟨other, hMem, hName⟩
      rcases h.exists_of_mem (hEarlier root hRoot) with ⟨root', hRoot', hSameRoot⟩
      rcases h.exists_of_mem (hEarlier other hMem) with ⟨other', hOther', hSameOther⟩
      have hNoRoot := hFree.kept original hOriginal target port hSrv' hNone' other' hOther'
        ((hSameOther.instances name).mp hName)
        ((hSameOther.srvOf name).symm.trans (hNoSrv other hMem)) root' hRoot'
        ((hSameRoot.srvOf name).symm.trans (hNoSrv root hRoot))
      rw [hSameRoot.addressOf, hNoRoot] at hValue
      contradiction

theorem commute_of_orderFree (hMdns : mdns.Documented) (hAgree : RecordsAgree mdns packets)
    (hFree : ∀ name, OrderFree mdns packets name)
    : Commute mdns packets := by
  constructor
  . intro others h name
    exact (hFree name).lookup_eq hMdns hAgree h
  . intro earlier packet later h name device hDevice
    have hKnown : Known mdns earlier name := by
      by_contra hKnown
      rw [lookup_eq_none_iff.mpr hKnown] at hDevice
      contradiction
    rw [lookup_of_known hKnown] at hDevice
    injection hDevice with hDevice
    refine ⟨_, lookup_of_known hKnown.concat, ?_⟩
    rw [← hDevice]
    exact ⟨(hFree name).address_concat hMdns hAgree h hKnown, port_concat⟩

end Sufficient

section Necessary

theorem Commute.entryAfter_eq (hCommute : Commute mdns packets) {others : List (Packet Name)}
    (hPerm : others.Perm packets)
    : entryAfter mdns others name = entryAfter mdns packets name := by
  unfold entryAfter
  rw [hCommute.devices others (.of_perm hPerm)]

theorem Commute.unanimous_portOf (hCommute : Commute mdns packets)
    : Unanimous (Packet.portOf mdns name) packets := by
  apply unanimous_of_perm
  intro others hPerm
  rw [← (latestParts_entryAfter mdns others name).port, ← (latestParts_entryAfter mdns packets name).port,
    hCommute.entryAfter_eq hPerm]

theorem Commute.addressOf_eq_none (hCommute : Commute mdns packets) (hMdns : mdns.Documented)
    (hAgree : RecordsAgree mdns packets) {target : String} {port : UInt16} (hMem : packet ∈ packets)
    (hSrv : packet.srvOf mdns name = some (target, port)) (hNone : packet.addressOf mdns target = none)
    {other : Packet Name} (hOther : other ∈ packets)
    : other.addressOf mdns target = none := by
  by_contra hSome
  have hAbsolute := Packet.absolute_of_srvOf hMdns hSrv
  rcases exists_perm_concat hMem with ⟨first, hFirst⟩
  rcases exists_perm_concat hOther with ⟨second, hSecond⟩
  have hTaken := address_concat_of_srv first hAbsolute hSrv
  rw [hCommute.entryAfter_eq hFirst, ← hCommute.entryAfter_eq hSecond, hNone,
    address_of_srv hAbsolute _ ⟨packet, hSecond.mem_iff.mpr hMem, by simp [hSrv]⟩, latest_concat]
    at hTaken
  . rcases Option.ne_none_iff_exists'.mp hSome with ⟨address, hAddress⟩
    unfold Packet.addressUpdate at hTaken
    rw [hAddress] at hTaken
    contradiction
  . intro third hThird srv hValue
    exact congrArg Prod.fst
      (hAgree.unanimous_srvOf name third (hSecond.mem_iff.mp hThird) packet hMem _ _ hValue hSrv)

theorem Commute.hostless (hCommute : Commute mdns packets)
    (hNoSrv : ∀ packet ∈ packets, packet.srvOf mdns name = none) (hKnown : Known mdns packets name)
    (hMem : packet ∈ packets) (hRoot : packet.addressOf mdns "." ≠ none)
    : ∃ other ∈ packets, name ∈ other.instances mdns ∧ other.addressOf mdns "." ≠ none := by
  by_contra hNone
  have hNoRoot : ∀ other ∈ packets, name ∈ other.instances mdns → other.addressOf mdns "." = none := by
    intro other hOther hName
    by_contra hSome
    exact hNone ⟨other, hOther, hName, hSome⟩
  have hFirst := List.filter_append_perm (fun other => decide (name ∉ other.instances mdns)) packets
  rcases exists_perm_concat hMem with ⟨second, hSecond⟩
  have hUnnamed : ¬ Known mdns (packets.filter fun other => decide (name ∉ other.instances mdns)) name := by
    rintro ⟨other, hOther, hName⟩
    exact of_decide_eq_true (List.mem_filter.mp hOther).right hName
  have hBefore : (entryAfter mdns packets name).address = none := by
    rw [← hCommute.entryAfter_eq hFirst]
    apply address_of_no_root fun other hOther => hNoSrv other (hFirst.mem_iff.mp hOther)
    rw [fromFirst_append_of_not_known hUnnamed]
    intro other hOther
    have hOther := List.mem_filter.mp (mem_of_mem_fromFirst hOther)
    exact hNoRoot other hOther.left (by simpa using hOther.right)
  have hKnown' : Known mdns (second ++ [packet]) name := by
    rcases hKnown with ⟨other, hOther, hName⟩
    exact ⟨other, hSecond.mem_iff.mpr hOther, hName⟩
  rw [← hCommute.entryAfter_eq hSecond,
    address_of_no_srv fun other hOther => hNoSrv other (hSecond.mem_iff.mp hOther),
    fromFirst_concat hKnown', latest_concat] at hBefore
  exact hRoot (Option.or_eq_none_iff.mp hBefore).left

theorem Commute.kept (hCommute : Commute mdns packets) (hMdns : mdns.Documented) {target : String}
    {port : UInt16} (hMem : packet ∈ packets) (hSrv : packet.srvOf mdns name = some (target, port))
    (hNone : packet.addressOf mdns target = none) {other : Packet Name} (hOther : other ∈ packets)
    (hName : name ∈ other.instances mdns) (hOtherSrv : other.srvOf mdns name = none)
    {root : Packet Name} (hRoot : root ∈ packets) (hRootSrv : root.srvOf mdns name = none)
    : root.addressOf mdns "." = none := by
  by_contra hSome
  let without := packets.filter fun other => (other.srvOf mdns name).isNone
  let rest := packets.filter fun other => !(other.srvOf mdns name).isNone
  have hSplit : (without ++ rest).Perm packets := List.filter_append_perm _ packets
  have hWithout {other : Packet Name} (hOther : other ∈ packets) (hOtherSrv : other.srvOf mdns name = none)
      : other ∈ without := List.mem_filter.mpr ⟨hOther, by rw [hOtherSrv]; rfl⟩
  have hRest : packet ∈ rest := List.mem_filter.mpr ⟨hMem, by rw [hSrv]; rfl⟩
  rcases exists_perm_concat (hWithout hRoot hRootSrv) with ⟨first, hFirst⟩
  rcases List.append_of_mem hRest with ⟨before, after, hAround⟩
  have hRearranged : (first ++ [root] ++ packet :: (before ++ after)).Perm packets := by
    apply (List.Perm.append hFirst _).trans hSplit
    rw [hAround]
    exact List.perm_middle.symm
  have hKnown : Known mdns (first ++ [root]) name :=
    ⟨other, hFirst.mem_iff.mpr (hWithout hOther hOtherSrv), hName⟩
  have hNoSrv : ∀ other ∈ first ++ [root], other.srvOf mdns name = none := by
    intro other hMem
    have hIsNone := (List.mem_filter.mp (hFirst.mem_iff.mp hMem)).right
    exact Option.isNone_iff_eq_none.mp hIsNone
  rcases hCommute.keeps _ _ _ (.of_perm hRearranged) name _ (lookup_of_known hKnown)
    with ⟨device, hDevice, hKeeps, _⟩
  rw [lookup_of_known hKnown.concat] at hDevice
  injection hDevice with hDevice
  rw [← hDevice, address_concat_of_srv _ (Packet.absolute_of_srvOf hMdns hSrv) hSrv] at hKeeps
  refine hKeeps ?_ hNone
  rw [address_of_no_srv hNoSrv, fromFirst_concat hKnown, latest_concat]
  intro hBoth
  exact hSome (Option.or_eq_none_iff.mp hBoth).left

end Necessary

/--
The packets commute exactly when their order does not matter for any device.
-/
theorem commute_iff (hMdns : mdns.Documented) (hAgree : RecordsAgree mdns packets)
    : Commute mdns packets ↔ ∀ name, OrderFree mdns packets name := by
  constructor
  . intro hCommute name
    constructor
    . exact hCommute.unanimous_portOf
    . intro packet hMem target port hSrv hNone other hOther
      exact hCommute.addressOf_eq_none hMdns hAgree hMem hSrv hNone hOther
    . intro hNoSrv hKnown packet hMem hRoot
      exact hCommute.hostless hNoSrv hKnown hMem hRoot
    . intro packet hMem target port hSrv hNone other hOther hName hOtherSrv root hRoot hRootSrv
      exact hCommute.kept hMdns hMem hSrv hNone hOther hName hOtherSrv hRoot hRootSrv
  . exact commute_of_orderFree hMdns hAgree

section Lamp

inductive LampName where
  | service
  | lamp
  | host

def lampText : LampName → String
  | .service => "_enody._tcp.local"
  | .lamp => "lamp._enody._tcp.local"
  | .host => "lamp.local"

def lampMdns : EdgeMdns LampName := .ofText lampText

theorem documented_lampMdns : lampMdns.Documented := by
  apply EdgeMdns.documented_ofText
  intro name
  cases name <;> decide +kernel

def lampPtr : PeerAnswer LampName := ⟨.service, .ptr .lamp⟩
def lampSrv : PeerAnswer LampName := ⟨.lamp, .srv .host 8788⟩
def lampA : PeerAnswer LampName := ⟨.host, .a ⟨192, 168, 1, 20⟩⟩

def lampComplete : Packet LampName := ⟨[lampPtr, lampSrv, lampA], .asListed⟩
def lampPointer : Packet LampName := ⟨[lampPtr], .asListed⟩
def lampShort : Packet LampName := ⟨[lampPtr, lampSrv], .asListed⟩

theorem recordsAgree_lamp {packets : List (Packet LampName)}
    (hRecords : ∀ packet ∈ packets, ∀ record ∈ packet.records, record ∈ [lampPtr, lampSrv, lampA])
    : RecordsAgree lampMdns packets := by
  intro packet hPacket other hOther record hRecord record' hRecord'
  have hRecord := hRecords packet hPacket record hRecord
  have hRecord' := hRecords other hOther record' hRecord'
  simp only [List.mem_cons, List.not_mem_nil, or_false] at hRecord hRecord'
  rcases hRecord with hSame | hSame | hSame <;> rcases hRecord' with hSame' | hSame' | hSame'
  all_goals
    subst hSame hSame'
    intro _
    first | exact trivial | exact ⟨rfl, rfl⟩ | rfl

theorem recordsAgree_lampPointer : RecordsAgree lampMdns [lampComplete, lampPointer] := by
  apply recordsAgree_lamp
  simp [lampComplete, lampPointer]

theorem recordsAgree_lampShort : RecordsAgree lampMdns [lampComplete, lampShort] := by
  apply recordsAgree_lamp
  simp [lampComplete, lampShort]

theorem instances_lampComplete : lampComplete.instances lampMdns = ["lamp._enody._tcp.local."] := by
  decide +kernel

theorem addressOf_of_srvOf_lampComplete {name target : String} {port : UInt16}
    (hSrv : lampComplete.srvOf lampMdns name = some (target, port))
    : lampComplete.addressOf lampMdns target ≠ none := by
  have hName := Packet.mem_of_srvOf hSrv
  rw [Packet.srvOf_of_mem hName] at hSrv
  rw [instances_lampComplete, List.mem_singleton] at hName
  subst hName
  have hLookup : (lampComplete.collected lampMdns).srvRecords.lookup "lamp._enody._tcp.local."
      = some ("lamp.local.", 8788) := by decide +kernel
  rw [hLookup] at hSrv
  injection hSrv with hSrv
  injection hSrv with hTarget _
  rw [← hTarget]
  decide +kernel

theorem srvOf_lampPointer (name : String) : lampPointer.srvOf lampMdns name = none := by
  unfold Packet.srvOf
  split <;> rfl

theorem portOf_lampPointer (name : String) : lampPointer.portOf lampMdns name = none := by
  have hTxt : lampPointer.txtOf lampMdns name = none := by
    unfold Packet.txtOf
    split <;> rfl
  unfold Packet.portOf
  rw [srvOf_lampPointer, hTxt]
  rfl

theorem orderFree_lamp (name : String) : OrderFree lampMdns [lampComplete, lampPointer] name := by
  have hAddress {packet : Packet LampName} {target : String} {port : UInt16}
      (hMem : packet ∈ [lampComplete, lampPointer])
      (hSrv : packet.srvOf lampMdns name = some (target, port))
      : packet.addressOf lampMdns target ≠ none := by
    simp only [List.mem_cons, List.not_mem_nil, or_false] at hMem
    rcases hMem with hSame | hSame <;> subst hSame
    . exact addressOf_of_srvOf_lampComplete hSrv
    . rw [srvOf_lampPointer] at hSrv
      contradiction
  constructor
  . intro packet hPacket other hOther a b hA hB
    simp only [List.mem_cons, List.not_mem_nil, or_false] at hPacket hOther
    rcases hPacket with hSame | hSame <;> rcases hOther with hSame' | hSame' <;> subst hSame hSame'
    . rw [hA] at hB
      injection hB
    all_goals
      rw [portOf_lampPointer] at *
      contradiction
  . intro packet hMem target port hSrv hNone
    exact absurd hNone (hAddress hMem hSrv)
  . intro _ _ packet hMem hRoot
    simp only [List.mem_cons, List.not_mem_nil, or_false] at hMem
    rcases hMem with hSame | hSame <;> subst hSame
    . exact absurd (by decide +kernel) hRoot
    . exact absurd rfl hRoot
  . intro packet hMem target port hSrv hNone
    exact absurd hNone (hAddress hMem hSrv)

theorem commute_lamp : Commute lampMdns [lampComplete, lampPointer] :=
  (commute_iff documented_lampMdns recordsAgree_lampPointer).mpr orderFree_lamp

/-
The answer without the address takes the address away when it comes last.
-/
theorem not_commute
    : ¬ ∀ (Name : Type) (mdns : EdgeMdns Name) (packets : List (Packet Name)), mdns.Documented →
        RecordsAgree mdns packets → Commute mdns packets := by
  intro hAll
  have hCommute := hAll _ _ _ documented_lampMdns recordsAgree_lampShort
  have hSame := hCommute.devices [lampShort, lampComplete] (.of_perm (.swap _ _ _))
    "lamp._enody._tcp.local."
  revert hSame
  decide +kernel

end Lamp

end Wifi
end Enody
