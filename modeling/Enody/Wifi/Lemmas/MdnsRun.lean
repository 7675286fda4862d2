import Enody.Wifi.Lemmas.Mdns

/-!
This module contains the device of one name after any mDNS packets: each of its parts is the latest one that
was supplied.
-/

namespace Enody
namespace Wifi

variable {Name : Type} {mdns : EdgeMdns Name} {packets : List (Packet Name)} {packet : Packet Name}
  {name : String}

theorem collectPackets_concat
    : collectPackets mdns (packets ++ [packet]) = packet.collect mdns (collectPackets mdns packets) := by
  unfold collectPackets
  rw [List.foldl_append]
  rfl

def Known (mdns : EdgeMdns Name) (packets : List (Packet Name)) (name : String) : Prop :=
  ∃ packet ∈ packets, name ∈ packet.instances mdns

theorem lookup_eq_none_iff
    : (collectPackets mdns packets).lookup name = none ↔ ¬ Known mdns packets name := by
  unfold Known
  induction packets using List.reverseRecOn with
  | nil => simp [collectPackets]
  | append_singleton packets packet ih =>
    rw [collectPackets_concat]
    by_cases hName : name ∈ packet.instances mdns
    . rw [Packet.lookup_collect_of_mem hName]
      simp [hName]
    . rw [Packet.lookup_collect_of_notMem hName, Option.map_eq_none_iff, ih]
      simp [or_and_right, exists_or, hName]

def entryAfter (mdns : EdgeMdns Name) (packets : List (Packet Name)) (name : String) : MdnsDevice :=
  ((collectPackets mdns packets).lookup name).getD (MdnsDevice.fresh name)

theorem lookup_of_known (hKnown : Known mdns packets name)
    : (collectPackets mdns packets).lookup name = some (entryAfter mdns packets name) := by
  unfold entryAfter
  cases hLookup : (collectPackets mdns packets).lookup name with
  | none => exact absurd hKnown (lookup_eq_none_iff.mp hLookup)
  | some device => rfl

theorem entryAfter_of_not_known (hKnown : ¬ Known mdns packets name)
    : entryAfter mdns packets name = MdnsDevice.fresh name := by
  unfold entryAfter
  rw [lookup_eq_none_iff.mpr hKnown, Option.getD_none]

theorem entryAfter_concat_of_mem (hName : name ∈ packet.instances mdns)
    : entryAfter mdns (packets ++ [packet]) name
        = collectAddress (packet.collected mdns)
            (updateEntry mdns.parseIdentifier (packet.collected mdns) name
              (entryAfter mdns packets name)) := by
  unfold entryAfter
  rw [collectPackets_concat, Packet.lookup_collect_of_mem hName, Option.getD_some]

theorem entryAfter_concat_of_known (hName : name ∉ packet.instances mdns)
    (hKnown : Known mdns packets name)
    : entryAfter mdns (packets ++ [packet]) name
        = collectAddress (packet.collected mdns) (entryAfter mdns packets name) := by
  conv => lhs; unfold entryAfter
  rw [collectPackets_concat, Packet.lookup_collect_of_notMem hName, lookup_of_known hKnown]
  rfl

theorem entryAfter_concat_of_not_known (hName : name ∉ packet.instances mdns)
    (hKnown : ¬ Known mdns packets name)
    : entryAfter mdns (packets ++ [packet]) name = entryAfter mdns packets name := by
  unfold entryAfter
  rw [collectPackets_concat, Packet.lookup_collect_of_notMem hName, lookup_eq_none_iff.mpr hKnown]
  rfl

section Parts

/--
The parts of a device that do not depend on the other packets, each as the latest one that was supplied.
-/
structure LatestParts (mdns : EdgeMdns Name) (packets : List (Packet Name)) (name : String)
    (entry : MdnsDevice) : Prop where
  instanceName : entry.instance = name
  host : entry.host
    = ((latest (Packet.srvOf mdns name) packets).map fun srv => trimEndMatches srv.1 '.').getD ""
  port : entry.port = latest (Packet.portOf mdns name) packets
  txtFields : entry.txtFields
    = ((latest (Packet.txtOf mdns name) packets).map (TxtFields.ofTxt mdns.parseIdentifier)).getD
        (MdnsDevice.fresh name).txtFields

theorem LatestParts.collectAddress {entry : MdnsDevice} {records : MdnsRecords}
    (h : LatestParts mdns packets name entry)
    : LatestParts mdns packets name (collectAddress records entry) := by
  rw [collectAddress_eq]
  exact ⟨h.instanceName, h.host, h.port, h.txtFields⟩

theorem latestParts_entryAfter (mdns : EdgeMdns Name) (packets : List (Packet Name)) (name : String)
    : LatestParts mdns packets name (entryAfter mdns packets name) := by
  induction packets using List.reverseRecOn with
  | nil => exact ⟨rfl, rfl, rfl, rfl⟩
  | append_singleton packets packet ih =>
    by_cases hName : name ∈ packet.instances mdns
    . rw [entryAfter_concat_of_mem hName]
      apply LatestParts.collectAddress
      constructor
      . rw [updateEntry_instance, ih.instanceName]
      . rw [updateEntry_host, ih.host, latest_concat, Packet.srvOf_of_mem hName]
        cases (packet.collected mdns).srvRecords.lookup name <;> rfl
      . rw [updateEntry_port, ih.port, latest_concat]
        unfold Packet.portOf
        rw [Packet.srvOf_of_mem hName, Packet.txtOf_of_mem hName]
      . rw [updateEntry_txtFields, ih.txtFields, latest_concat, Packet.txtOf_of_mem hName]
        cases (packet.collected mdns).txtRecords.lookup name <;> rfl
    . have hParts : LatestParts mdns (packets ++ [packet]) name (entryAfter mdns packets name) := by
        constructor
        . exact ih.instanceName
        . rw [latest_concat, Packet.srvOf_of_notMem hName]
          exact ih.host
        . rw [latest_concat, Packet.portOf_of_notMem hName]
          exact ih.port
        . rw [latest_concat, Packet.txtOf_of_notMem hName]
          exact ih.txtFields
      by_cases hKnown : Known mdns packets name
      . rw [entryAfter_concat_of_known hName hKnown]
        exact hParts.collectAddress
      . rw [entryAfter_concat_of_not_known hName hKnown]
        exact hParts

end Parts

section Address

/-
`none` when the packet has no say, `some none` when it takes the address away.
-/
def Packet.addressUpdate (mdns : EdgeMdns Name) (name host : String) (packet : Packet Name)
    : Option (Option Ipv4Addr) :=
  match packet.addressOf mdns host with
  | some address => some (some address)
  | none => if (packet.srvOf mdns name).isSome then some none else none

theorem Packet.addressUpdate_of_srv {srv : String × UInt16} (hSrv : packet.srvOf mdns name = some srv)
    (host : String)
    : packet.addressUpdate mdns name host = some (packet.addressOf mdns host) := by
  unfold addressUpdate
  rw [hSrv]
  cases packet.addressOf mdns host <;> rfl

theorem Packet.addressUpdate_of_no_srv (hSrv : packet.srvOf mdns name = none) (host : String)
    : packet.addressUpdate mdns name host = (packet.addressOf mdns host).map some := by
  unfold addressUpdate
  rw [hSrv]
  cases packet.addressOf mdns host <;> rfl

theorem Packet.addressOf_of_update {host : String} {address : Ipv4Addr}
    (h : packet.addressUpdate mdns name host = some (some address))
    : packet.addressOf mdns host = some address := by
  cases hSrv : packet.srvOf mdns name with
  | none =>
    rw [addressUpdate_of_no_srv hSrv] at h
    simpa using h
  | some srv =>
    rw [addressUpdate_of_srv hSrv] at h
    simpa using h

theorem address_collectAddress {entry : MdnsDevice} {records : MdnsRecords}
    : (collectAddress records entry).address
        = (records.aRecords.lookup (trimEndMatches entry.host '.' ++ ".")).or entry.address := by
  rw [collectAddress_eq]

theorem address_concat_of_srv (packets : List (Packet Name)) {target : String} {port : UInt16}
    (hAbsolute : trimEndMatches target '.' ++ "." = target)
    (hSrv : packet.srvOf mdns name = some (target, port))
    : (entryAfter mdns (packets ++ [packet]) name).address = packet.addressOf mdns target := by
  have hName := Packet.mem_of_srvOf hSrv
  rw [Packet.srvOf_of_mem hName] at hSrv
  rw [entryAfter_concat_of_mem hName, address_collectAddress, updateEntry_host, updateEntry_address,
    hSrv]
  unfold Packet.addressOf
  simp only [Option.map_some, Option.getD_some]
  rw [trimEndMatches_trimEndMatches, hAbsolute, Option.or_self]

theorem address_concat_of_no_srv {target : String}
    (hHost : trimEndMatches (entryAfter mdns packets name).host '.' ++ "." = target)
    (hSrv : packet.srvOf mdns name = none) (hKnown : Known mdns (packets ++ [packet]) name)
    : (entryAfter mdns (packets ++ [packet]) name).address
        = (packet.addressOf mdns target).or (entryAfter mdns packets name).address := by
  by_cases hName : name ∈ packet.instances mdns
  . rw [Packet.srvOf_of_mem hName] at hSrv
    rw [entryAfter_concat_of_mem hName, address_collectAddress, updateEntry_host, updateEntry_address,
      hSrv]
    simp only [Option.map_none, Option.getD_none]
    rw [hHost]
    rfl
  . have hBefore : Known mdns packets name := by
      rcases hKnown with ⟨other, hMem, hOther⟩
      rcases List.mem_append.mp hMem with hMem | hMem
      . exact ⟨other, hMem, hOther⟩
      . rw [List.mem_singleton.mp hMem] at hOther
        contradiction
    rw [entryAfter_concat_of_known hName hBefore, address_collectAddress, hHost]
    rfl

theorem host_of_srv {target : String} (hAbsolute : trimEndMatches target '.' ++ "." = target)
    (hTarget : ∀ packet ∈ packets, ∀ srv, packet.srvOf mdns name = some srv → srv.1 = target)
    (hSrv : ∃ packet ∈ packets, packet.srvOf mdns name ≠ none)
    : trimEndMatches (entryAfter mdns packets name).host '.' ++ "." = target := by
  rw [(latestParts_entryAfter mdns packets name).host]
  cases hLatest : latest (Packet.srvOf mdns name) packets with
  | none =>
    rcases hSrv with ⟨packet, hMem, hSome⟩
    exact absurd (latest_eq_none_iff.mp hLatest packet hMem) hSome
  | some srv =>
    rcases exists_of_latest hLatest with ⟨packet, hMem, hSome⟩
    rw [Option.map_some, Option.getD_some, hTarget packet hMem srv hSome,
      trimEndMatches_trimEndMatches, hAbsolute]

theorem host_of_no_srv (hSrv : ∀ packet ∈ packets, packet.srvOf mdns name = none)
    : trimEndMatches (entryAfter mdns packets name).host '.' ++ "." = "." := by
  rw [(latestParts_entryAfter mdns packets name).host, latest_eq_none_iff.mpr hSrv]
  rfl

theorem address_of_srv {target : String} (hAbsolute : trimEndMatches target '.' ++ "." = target)
    (hTarget : ∀ packet ∈ packets, ∀ srv, packet.srvOf mdns name = some srv → srv.1 = target)
    (hSrv : ∃ packet ∈ packets, packet.srvOf mdns name ≠ none)
    : (entryAfter mdns packets name).address
        = (latest (Packet.addressUpdate mdns name target) packets).join := by
  induction packets using List.reverseRecOn with
  | nil =>
    rcases hSrv with ⟨packet, hMem, _⟩
    contradiction
  | append_singleton packets packet ih =>
    have hTargets : ∀ other ∈ packets, ∀ srv, other.srvOf mdns name = some srv → srv.1 = target :=
      fun other hMem => hTarget other (List.mem_append_left _ hMem)
    rw [latest_concat]
    cases hPacket : packet.srvOf mdns name with
    | some srv =>
      rcases srv with ⟨host, port⟩
      have hSame : host = target := hTarget packet (by simp) (host, port) hPacket
      rw [hSame] at hPacket
      rw [address_concat_of_srv _ hAbsolute hPacket, Packet.addressUpdate_of_srv hPacket]
      rfl
    | none =>
      have hBefore : ∃ packet ∈ packets, packet.srvOf mdns name ≠ none := by
        rcases hSrv with ⟨other, hMem, hOther⟩
        rcases List.mem_append.mp hMem with hMem | hMem
        . exact ⟨other, hMem, hOther⟩
        . rw [List.mem_singleton.mp hMem] at hOther
          contradiction
      have hKnown : Known mdns (packets ++ [packet]) name := by
        rcases hBefore with ⟨other, hMem, hOther⟩
        rcases Option.ne_none_iff_exists'.mp hOther with ⟨srv, hSome⟩
        exact ⟨other, List.mem_append_left _ hMem, Packet.mem_of_srvOf hSome⟩
      rw [address_concat_of_no_srv (host_of_srv hAbsolute hTargets hBefore) hPacket hKnown,
        ih hTargets hBefore, Packet.addressUpdate_of_no_srv hPacket]
      cases packet.addressOf mdns target <;> rfl

def fromFirst (mdns : EdgeMdns Name) (packets : List (Packet Name)) (name : String)
    : List (Packet Name) :=
  packets.dropWhile fun packet => decide (name ∉ packet.instances mdns)

theorem fromFirst_of_not_known (hKnown : ¬ Known mdns packets name)
    : fromFirst mdns packets name = [] := by
  unfold fromFirst
  rw [List.dropWhile_eq_nil_iff]
  intro packet hMem
  rw [decide_eq_true_iff]
  intro hName
  exact hKnown ⟨packet, hMem, hName⟩

theorem fromFirst_append_of_not_known {others : List (Packet Name)}
    (hKnown : ¬ Known mdns packets name)
    : fromFirst mdns (packets ++ others) name = fromFirst mdns others name := by
  have hNil := fromFirst_of_not_known hKnown
  unfold fromFirst at hNil ⊢
  rw [List.dropWhile_append, hNil]
  rfl

theorem fromFirst_concat (hKnown : Known mdns (packets ++ [packet]) name)
    : fromFirst mdns (packets ++ [packet]) name = fromFirst mdns packets name ++ [packet] := by
  by_cases hBefore : Known mdns packets name
  . unfold fromFirst
    rw [List.dropWhile_append, if_neg]
    rw [List.isEmpty_iff, List.dropWhile_eq_nil_iff]
    intro hAll
    rcases hBefore with ⟨other, hMem, hName⟩
    exact absurd hName (of_decide_eq_true (hAll other hMem))
  . rw [fromFirst_append_of_not_known hBefore, fromFirst_of_not_known hBefore]
    unfold fromFirst
    rcases hKnown with ⟨other, hMem, hName⟩
    rcases List.mem_append.mp hMem with hMem | hMem
    . exact absurd ⟨other, hMem, hName⟩ hBefore
    . rw [List.mem_singleton] at hMem
      subst hMem
      rw [List.dropWhile_cons_of_neg (by simp [hName])]
      rfl

/-
The address of a device without a host is the latest one of the root since the device is known.
-/
theorem address_of_no_srv (hSrv : ∀ packet ∈ packets, packet.srvOf mdns name = none)
    : (entryAfter mdns packets name).address
        = latest (Packet.addressOf mdns ".") (fromFirst mdns packets name) := by
  induction packets using List.reverseRecOn with
  | nil => rfl
  | append_singleton packets packet ih =>
    have hBefore : ∀ other ∈ packets, other.srvOf mdns name = none :=
      fun other hMem => hSrv other (List.mem_append_left _ hMem)
    by_cases hKnown : Known mdns (packets ++ [packet]) name
    . rw [fromFirst_concat hKnown, latest_concat, ← ih hBefore]
      exact address_concat_of_no_srv (host_of_no_srv hBefore) (hSrv packet (by simp)) hKnown
    . rw [entryAfter_of_not_known hKnown, fromFirst_of_not_known hKnown]
      rfl

end Address

end Wifi
end Enody
