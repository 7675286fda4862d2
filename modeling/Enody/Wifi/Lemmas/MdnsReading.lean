import Enody.Wifi.Lemmas.MdnsRun

/-!
This module contains what the packets supply for a device when its records are looked up in one way or another: by
the exact text of names, as `collect_mdns_devices` does, or by `dns_name_eq`.
-/

namespace Enody
namespace Wifi

variable {Name : Type} {mdns : EdgeMdns Name} {packets : List (Packet Name)} {packet : Packet Name}
  {name : String}

/--
The lookups for one device: whether a packet picks it, the SRV and TXT record of the packet, and its A record of a
host.
-/
structure Reading (Name : Type) where
  named : Packet Name → Bool
  srvOf : Packet Name → Option (String × UInt16)
  txtOf : Packet Name → Option (HashMap String)
  addressOf : String → Packet Name → Option Ipv4Addr

structure Supplied where
  host : String
  address : Option Ipv4Addr
  port : Option UInt16
  txtFields : TxtFields

def MdnsDevice.supplied (device : MdnsDevice) : Supplied where
  host := device.host
  address := device.address
  port := device.port
  txtFields := device.txtFields

namespace Reading

variable {reading : Reading Name}

def portOf (reading : Reading Name) (packet : Packet Name) : Option UInt16 :=
  ((reading.txtOf packet).bind txtPort).or ((reading.srvOf packet).map Prod.snd)

/-
The target of the latest SRV record, or the root.
-/
def target (reading : Reading Name) (packets : List (Packet Name)) : String :=
  ((latest reading.srvOf packets).map Prod.fst).getD "."

def keep (reading : Reading Name) (current : List (Packet Name)) (packet : Packet Name) : List (Packet Name) :=
  if (reading.srvOf packet).isSome then
    [packet]
  else if current.isEmpty && !reading.named packet then
    []
  else
    current ++ [packet]

/-
The packets from the latest one with an SRV record on, or from the first one that picks the device.
-/
def since (reading : Reading Name) (packets : List (Packet Name)) : List (Packet Name) :=
  packets.foldl reading.keep []

def supplied (reading : Reading Name) (parseIdentifier : String → Option Identifier)
    (packets : List (Packet Name))
    : Supplied where
  host := trimEndMatches (reading.target packets) '.'
  address := latest (reading.addressOf (reading.target packets)) (reading.since packets)
  port := latest reading.portOf packets
  txtFields :=
    ((latest reading.txtOf packets).map (TxtFields.ofTxt parseIdentifier)).getD MdnsDevice.default.txtFields

theorem since_concat
    : reading.since (packets ++ [packet])
        =
      if (reading.srvOf packet).isSome then
        [packet]
      else if (reading.since packets).isEmpty && !reading.named packet then
        []
      else
        reading.since packets ++ [packet] := by
  unfold since
  rw [List.foldl_append]
  rfl

theorem mem_of_mem_since (h : packet ∈ reading.since packets) : packet ∈ packets := by
  induction packets using List.reverseRecOn with
  | nil => exact h
  | append_singleton packets last ih =>
    rw [since_concat] at h
    rw [List.mem_append]
    split at h
    . exact .inr h
    . split at h
      . contradiction
      . rcases List.mem_append.mp h with h | h
        . exact .inl (ih h)
        . exact .inr h

theorem supplied_congr {other : Reading Name} {parseIdentifier : String → Option Identifier}
    (hNamed : ∀ packet ∈ packets, reading.named packet = other.named packet)
    (hSrv : ∀ packet ∈ packets, reading.srvOf packet = other.srvOf packet)
    (hTxt : ∀ packet ∈ packets, reading.txtOf packet = other.txtOf packet)
    (hAddress : ∀ packet ∈ packets,
      reading.addressOf (reading.target packets) packet = other.addressOf (reading.target packets) packet)
    : reading.supplied parseIdentifier packets = other.supplied parseIdentifier packets := by
  have hTarget : reading.target packets = other.target packets := by
    unfold target
    rw [latest_congr hSrv]
  have hSince : reading.since packets = other.since packets := by
    clear hAddress hTarget hTxt
    induction packets using List.reverseRecOn with
    | nil => rfl
    | append_singleton packets last ih =>
      rw [since_concat, since_concat, hSrv last (by simp), hNamed last (by simp), ih]
      . intro packet hMem
        exact hNamed packet (List.mem_append_left _ hMem)
      . intro packet hMem
        exact hSrv packet (List.mem_append_left _ hMem)
  have hPort : ∀ packet ∈ packets, reading.portOf packet = other.portOf packet := by
    intro packet hMem
    unfold portOf
    rw [hSrv packet hMem, hTxt packet hMem]
  unfold supplied
  rw [← hTarget, ← hSince, latest_congr hPort, latest_congr hTxt,
    latest_congr fun packet hMem => hAddress packet (mem_of_mem_since hMem)]

end Reading

/--
The lookups of `collect_mdns_devices`.
-/
def Reading.exact (mdns : EdgeMdns Name) (name : String) : Reading Name where
  named packet := packet.instances mdns |>.contains name
  srvOf := Packet.srvOf mdns name
  txtOf := Packet.txtOf mdns name
  addressOf := Packet.addressOf mdns

/-
What a record supplies under every name that `dns_name_eq` takes for `name`.
-/
def PeerAnswer.dnsAt {V : Type} (mdns : EdgeMdns Name) (supplies : String → PeerAnswer Name → Option V)
    (name : String) (record : PeerAnswer Name)
    : Option V :=
  let owner := dnsNameToString mdns record.owner
  if dnsNameEq owner name then supplies owner record else none

/--
The same lookups with names compared by `dns_name_eq`.
-/
def Reading.dns (mdns : EdgeMdns Name) (name : String) : Reading Name where
  named packet := (packet.instances mdns).any (dnsNameEq · name)
  srvOf packet :=
    if (packet.instances mdns).any (dnsNameEq · name) then
      latest (PeerAnswer.dnsAt mdns (PeerAnswer.srvAt mdns) name) packet.records
    else
      none
  txtOf packet :=
    if (packet.instances mdns).any (dnsNameEq · name) then
      latest (PeerAnswer.dnsAt mdns (PeerAnswer.txtAt mdns) name) packet.records
    else
      none
  addressOf host packet := latest (PeerAnswer.dnsAt mdns (PeerAnswer.aAt mdns) host) packet.records

section Exact

theorem since_exact_eq_nil_iff
    : (Reading.exact mdns name).since packets = [] ↔ ¬ Known mdns packets name := by
  unfold Known
  induction packets using List.reverseRecOn with
  | nil => simp [Reading.since]
  | append_singleton packets packet ih =>
    have hNamed : (Reading.exact mdns name).named packet = true ↔ name ∈ packet.instances mdns :=
      List.contains_iff_mem
    have hConcat : (∃ other ∈ packets ++ [packet], name ∈ other.instances mdns)
        ↔ (∃ other ∈ packets, name ∈ other.instances mdns) ∨ name ∈ packet.instances mdns := by
      simp [or_and_right, exists_or]
    rw [Reading.since_concat, hConcat]
    split
    . next hSrv =>
      rcases Option.isSome_iff_exists.mp hSrv with ⟨srv, hSrv⟩
      simp [Packet.mem_of_srvOf hSrv]
    . split
      . next hNone =>
        simp only [Bool.and_eq_true, List.isEmpty_iff, ih, Bool.not_eq_true', ← Bool.not_eq_true,
          hNamed] at hNone
        simp only [hNone.left, hNone.right, or_self, not_false_eq_true]
      . next hSome =>
        simp only [Bool.and_eq_true, List.isEmpty_iff, ih, Bool.not_eq_true', ← Bool.not_eq_true,
          hNamed] at hSome
        simp only [List.append_eq_nil_iff, List.cons_ne_self, and_false, false_iff, not_not]
        by_contra hNot
        rw [not_or] at hNot
        exact hSome hNot

theorem absolute_target (hMdns : mdns.Documented)
    : trimEndMatches ((Reading.exact mdns name).target packets) '.' ++ "."
        = (Reading.exact mdns name).target packets := by
  unfold Reading.target
  cases hSrv : latest (Reading.exact mdns name).srvOf packets with
  | none => decide
  | some srv =>
    rcases exists_of_latest hSrv with ⟨packet, _, hSrv⟩
    exact Packet.absolute_of_srvOf hMdns hSrv

theorem host_entryAfter
    : (entryAfter mdns packets name).host = trimEndMatches ((Reading.exact mdns name).target packets) '.' := by
  rw [(latestParts_entryAfter mdns packets name).host]
  unfold Reading.target
  change _ = trimEndMatches (((latest (Packet.srvOf mdns name) packets).map Prod.fst).getD ".") '.'
  cases latest (Packet.srvOf mdns name) packets with
  | none => decide
  | some srv => rfl

theorem address_entryAfter (hMdns : mdns.Documented)
    : (entryAfter mdns packets name).address
        = latest (Packet.addressOf mdns ((Reading.exact mdns name).target packets))
            ((Reading.exact mdns name).since packets) := by
  induction packets using List.reverseRecOn with
  | nil => rfl
  | append_singleton packets packet ih =>
    have hSrvOf : (Reading.exact mdns name).srvOf = Packet.srvOf mdns name := rfl
    rw [Reading.since_concat, hSrvOf]
    unfold Reading.target
    rw [hSrvOf, latest_concat]
    cases hSrv : packet.srvOf mdns name with
    | some srv =>
      rw [address_concat_of_srv packets (Packet.absolute_of_srvOf hMdns hSrv) hSrv]
      simp [latest]
    | none =>
      rw [Option.none_or]
      change _ = latest (Packet.addressOf mdns ((Reading.exact mdns name).target packets)) _
      simp only [Option.isSome_none, Bool.false_eq_true, if_false]
      by_cases hKnown : Known mdns (packets ++ [packet]) name
      . have hHost : trimEndMatches (entryAfter mdns packets name).host '.' ++ "."
            = (Reading.exact mdns name).target packets := by
          rw [host_entryAfter, trimEndMatches_trimEndMatches, absolute_target hMdns]
        have hSince : (Reading.exact mdns name).since (packets ++ [packet]) ≠ [] := by
          rw [Ne, since_exact_eq_nil_iff, not_not]
          exact hKnown
        rw [Reading.since_concat, hSrvOf, hSrv] at hSince
        simp only [Option.isSome_none, Bool.false_eq_true, if_false] at hSince
        split
        . next hNone =>
          rw [if_pos hNone] at hSince
          contradiction
        . rw [latest_concat, address_concat_of_no_srv hHost hSrv hKnown, ih]
      . have hSince := since_exact_eq_nil_iff.mpr hKnown
        rw [Reading.since_concat, hSrvOf, hSrv] at hSince
        simp only [Option.isSome_none, Bool.false_eq_true, if_false] at hSince
        rw [hSince, entryAfter_of_not_known hKnown]
        rfl

/--
The device after the packets has what the exact lookups supply.
-/
theorem supplied_entryAfter (hMdns : mdns.Documented)
    : (entryAfter mdns packets name).supplied
        = (Reading.exact mdns name).supplied mdns.parseIdentifier packets := by
  have hParts := latestParts_entryAfter mdns packets name
  unfold MdnsDevice.supplied Reading.supplied
  rw [host_entryAfter, address_entryAfter hMdns, hParts.port, hParts.txtFields]
  rfl

end Exact

end Wifi
end Enody
