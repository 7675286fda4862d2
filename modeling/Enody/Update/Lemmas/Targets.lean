import Enody.Grouping.Basic
import Enody.Update.Impl.Targets

/-!
This module contains which ports the targets of `attached_raw` have: one target for each serial number, with
the ports of this serial number.
-/

namespace Enody
namespace Update
namespace EP01UpdateTarget

open Grouping

def serialNumber (port : Port) : Option String := port.2.serialNumber

/-
A target that has not been asked for its `HostInfo`.
-/
def ofPorts (ports : List Port) : EP01UpdateTarget := { default with ports := ports }

/--
The targets have the ports that have a serial number, each target those of one serial number.
-/
structure Partition (ports : List Port) (targets : List EP01UpdateTarget) : Prop where
  collected : (targets.flatMap EP01UpdateTarget.ports).Perm
    (ports.filter fun port => (serialNumber port).isSome)
  once : ∀ port ∈ ports, (serialNumber port).isSome = true →
    ∃! target, target ∈ targets ∧ port ∈ target.ports
  together : ∀ target ∈ targets, ∀ port ∈ target.ports, ∀ other ∈ ports,
    other ∈ target.ports ↔ serialNumber other = serialNumber port
  inOrder : ∀ target ∈ targets, target.ports.Sublist ports
  ordered : targets.Pairwise fun target next =>
    ∀ port ∈ target.ports, ∀ other ∈ next.ports,
      ports.findIdx (fun first => serialNumber first = serialNumber port)
        < ports.findIdx fun first => serialNumber first = serialNumber other
  nonempty : ∀ target ∈ targets, target.ports ≠ []

theorem addPort_ofPorts (serial : String) (port : Port) (groups : List (List Port))
    : addPort serial port (groups.map ofPorts) = (insertKey serialNumber serial port groups).map ofPorts := by
  induction groups with
  | nil => rfl
  | cons ports groups ih =>
    have hSame : (ports.any fun other => decide (some serial = other.2.serialNumber))
        = hasKey serialNumber serial ports := by
      unfold hasKey serialNumber
      simp only [eq_comm]
    rw [List.map_cons, addPort, insertKey, ih]
    simp only [ofPorts, hSame]
    split
    . rfl
    . rfl

theorem attachedRaw_eq (ports : List Port)
    : attachedRaw (.ok ports) = (ports.foldl (add serialNumber) []).map ofPorts := by
  unfold attachedRaw
  simp only
  induction ports using List.reverseRecOn with
  | nil => rfl
  | append_singleton ports port ih =>
    rw [List.foldl_append, List.foldl_append, ih]
    simp only [List.foldl_cons, List.foldl_nil, add]
    cases hSerial : port.2.serialNumber with
    | none => simp [serialNumber, hSerial]
    | some serial => simp [serialNumber, hSerial, addPort_ofPorts]

theorem mem_attachedRaw {ports : List Port} {target : EP01UpdateTarget}
    : target ∈ attachedRaw (.ok ports)
        ↔
      ∃ serial ∈ firstKeys serialNumber ports, target = ofPorts (group serialNumber ports serial) := by
  rw [attachedRaw_eq, foldl_add]
  simp [eq_comm]

theorem collected_attachedRaw (ports : List Port)
    : ((attachedRaw (.ok ports)).flatMap EP01UpdateTarget.ports).Perm
        (ports.filter fun port => (serialNumber port).isSome) := by
  have hPorts : (attachedRaw (.ok ports)).flatMap EP01UpdateTarget.ports
      = (ports.foldl (add serialNumber) []).flatten := by
    rw [attachedRaw_eq, List.flatMap_map]
    exact List.flatMap_id'
  rw [hPorts]
  exact flatten_foldl_add serialNumber ports

theorem partition_attachedRaw (ports : List Port) : Partition ports (attachedRaw (.ok ports)) := by
  constructor
  case collected => exact collected_attachedRaw ports
  case once =>
    intro port hPort hSerial
    rcases Option.isSome_iff_exists.mp hSerial with ⟨serial, hSerial⟩
    have hKey : serial ∈ firstKeys serialNumber ports := mem_firstKeys.mpr ⟨port, hPort, hSerial⟩
    refine ⟨ofPorts (group serialNumber ports serial), ⟨mem_attachedRaw.mpr ⟨serial, hKey, rfl⟩,
      mem_group.mpr ⟨hPort, hSerial⟩⟩, ?_⟩
    rintro target ⟨hTarget, hMem⟩
    rcases mem_attachedRaw.mp hTarget with ⟨other, _, hTarget⟩
    subst hTarget
    have hOther := (mem_group.mp hMem).right
    rw [hSerial] at hOther
    injection hOther with hOther
    rw [hOther]
  case together =>
    intro target hTarget port hMem other hOther
    rcases mem_attachedRaw.mp hTarget with ⟨serial, _, hTarget⟩
    subst hTarget
    rw [(mem_group.mp hMem).right]
    exact ⟨fun h => (mem_group.mp h).right, fun h => mem_group.mpr ⟨hOther, h⟩⟩
  case inOrder =>
    intro target hTarget
    rcases mem_attachedRaw.mp hTarget with ⟨serial, _, hTarget⟩
    subst hTarget
    exact List.filter_sublist
  case ordered =>
    rw [attachedRaw_eq, foldl_add, List.map_map, List.pairwise_map]
    apply (pairwise_firstIndex serialNumber ports).imp
    intro serial next hLt port hPort other hOther
    rw [(mem_group.mp hPort).right, (mem_group.mp hOther).right]
    exact hLt
  case nonempty =>
    intro target hTarget
    rcases mem_attachedRaw.mp hTarget with ⟨serial, hKey, hTarget⟩
    subst hTarget
    rcases mem_firstKeys.mp hKey with ⟨port, hPort, hSerial⟩
    exact List.ne_nil_of_mem (mem_group.mpr ⟨hPort, hSerial⟩)

theorem preferredPort_of_ne_nil {target : EP01UpdateTarget} (h : target.ports ≠ [])
    : ∃ port ∈ target.ports, preferredPort target = some port := by
  have hMem {port : Port} (hSorted : port ∈ target.ports.insertionSort fun a b => a.1 ≤ b.1)
      : port ∈ target.ports := (List.perm_insertionSort _ target.ports).mem_iff.mp hSorted
  unfold preferredPort
  simp only
  split
  . next port hFind => exact ⟨port, hMem (List.mem_of_find?_eq_some hFind), rfl⟩
  . have hSorted : 0 < (target.ports.insertionSort fun a b => a.1 ≤ b.1).length := by
      rw [List.length_insertionSort]
      exact List.length_pos_iff.mpr h
    exact ⟨_, hMem (List.getElem_mem hSorted), List.getElem?_eq_getElem hSorted⟩

/--
The targets of `attached_raw` partition the ports with a serial number, and the port that a target is flashed
on is one of its own.
-/
theorem attachedRaw_partitions (ports : List Port)
    : Partition ports (attachedRaw (.ok ports))
        ∧
      ∀ target ∈ attachedRaw (.ok ports), ∃ port ∈ target.ports, preferredPort target = some port := by
  refine ⟨partition_attachedRaw ports, ?_⟩
  intro target hTarget
  exact preferredPort_of_ne_nil ((partition_attachedRaw ports).nonempty target hTarget)

end EP01UpdateTarget
end Update
end Enody
