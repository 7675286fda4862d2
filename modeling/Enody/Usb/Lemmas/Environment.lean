import Enody.Usb.Impl.Environment
import Mathlib.Data.List.Nodup

/-!
This module contains what an event does to the table of connected runtimes: an arrival adds at most one
entry, and a departure removes the entry with its key.
-/

namespace Enody
namespace Usb
namespace UsbEnvironment

variable {env : UsbEnvironment} {device : UsbDevice} {serialNumber : Option String}

def keys (env : UsbEnvironment) : List String :=
  env.connectedRuntimes.map ConnectedRuntime.connectionKey

@[simp]
theorem handleDeviceEvents_nil (env : UsbEnvironment) : env.handleDeviceEvents [] = env := rfl

@[simp]
theorem handleDeviceEvents_cons (env : UsbEnvironment) (event : UsbDeviceEvent)
    (events : List UsbDeviceEvent)
    : env.handleDeviceEvents (event :: events)
        =
      (env.handleDeviceEvent event).1.handleDeviceEvents events := rfl

theorem handleDeviceEvents_append (env : UsbEnvironment) (events more : List UsbDeviceEvent)
    : env.handleDeviceEvents (events ++ more)
        =
      (env.handleDeviceEvents events).handleDeviceEvents more := by
  unfold handleDeviceEvents
  rw [List.foldl_append]

theorem connectRuntime_of_ok (hConnect : device.runtimeConnect = .ok ())
    : (env.connectRuntime device serialNumber).1.connectedRuntimes
        =
      env.connectedRuntimes ++ [⟨env.created, device.connectionKey, serialNumber⟩] := by
  unfold connectRuntime
  simp only [hConnect]

theorem connectedContainsKey_iff (connected : List ConnectedRuntime) (key serialNumber : String)
    : connectedContainsKey connected key (some serialNumber) = true
        ↔
      ∃ entry ∈ connected,
        entry.connectionKey = key ∨ entry.serialNumber = some serialNumber := by
  unfold connectedContainsKey
  simp

theorem handleDeviceArrived_of_ok (env : UsbEnvironment) {serial : String}
    (hSerial : device.readSerialNumber = some (some serial))
    (hConnect : device.runtimeConnect = .ok ())
    : (env.handleDeviceArrived device).1.connectedRuntimes
        =
      if connectedContainsKey env.connectedRuntimes device.connectionKey (some serial) then
        env.connectedRuntimes
      else
        env.connectedRuntimes ++ [⟨env.created, device.connectionKey, some serial⟩] := by
  unfold handleDeviceArrived
  simp only [hSerial]
  split
  . rfl
  . exact connectRuntime_of_ok hConnect

theorem handleDeviceLeft_eq (env : UsbEnvironment) (device : UsbDevice)
    : (env.handleDeviceLeft device).1.connectedRuntimes
        =
      env.connectedRuntimes.eraseP fun connected =>
        connected.connectionKey == device.connectionKey := by
  unfold handleDeviceLeft
  simp only
  split
  . next hFind =>
    rw [List.find?_eq_none] at hFind
    rw [List.eraseP_of_forall_not hFind]
  . rfl

theorem eraseP_key_of_nodup (connected : List ConnectedRuntime) (key : String)
    (hKeys : (connected.map ConnectedRuntime.connectionKey).Nodup)
    : (connected.eraseP fun entry => entry.connectionKey == key)
        =
      connected.filter fun entry => entry.connectionKey ≠ key := by
  induction connected with
  | nil => rfl
  | cons entry rest ih =>
    rw [List.map_cons, List.nodup_cons] at hKeys
    rcases hKeys with ⟨hFresh, hRest⟩
    by_cases hKey : entry.connectionKey = key
    . have hAll : ∀ other ∈ rest, other.connectionKey ≠ key := by
        intro other hOther hEq
        apply hFresh
        rw [hKey, ← hEq]
        exact List.mem_map_of_mem hOther
      have hFilter : (rest.filter fun other => other.connectionKey ≠ key) = rest := by
        rw [List.filter_eq_self]
        intro other hOther
        simp only [ne_eq, decide_eq_true_eq]
        exact hAll other hOther
      simp only [List.eraseP_cons, hKey, beq_self_eq_true, List.filter_cons]
      simp only [ne_eq, not_true_eq_false, decide_false, Bool.false_eq_true, ↓reduceIte]
      exact hFilter.symm
    . rw [List.eraseP_cons_of_neg (by simpa using hKey), List.filter_cons_of_pos (by simpa using hKey)]
      rw [ih hRest]

theorem handleDepartures (env : UsbEnvironment) (devices : List UsbDevice) (hKeys : env.keys.Nodup)
    : (env.handleDeviceEvents (devices.map .disconnected)).connectedRuntimes
        =
      env.connectedRuntimes.filter fun entry =>
        entry.connectionKey ∉ devices.map UsbDevice.connectionKey := by
  induction devices generalizing env with
  | nil => simp
  | cons device devices ih =>
    have hOne : (env.handleDeviceLeft device).1.connectedRuntimes
        = env.connectedRuntimes.filter fun entry => entry.connectionKey ≠ device.connectionKey := by
      rw [handleDeviceLeft_eq]
      exact eraseP_key_of_nodup _ _ hKeys
    have hNodup : (env.handleDeviceLeft device).1.keys.Nodup := by
      unfold keys
      rw [hOne]
      apply List.Nodup.sublist _ hKeys
      exact List.filter_sublist.map _
    rw [List.map_cons, handleDeviceEvents_cons]
    simp only [handleDeviceEvent]
    rw [ih _ hNodup, hOne, List.filter_filter]
    apply List.filter_congr
    intro entry _
    rw [List.map_cons, Bool.and_comm]
    simp only [List.mem_cons, not_or, ne_eq, Bool.decide_and]

end UsbEnvironment
end Usb
end Enody
