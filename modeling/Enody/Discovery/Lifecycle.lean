import Enody.Usb.Lemmas.Discovery
import Enody.Wifi.Lemmas.Discovery

/-!
This module contains the lifecycle of the two discovery environments. A `WifiEnvironment` can be started
and stopped at will. A `UsbEnvironment` cannot be started again once it has been discovering and was
stopped.
-/

namespace Enody
namespace Discovery

open Service Usb Wifi

theorem lifecycle_iff (debugFormat : Error .std → String) (environment : UsbEnvironment)
    (rusbInit serialPortInit : Bool) (tokens : TokenMap) (wifi : WifiDiscovery) (calls : List Call)
    : ((UsbDiscovery.operations debugFormat).KeepsAll
          (fun s => s.Discovers ∧ s.Delivers) UsbDiscovery.Stopped
          (.new environment rusbInit serialPortInit) calls
        ↔
      ¬ [Call.start, .stop, .start].Sublist calls)
        ∧
      WifiDiscovery.operations.KeepsAll
        (fun s => s.Discovers ∧ s.Delivers tokens) WifiDiscovery.Stopped wifi calls := by
  constructor
  . exact (UsbDiscovery.oneShot debugFormat).keepsAll_iff (.new environment rusbInit serialPortInit) calls
  . exact Operations.keepsAll_of_keeps (WifiDiscovery.keeps tokens) wifi calls

theorem not_lifecycle
    : ¬ ∀ (debugFormat : Error .std → String) (environment : UsbEnvironment)
        (rusbInit serialPortInit : Bool) (calls : List Call),
          (UsbDiscovery.operations debugFormat).KeepsAll
            (fun s => s.Discovers ∧ s.Delivers) UsbDiscovery.Stopped
            (.new environment rusbInit serialPortInit) calls := by
  intro h
  have hAll := h (fun _ => "") .empty true true [.start, .stop, .start]
  have hAgain := hAll.right.right.left.succeeds
  contradiction

end Discovery
end Enody
