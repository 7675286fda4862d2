/-!
This module contains the events of a `DiscoveryEnvironment`.
-/

namespace Enody

inductive EnvironmentRuntimeEvent (Runtime : Type) where
  | arrived (runtime : Runtime)
  | left (runtime : Runtime)
  deriving DecidableEq

end Enody
