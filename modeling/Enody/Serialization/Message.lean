import Enody.Message.Build
import Enody.Serialization.Impl

/-!
This module contains the conversion of a message into a USB frame.
-/

namespace Enody
namespace Serialization

/-
`postcard::to_allocvec` with `std` and `postcard::to_vec::<_, 1024>` without it.
-/
def messageBytes : (build : Build) → Message build → Option (List UInt8)
  | .std, message => some (message.serialize .std)
  | .noStd, message =>
    let bytes := message.serialize .noStd
    if bytes.length ≤ 1024 then some bytes else none

/-
`TryFrom<Message> for UsbDataBuffer`. The result is `none` where the source panics.
-/
def tryFromMessage (build : Build) (message : Message build)
    : Option (Except (Error build) UsbDataBuffer) :=
  match messageBytes build message with
  | none => some (.error .serialization)
  | some messageBytes => do
    let framedBytes ← frameBytes build messageBytes
    some (.ok framedBytes)

end Serialization
end Enody
