import Enody.Message.Compatible
import Enody.Serialization.Lemmas.Capacity
import Enody.Wifi.Lemmas.Limits

/-!
This module contains where the messages of the `no_std` build fit: into the buffer of the framing
conversion, and into a frame of a WiFi connection.
-/

namespace Enody

open Serde Message

namespace Error

theorem length_serialize_toStd (error : Error .noStd)
    : (serialize .std error.toStd).length ≤ (serialize .noStd error).length + 1 := by
  cases error with
  | debug detail => exact Nat.le_succ _
  | usb detail => exact Nat.le_refl _
  | _ => exact Nat.le_succ _

end Error

namespace Message

theorem Event.length_serialize_toStd (event : Event .noStd)
    : (serialize .std event.toStd).length ≤ (serialize .noStd event).length + 1 := by
  cases event with
  | error value =>
    have hError := value.length_serialize_toStd
    unfold Event.toStd Event.serialize
    rw [List.length_append, List.length_append]
    omega
  | _ => exact Nat.le_succ _

theorem length_serialize_toStd (message : Message .noStd)
    : (serialize .std message.toStd).length ≤ (serialize .noStd message).length + 1 := by
  cases message with
  | command => exact Nat.le_succ _
  | event value =>
    have hEvent := value.event.length_serialize_toStd
    unfold Message.toStd Message.serialize EventMessage.toStd EventMessage.serialize
    simp only [List.length_append] at hEvent ⊢
    omega

end Message

namespace Wifi

open Serialization Transition

/--
Where a message of the `no_std` build fits.
-/
structure FitsEverywhere (message : Message .noStd) : Prop where
  encoding : (message.serialize .noStd).length ≤ 1024
  toVec : messageBytes .noStd message = some (message.serialize .noStd)
  converts : tryFromMessage .noStd message ≠ some (.error .serialization)
  frame : (message.serialize .noStd).length ≤ wifiMessageMaxLen
  short : Short message.toStd
  accepted : ∀ noise : Noise, noise.Documented → ∀ labels s,
    Run (SendState.step (wifiCrates noise)) anyStep .initial labels s →
      ∀ i, s.calls i ≠ .returned message.toStd (.error .serialization)

theorem fitsEverywhere (message : Message .noStd) : FitsEverywhere message := by
  have hLength := message.length_serialize_le
  have hStd := message.length_serialize_toStd
  have hMax : wifiMessageMaxLen = 2048 := rfl
  have hShort : Short message.toStd := by
    unfold Short
    omega
  constructor
  case encoding => omega
  case toVec => exact messageBytes_noStd message
  case converts =>
    unfold tryFromMessage
    rw [messageBytes_noStd]
    simp only [Option.bind_eq_bind]
    cases frameBytes .noStd (message.serialize .noStd) with
    | none => simp
    | some frame => simp
  case frame => omega
  case short => exact hShort
  case accepted =>
    intro noise hDoc labels s hRun i hReturned
    exact ((SendState.run_sizesOk noise hDoc).right.right labels s hRun).accepted i _ hReturned hShort

end Wifi
end Enody
