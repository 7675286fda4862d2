import Enody.Serialization.Impl
import Enody.Stuffing.Decomposition

/-!
This module relates the encoder and the batch decoder of `serialization.rs` to byte stuffing with the
delimiters STX, ETX and DLE.
-/

namespace Enody
namespace Serialization

open Stuffing

def delimiters : Delimiters UInt8 where
  start := controlCharStx
  stop := controlCharEtx
  escape := controlCharDle
  start_ne_stop := by decide
  start_ne_escape := by decide
  stop_ne_escape := by decide

/-
The frame that carries `payload`.
-/
def framed (payload : List UInt8) : List UInt8 :=
  (Item.frame (stuff delimiters payload)).symbols

@[simp]
theorem fits_std (len : Nat) : fits .std len = true := rfl

theorem fits_noStd (len : Nat) : fits .noStd len = decide (len ≤ 512) := rfl

theorem fits_of_le {build : Build} {len len' : Nat} (hle : len ≤ len') (h : fits build len' = true)
    : fits build len = true := by
  cases build with
  | std => rfl
  | noStd =>
    simp only [fits_noStd, decide_eq_true_eq] at *
    omega

theorem push_of_fits {build : Build} {buffer : UsbDataBuffer} (byte : UInt8)
    (h : fits build (buffer.length + 1) = true)
    : push build buffer byte = some (buffer ++ [byte]) := by
  simp [push, h]

theorem bufferPush_of_fits {build : Build} {buffer : UsbDataBuffer} (byte : UInt8)
    (h : fits build (buffer.length + 1) = true)
    : bufferPush build buffer byte = some (buffer ++ [byte]) := by
  apply push_of_fits
  exact h

def isControl (byte : UInt8) : Bool :=
  byte = controlCharStx ∨ byte = controlCharEtx ∨ byte = controlCharDle

theorem plain_of_not_isControl {byte : UInt8} (h : ¬ isControl byte = true)
    : ¬ (byte = controlCharStx ∨ byte = controlCharEtx ∨ byte = controlCharDle) := by
  intro hControl
  exact h (decide_eq_true hControl)

theorem symbols_stuff_of_control {byte : UInt8}
    (h : byte = controlCharStx ∨ byte = controlCharEtx ∨ byte = controlCharDle)
    (payload : List UInt8)
    : symbols (stuff delimiters (byte :: payload))
        = controlCharDle :: byte :: symbols (stuff delimiters payload) :=
  symbols_stuff_cons_of_control (d := delimiters) h payload

theorem symbols_stuff_of_not_control {byte : UInt8}
    (h : ¬ (byte = controlCharStx ∨ byte = controlCharEtx ∨ byte = controlCharDle))
    (payload : List UInt8)
    : symbols (stuff delimiters (byte :: payload)) = byte :: symbols (stuff delimiters payload) :=
  symbols_stuff_cons_of_not_control (d := delimiters) h payload

namespace escapedBytes

theorem go_eq (build : Build) (payload : List UInt8) (escaped : UsbDataBuffer)
    (h : fits build (escaped.length + (symbols (stuff delimiters payload)).length) = true)
    : go build escaped payload = some (escaped ++ symbols (stuff delimiters payload)) := by
  induction payload generalizing escaped with
  | nil => simp [go, stuff]
  | cons byte payload ih =>
    unfold go
    by_cases hControl : byte = controlCharStx ∨ byte = controlCharEtx ∨ byte = controlCharDle
    . rw [symbols_stuff_of_control hControl] at h ⊢
      simp only [List.length_cons] at h
      simp only [hControl, ↓reduceIte]
      rw [bufferPush_of_fits _ (fits_of_le (by omega) h)]
      simp only [Option.bind_eq_bind, Option.bind_some]
      rw [bufferPush_of_fits _
        (fits_of_le (by rw [List.length_append, List.length_singleton]; omega) h)]
      simp only [Option.bind_some]
      rw [ih]
      . simp
      . apply fits_of_le _ h
        simp
        omega
    . rw [symbols_stuff_of_not_control hControl] at h ⊢
      simp only [List.length_cons] at h
      simp only [hControl, ↓reduceIte, Option.bind_eq_bind, Option.bind_some]
      rw [bufferPush_of_fits _ (fits_of_le (by omega) h)]
      simp only [Option.bind_some]
      rw [ih]
      . simp
      . apply fits_of_le _ h
        simp
        omega

end escapedBytes

theorem escapedBytes_eq (build : Build) (payload : List UInt8)
    (h : fits build (symbols (stuff delimiters payload)).length = true)
    : escapedBytes build payload = some (symbols (stuff delimiters payload)) := by
  unfold escapedBytes
  rw [escapedBytes.go_eq]
  . simp
  . simpa using h

namespace unescapeBytes

theorem go_eq (build : Build) (escaped : List UInt8) (unescaped : UsbDataBuffer) (isEscaped : Bool)
    (h : fits build (unescaped.length + escaped.length) = true)
    : go build unescaped isEscaped escaped
        =
      some (unescaped ++ unstuff delimiters isEscaped escaped) := by
  induction escaped generalizing unescaped isEscaped with
  | nil => simp [go, unstuff]
  | cons byte escaped ih =>
    rw [List.length_cons] at h
    unfold go unstuff
    have hPush : bufferPush build unescaped byte = some (unescaped ++ [byte]) := by
      apply bufferPush_of_fits
      exact fits_of_le (by omega) h
    cases isEscaped with
    | true =>
      simp only [↓reduceIte, hPush, Option.bind_eq_bind, Option.bind_some]
      rw [ih]
      . simp
      . apply fits_of_le _ h
        simp
        omega
    | false =>
      by_cases hDle : byte = controlCharDle
      . simp only [hDle, Bool.false_eq_true, ↓reduceIte]
        rw [ih]
        . simp [delimiters]
        . exact fits_of_le (by omega) h
      . have hEscape : ¬ byte = delimiters.escape := hDle
        simp only [hDle, hEscape, Bool.false_eq_true, ↓reduceIte, hPush, Option.bind_eq_bind,
          Option.bind_some]
        rw [ih]
        . simp
        . apply fits_of_le _ h
          simp
          omega

end unescapeBytes

theorem unescapeBytes_eq (build : Build) (escaped : List UInt8)
    (h : fits build escaped.length = true)
    : unescapeBytes build escaped = some (unstuff delimiters false escaped) := by
  unfold unescapeBytes
  rw [unescapeBytes.go_eq]
  . simp
  . simpa using h

theorem length_framed (payload : List UInt8)
    : (framed payload).length = (symbols (stuff delimiters payload)).length + 2 := by
  simp [framed, Item.symbols]

theorem length_symbols_stuff (payload : List UInt8)
    : (symbols (stuff delimiters payload)).length = payload.length + payload.countP isControl := by
  induction payload with
  | nil => rfl
  | cons byte payload ih =>
    rw [List.length_cons, List.countP_cons]
    by_cases hControl : isControl byte = true
    . rw [symbols_stuff_of_control (of_decide_eq_true hControl), if_pos hControl, List.length_cons,
        List.length_cons, ih]
      omega
    . rw [symbols_stuff_of_not_control (plain_of_not_isControl hControl), if_neg hControl,
        List.length_cons, ih]
      omega

theorem length_framed_eq (payload : List UInt8)
    : (framed payload).length = payload.length + payload.countP isControl + 2 := by
  rw [length_framed, length_symbols_stuff]

theorem frameBytes_eq (build : Build) (payload : List UInt8)
    (h : fits build (framed payload).length = true)
    : frameBytes build payload = some (framed payload) := by
  rw [length_framed] at h
  unfold frameBytes
  rw [bufferPush_of_fits _ (fits_of_le (by simp) h)]
  rw [escapedBytes_eq _ _ (fits_of_le (by omega) h)]
  have hExtend : extend build ([] ++ [controlCharStx]) (symbols (stuff delimiters payload))
      = some (controlCharStx :: symbols (stuff delimiters payload)) := by
    unfold extend
    rw [fits_of_le (by simp; omega) h]
    simp
  simp only [Option.bind_eq_bind, Option.bind_some]
  rw [hExtend]
  simp only [Option.bind_some]
  rw [bufferPush_of_fits _ (fits_of_le (by simp) h)]
  rfl

theorem frameBytes_std (payload : List UInt8) : frameBytes .std payload = some (framed payload) := by
  apply frameBytes_eq
  simp

theorem unframeBytes_delimited (build : Build) (body : List UInt8)
    (h : fits build body.length = true)
    : unframeBytes build (controlCharStx :: (body ++ [controlCharEtx]))
        =
      some (.ok (unstuff delimiters false body)) := by
  unfold unframeBytes
  have hLen : ¬ (controlCharStx :: (body ++ [controlCharEtx])).length < frameSizeMin := by
    simp [frameSizeMin]
  simp only [hLen, ↓reduceIte]
  simp [unescapeBytes_eq _ _ h]

end Serialization
end Enody
