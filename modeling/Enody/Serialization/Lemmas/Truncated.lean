import Enody.Serialization.Lemmas.Framing

/-!
This module contains what the streaming parser makes of a frame that breaks off and of the frame behind
it. It does not look for an STX inside of a frame, so the broken frame swallows the next one: both end at
the same ETX and are emitted as one payload.
-/

namespace Enody
namespace Serialization

open Stuffing

/-
Whether the bytes end in a DLE that escapes the next byte.
-/
def endsInEscape (bytes : List UInt8) : Bool :=
  pendingAfter delimiters false bytes

theorem eq_stuff_of_broken {payload broken : List UInt8} (hPrefix : broken <+: framed payload)
    (hProper : broken ≠ framed payload) (hEscape : endsInEscape broken = false)
    : broken = [] ∨ ∃ sent, broken = controlCharStx :: symbols (stuff delimiters sent) := by
  have hInner : broken <+: controlCharStx :: symbols (stuff delimiters payload) := by
    have hFramed : framed payload
        = controlCharStx :: symbols (stuff delimiters payload) ++ [controlCharEtx] := rfl
    rw [hFramed, List.prefix_concat_iff] at hPrefix
    rcases hPrefix with hEq | hInner
    . exact absurd hEq hProper
    . exact hInner
  rcases List.prefix_cons_iff.mp hInner with hNil | ⟨cut, hBroken, hCut⟩
  . exact .inl hNil
  . right
    rcases eq_symbols_stuff_of_prefix hCut with ⟨sent, hSent | hSent⟩
    . exact ⟨sent, by rw [hBroken, hSent]⟩
    . -- the cut is behind the DLE of an escaped byte
      have hPending : endsInEscape broken = true := by
        rw [hBroken, hSent]
        unfold endsInEscape
        rw [pendingAfter]
        have hStx : (decide (controlCharStx = delimiters.escape) && !false) = false := by decide
        rw [hStx, pendingAfter_symbols_append]
        decide
      rw [hEscape] at hPending
      contradiction

namespace MessageStream

theorem pushBytes_broken (sent payload : List UInt8)
    : pushBytes .std new
        (controlCharStx :: symbols (stuff delimiters sent) ++ framed payload)
        =
      some (new, [sent ++ controlCharStx :: payload]) := by
  have hStart : pushByte .std new controlCharStx = some (⟨[controlCharStx], false⟩, none) :=
    pushByte_empty .std false controlCharStx
  have hSent := pushEach_stuff sent [controlCharStx] (by simp)
  have hStx := pushByte_nonempty .std ([controlCharStx] ++ symbols (stuff delimiters sent)) false
    controlCharStx (by simp) rfl (by decide)
  have hBody := pushEach_stuff payload
    ([controlCharStx] ++ symbols (stuff delimiters sent) ++ [controlCharStx]) (by simp)
  have hEtx := pushByte_etx .std
    (symbols (stuff delimiters sent) ++ controlCharStx :: symbols (stuff delimiters payload)) rfl
  have hEmitted : unstuff delimiters false
      (symbols (stuff delimiters sent) ++ controlCharStx :: symbols (stuff delimiters payload))
        = sent ++ controlCharStx :: payload := by
    have hNotDle : ¬ controlCharStx = delimiters.escape := by decide
    rw [unstuff_symbols_append, unstuff]
    simp [hNotDle]
  have hBuffer : [controlCharStx] ++ symbols (stuff delimiters sent) ++ [controlCharStx]
      ++ symbols (stuff delimiters payload)
        = controlCharStx :: (symbols (stuff delimiters sent)
            ++ controlCharStx :: symbols (stuff delimiters payload)) := by
    simp
  rw [hBuffer] at hBody
  rw [hEmitted] at hEtx
  have hNil : pushEach .std new [] = some (new, []) := rfl
  have hEnd := pushEach_cons_of_eq hEtx hNil
  have hFrame := pushEach_cons_of_eq hStx (pushEach_append_of_eq hBody hEnd)
  have hAll := pushEach_append_of_eq (pushEach_cons_of_eq hStart hSent) hFrame
  have hFramed : framed payload
      = controlCharStx :: (symbols (stuff delimiters payload) ++ [controlCharEtx]) := rfl
  rw [hFramed, pushBytes_of_pushEach hAll]
  simp

end MessageStream

/--
The payload behind a broken frame is emitted if and only if nothing of the broken frame was received.
-/
theorem pushBytes_truncated_iff (payload next broken : List UInt8) (first second : UsbDataBuffer)
    (hFirst : frameBytes .std payload = some first) (hSecond : frameBytes .std next = some second)
    (hPrefix : broken <+: first) (hProper : broken ≠ first) (hEscape : endsInEscape broken = false)
    : (∃ stream, MessageStream.pushBytes .std .new (broken ++ second) = some (stream, [next]))
        ↔
      broken = [] := by
  rw [frameBytes_std] at hFirst hSecond
  injection hFirst with hFirst
  injection hSecond with hSecond
  subst hFirst hSecond
  rcases eq_stuff_of_broken hPrefix hProper hEscape with hNil | ⟨sent, hSent⟩
  . subst hNil
    simp [MessageStream.pushBytes_new_framed .std next rfl]
  . subst hSent
    rw [MessageStream.pushBytes_broken]
    constructor
    . rintro ⟨stream, hEq⟩
      injection hEq with hEq
      injection hEq with _ hEq
      injection hEq with hEq _
      -- the emitted payload is longer than the one behind the broken frame
      have hLength := congrArg List.length hEq
      rw [List.length_append, List.length_cons] at hLength
      omega
    . intro hNil
      contradiction

theorem pushBytes_truncated_nothing
    : ∃ stream, MessageStream.pushBytes .std .new [0x02, 0x08, 0x03] = some (stream, [[0x08]]) :=
  (pushBytes_truncated_iff [0x07] [0x08] [] [0x02, 0x07, 0x03] [0x02, 0x08, 0x03] rfl rfl
    (List.nil_prefix) (by decide) rfl).mpr rfl

theorem not_pushBytes_truncated
    : ¬ ∀ (payload next broken : List UInt8) (first second : UsbDataBuffer),
        frameBytes .std payload = some first → frameBytes .std next = some second →
        broken <+: first → broken ≠ first → endsInEscape broken = false →
        ∃ stream, MessageStream.pushBytes .std .new (broken ++ second) = some (stream, [next]) := by
  intro hAll
  have hPrefix : ([0x02, 0x07] : List UInt8) <+: [0x02, 0x07, 0x03] := ⟨[(0x03 : UInt8)], rfl⟩
  rcases hAll [0x07] [0x08] [0x02, 0x07] [0x02, 0x07, 0x03] [0x02, 0x08, 0x03] rfl rfl hPrefix
    (by decide) rfl with ⟨stream, hEq⟩
  injection hEq with hEq
  injection hEq with _ hEq
  contradiction

end Serialization
end Enody
