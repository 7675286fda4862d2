import Enody.Serialization.Lemmas.Framing

/-!
This module contains what the parser of the `no_std` build does with a frame that is longer than its
buffer. The overflow forgets a pending escape, so when the byte that does not fit is an escaping DLE, the
byte behind it is read as if it were not escaped, and an STX there opens a frame inside of the payload.
-/

namespace Enody
namespace Serialization

open Stuffing

/-
The overflow took the DLE that escapes the first byte: what follows the first STX that is no longer
escaped. An unprotected DLE escapes the DLE of the next escaped byte, which then stands unprotected.
-/
def exposed : List UInt8 → Option (List UInt8)
  | [] => none
  | byte :: payload =>
    if byte = controlCharStx then
      some payload
    else if byte = controlCharDle then
      exposed payload
    else
      none

/-
The part of the payload that the parser reads as the payload of another frame, when `room` bytes still
fit into the buffer behind the STX.
-/
def remnant : Nat → List UInt8 → Option (List UInt8)
  | _, [] => none
  | 0, byte :: payload => if isControl byte then exposed (byte :: payload) else none
  | 1, byte :: payload => if isControl byte then none else remnant 0 payload
  | room + 2, byte :: payload =>
    if isControl byte then remnant room payload else remnant (room + 1) payload

/-
The frame that `frame_bytes` of the `std` build makes fits into the buffer of the `no_std` build.
-/
def fitsNoStd (payload : List UInt8) : Bool :=
  match frameBytes .std payload with
  | none => false
  | some frame => fits .noStd frame.length

/--
Some remnant of the payload, or a remnant of it in turn, is short enough to be completed.
-/
inductive Resurfaces : List UInt8 → Prop where
  | fits {payload rest : List UInt8} :
      remnant 511 payload = some rest → fitsNoStd rest = true → Resurfaces payload
  | again {payload rest : List UInt8} :
      remnant 511 payload = some rest → Resurfaces rest → Resurfaces payload

theorem fitsNoStd_eq (payload : List UInt8)
    : fitsNoStd payload = decide ((framed payload).length ≤ 512) := by
  unfold fitsNoStd
  rw [frameBytes_std]
  rfl

theorem length_exposed {payload rest : List UInt8} (h : exposed payload = some rest)
    : rest.length < payload.length := by
  induction payload with
  | nil => contradiction
  | cons byte payload ih =>
    unfold exposed at h
    split at h
    . injection h with h
      rw [h]
      exact Nat.lt_succ_self _
    . split at h
      . exact Nat.lt_succ_of_lt (ih h)
      . contradiction

theorem length_remnant {room : Nat} {payload rest : List UInt8} (h : remnant room payload = some rest)
    : rest.length < payload.length := by
  induction payload generalizing room with
  | nil =>
    unfold remnant at h
    contradiction
  | cons byte payload ih =>
    unfold remnant at h
    split at h
    . contradiction
    . next heq =>
      injection heq with hByte hPayload
      subst hByte hPayload
      split at h
      . exact length_exposed h
      . contradiction
    . next heq =>
      injection heq with hByte hPayload
      subst hByte hPayload
      split at h
      . contradiction
      . exact Nat.lt_succ_of_lt (ih h)
    . next heq =>
      injection heq with hByte hPayload
      subst hByte hPayload
      split at h
      . exact Nat.lt_succ_of_lt (ih h)
      . exact Nat.lt_succ_of_lt (ih h)

def frameEnd (payload : List UInt8) : List UInt8 :=
  symbols (stuff delimiters payload) ++ [controlCharEtx]

theorem framed_eq (payload : List UInt8) : framed payload = controlCharStx :: frameEnd payload := rfl

theorem frameEnd_cons_of_control {byte : UInt8} (payload : List UInt8) (h : isControl byte = true)
    : frameEnd (byte :: payload) = controlCharDle :: byte :: frameEnd payload := by
  unfold frameEnd
  rw [symbols_stuff_of_control (of_decide_eq_true h)]
  rfl

theorem frameEnd_cons_of_not_control {byte : UInt8} (payload : List UInt8)
    (h : ¬ isControl byte = true)
    : frameEnd (byte :: payload) = byte :: frameEnd payload := by
  unfold frameEnd
  rw [symbols_stuff_of_not_control (plain_of_not_isControl h)]
  rfl

theorem not_control {byte : UInt8} (h : ¬ isControl byte = true)
    : byte ≠ controlCharStx ∧ byte ≠ controlCharEtx ∧ byte ≠ controlCharDle := by
  have hPlain := plain_of_not_isControl h
  rw [not_or, not_or] at hPlain
  exact hPlain

namespace MessageStream

theorem pushBytes_cons_of_eq {build : Build} {stream next last : MessageStream} {byte : UInt8}
    {bytes : List UInt8} {output : Option UsbDataBuffer} {payloads : List UsbDataBuffer}
    (hByte : pushByte build stream byte = some (next, output))
    (hBytes : pushBytes build next bytes = some (last, payloads))
    : pushBytes build stream (byte :: bytes) = some (last, output.toList ++ payloads) := by
  have hOne : pushBytes build stream [byte] = some (next, output.toList) := by
    unfold pushBytes pushEach
    cases output with
    | none => simp [hByte, pushEach]
    | some payload => simp [hByte, pushEach]
  exact pushBytes_append_of_eq hOne hBytes

/-
The parser has read nothing but a stuffed byte's first part or is not inside of a frame. It drops the
bytes, up to the STX of a remnant when there is one.
-/
def ReadsOn (stream : MessageStream) (bytes : List UInt8) : Option (List UInt8) → Prop
  | none => pushBytes .noStd stream bytes = some (new, [])
  | some rest =>
    ∃ dropped,
      bytes = dropped ++ frameEnd rest
        ∧
      pushBytes .noStd stream dropped = some (⟨[controlCharStx], false⟩, [])

theorem ReadsOn.cons {stream next : MessageStream} {byte : UInt8} {bytes : List UInt8}
    {rest : Option (List UInt8)}
    (hByte : pushByte .noStd stream byte = some (next, none)) (h : ReadsOn next bytes rest)
    : ReadsOn stream (byte :: bytes) rest := by
  cases rest with
  | none => exact pushBytes_cons_of_eq hByte h
  | some rest =>
    rcases h with ⟨dropped, hBytes, hDropped⟩
    refine ⟨byte :: dropped, ?_, ?_⟩
    . rw [hBytes]
      rfl
    . exact pushBytes_cons_of_eq hByte hDropped

theorem pushByte_overflow (buffer : UsbDataBuffer) (isEscaped : Bool) (byte : UInt8)
    (hLength : buffer.length = 512)
    : pushByte .noStd ⟨buffer, isEscaped⟩ byte = some (new, none) := by
  have hNonempty : ¬ buffer = [] := by
    intro hNil
    rw [hNil] at hLength
    contradiction
  have hPush : push .noStd buffer byte = none := by
    unfold push
    rw [fits_noStd, hLength]
    rfl
  unfold pushByte
  simp only [List.isEmpty_iff, hNonempty, ↓reduceIte, hPush]
  rfl

theorem readsOn_gap (payload : List UInt8) : ReadsOn ⟨[], false⟩ (frameEnd payload) none := by
  induction payload with
  | nil => exact ReadsOn.cons (pushByte_empty .noStd false controlCharEtx) rfl
  | cons byte payload ih =>
    by_cases hControl : isControl byte = true
    . rw [frameEnd_cons_of_control payload hControl]
      apply ReadsOn.cons (pushByte_empty .noStd false controlCharDle)
      apply ReadsOn.cons (pushByte_empty .noStd true byte)
      simpa using ih
    . rcases not_control hControl with ⟨hStx, _, hDle⟩
      rw [frameEnd_cons_of_not_control payload hControl]
      apply ReadsOn.cons (pushByte_empty .noStd false byte)
      simpa [hStx, hDle] using ih

/-
The DLE that escapes the byte is lost, so the byte acts as itself.
-/
theorem readsOn_unprotected {byte : UInt8} {payload : List UInt8}
    (hControl : isControl byte = true)
    (hPending : ReadsOn ⟨[], true⟩ (frameEnd payload) (exposed payload))
    : ReadsOn ⟨[], false⟩ (byte :: frameEnd payload) (exposed (byte :: payload)) := by
  unfold exposed
  split
  . next hStx =>
    refine ⟨[byte], rfl, ?_⟩
    rw [hStx]
    rfl
  . next hStx =>
    split
    . next hDle =>
      subst hDle
      exact ReadsOn.cons (pushByte_empty .noStd false controlCharDle) hPending
    . next hDle =>
      apply ReadsOn.cons (pushByte_empty .noStd false byte)
      simpa [hStx, hDle] using readsOn_gap payload

theorem readsOn_pending (payload : List UInt8)
    : ReadsOn ⟨[], true⟩ (frameEnd payload) (exposed payload) := by
  induction payload with
  | nil => exact ReadsOn.cons (pushByte_empty .noStd true controlCharEtx) rfl
  | cons byte payload ih =>
    by_cases hControl : isControl byte = true
    . rw [frameEnd_cons_of_control payload hControl]
      apply ReadsOn.cons (pushByte_empty .noStd true controlCharDle)
      exact readsOn_unprotected hControl ih
    . rcases not_control hControl with ⟨hStx, _, hDle⟩
      have hNone : exposed (byte :: payload) = none := by
        unfold exposed
        simp [hStx, hDle]
      rw [frameEnd_cons_of_not_control payload hControl, hNone]
      apply ReadsOn.cons (pushByte_empty .noStd true byte)
      simpa using readsOn_gap payload

theorem readsOn_overflow (room : Nat) (payload : List UInt8) (buffer : UsbDataBuffer)
    (hRoom : buffer.length + room = 512) (hBuffer : buffer ≠ [])
    (hLong : room < (frameEnd payload).length)
    : ReadsOn ⟨buffer, false⟩ (frameEnd payload) (remnant room payload) := by
  induction payload generalizing room buffer with
  | nil =>
    have hZero : room = 0 := by
      simp [frameEnd, stuff] at hLong
      exact hLong
    subst hZero
    exact ReadsOn.cons (pushByte_overflow buffer false controlCharEtx hRoom) rfl
  | cons byte payload ih =>
    by_cases hControl : isControl byte = true
    . rw [frameEnd_cons_of_control payload hControl] at hLong ⊢
      simp only [List.length_cons] at hLong
      rcases room with _ | _ | room
      . -- the DLE is the byte that does not fit
        simp only [remnant, hControl, ↓reduceIte]
        apply ReadsOn.cons (pushByte_overflow buffer false controlCharDle hRoom)
        exact readsOn_unprotected hControl (readsOn_pending payload)
      . -- the escaped byte is the one that does not fit
        simp only [remnant, hControl, ↓reduceIte]
        have hDle := pushByte_nonempty .noStd buffer false controlCharDle hBuffer
          (decide_eq_true (by omega)) (by decide)
        apply ReadsOn.cons hDle
        apply ReadsOn.cons (pushByte_overflow _ _ byte (by simpa using hRoom))
        exact readsOn_gap payload
      . simp only [remnant, hControl, ↓reduceIte]
        have hDle := pushByte_nonempty .noStd buffer false controlCharDle hBuffer
          (decide_eq_true (by omega)) (by decide)
        have hByte := pushByte_nonempty .noStd (buffer ++ [controlCharDle]) true byte (by simp)
          (decide_eq_true (by simp; omega)) (by simp)
        apply ReadsOn.cons hDle
        apply ReadsOn.cons hByte
        simp only [not_true_eq_false, and_false, decide_false]
        apply ih
        . simp
          omega
        . simp
        . omega
    . rcases not_control hControl with ⟨_, hEtx, hDle⟩
      rw [frameEnd_cons_of_not_control payload hControl] at hLong ⊢
      simp only [List.length_cons] at hLong
      rcases room with _ | room
      . simp only [remnant, hControl, Bool.false_eq_true, ↓reduceIte]
        apply ReadsOn.cons (pushByte_overflow buffer false byte hRoom)
        exact readsOn_gap payload
      . have hNext : remnant (room + 1) (byte :: payload) = remnant room payload := by
          cases room with
          | zero => simp [remnant, hControl]
          | succ room => simp [remnant, hControl]
        have hByte := pushByte_nonempty .noStd buffer false byte hBuffer
          (decide_eq_true (by omega)) (by simp [hEtx])
        rw [hNext]
        apply ReadsOn.cons hByte
        simp only [hDle, false_and, decide_false]
        apply ih
        . simp
          omega
        . simp
        . omega

theorem pushBytes_framed (payload : List UInt8)
    : pushBytes .noStd new (framed payload)
        =
      pushBytes .noStd ⟨[controlCharStx], false⟩ (frameEnd payload) := by
  have hStx : pushByte .noStd new controlCharStx = some (⟨[controlCharStx], false⟩, none) :=
    pushByte_empty .noStd false controlCharStx
  rw [framed_eq]
  unfold pushBytes
  rw [pushEach, hStx]
  simp only [Option.bind_eq_bind, Option.bind_some]
  cases pushEach .noStd ⟨[controlCharStx], false⟩ (frameEnd payload) with
  | none => rfl
  | some result => rfl

theorem pushBytes_framed_of_fits {payload : List UInt8} (h : fitsNoStd payload = true)
    : pushBytes .noStd new (framed payload) = some (new, [payload]) := by
  rw [fitsNoStd_eq] at h
  exact pushBytes_new_framed .noStd payload h

theorem readsOn_framed {payload : List UInt8} (h : fitsNoStd payload = false)
    : ReadsOn ⟨[controlCharStx], false⟩ (frameEnd payload) (remnant 511 payload) := by
  rw [fitsNoStd_eq, decide_eq_false_iff_not, framed_eq, List.length_cons] at h
  apply readsOn_overflow
  . rfl
  . simp
  . omega

theorem pushBytes_framed_of_not_fits {payload : List UInt8} (h : fitsNoStd payload = false)
    : pushBytes .noStd new (framed payload)
        =
      match remnant 511 payload with
      | none => some (new, [])
      | some rest => pushBytes .noStd new (framed rest) := by
  have hReads := readsOn_framed h
  rw [pushBytes_framed]
  cases hRemnant : remnant 511 payload with
  | none =>
    rw [hRemnant] at hReads
    exact hReads
  | some rest =>
    rw [hRemnant] at hReads
    rcases hReads with ⟨dropped, hBytes, hDropped⟩
    simp only
    rw [pushBytes_framed, hBytes]
    unfold pushBytes at hDropped ⊢
    rw [pushEach_append]
    cases hEach : pushEach .noStd ⟨[controlCharStx], false⟩ dropped with
    | none =>
      rw [hEach] at hDropped
      contradiction
    | some result =>
      rcases result with ⟨last, outputs⟩
      rw [hEach] at hDropped
      injection hDropped with hDropped
      injection hDropped with hLast hOutputs
      simp only [Option.bind_some, hLast, Option.bind_eq_bind]
      cases pushEach .noStd ⟨[controlCharStx], false⟩ (frameEnd rest) with
      | none => rfl
      | some more =>
        simp only [Option.map_some, Option.bind_some, List.filterMap_append, hOutputs,
          List.nil_append]

/-
The induction is on the length of the payload, its remnant is shorter.
-/
theorem pushBytes_framed_noStd (payload : List UInt8)
    : ∃ emitted,
        pushBytes .noStd new (framed payload) = some (new, emitted)
          ∧
        (fitsNoStd payload = true → emitted = [payload])
          ∧
        (fitsNoStd payload = false → (emitted = [] ↔ ¬ Resurfaces payload)) := by
  induction hLength : payload.length using Nat.strongRecOn generalizing payload with
  | ind length ih =>
    cases hFits : fitsNoStd payload with
    | true =>
      refine ⟨[payload], pushBytes_framed_of_fits hFits, fun _ => rfl, ?_⟩
      intro hNot
      contradiction
    | false =>
      have hFrame := pushBytes_framed_of_not_fits hFits
      cases hRemnant : remnant 511 payload with
      | none =>
        rw [hRemnant] at hFrame
        refine ⟨[], hFrame, nofun, ?_⟩
        intro _
        refine ⟨fun _ => ?_, fun _ => rfl⟩
        intro hResurfaces
        cases hResurfaces with
        | fits hSome =>
          rw [hRemnant] at hSome
          contradiction
        | again hSome =>
          rw [hRemnant] at hSome
          contradiction
      | some rest =>
        rw [hRemnant] at hFrame
        have hShorter := length_remnant hRemnant
        rcases ih rest.length (by omega) rest rfl with ⟨emitted, hRest, hWhole, hDropped⟩
        refine ⟨emitted, hFrame.trans hRest, nofun, ?_⟩
        intro _
        have hOnly : Resurfaces payload ↔ fitsNoStd rest = true ∨ Resurfaces rest := by
          constructor
          . intro hResurfaces
            cases hResurfaces with
            | fits hSome hFitsOther =>
              rw [hRemnant] at hSome
              injection hSome with hSome
              rw [hSome]
              exact .inl hFitsOther
            | again hSome hOther =>
              rw [hRemnant] at hSome
              injection hSome with hSome
              rw [hSome]
              exact .inr hOther
          . intro hEither
            rcases hEither with hFitsRest | hAgain
            . exact .fits hRemnant hFitsRest
            . exact .again hRemnant hAgain
        cases hFitsRest : fitsNoStd rest with
        | true =>
          rw [hWhole hFitsRest, hOnly]
          simp [hFitsRest]
        | false =>
          rw [hDropped hFitsRest, hOnly]
          simp [hFitsRest]

theorem append_eq_iff_of_length_le {α : Type} {xs ys zs : List α} (h : zs.length ≤ ys.length)
    : xs ++ ys = zs ↔ xs = [] ∧ ys = zs := by
  constructor
  . intro hEq
    have hLength := congrArg List.length hEq
    rw [List.length_append] at hLength
    have hNil : xs = [] := List.eq_nil_of_length_eq_zero (by omega)
    rw [hNil, List.nil_append] at hEq
    exact ⟨hNil, hEq⟩
  . rintro ⟨hNil, hEq⟩
    rw [hNil, hEq]
    rfl

theorem pushBytes_framed_list (payloads : List (List UInt8))
    : ∃ emitted,
        pushBytes .noStd new (payloads.flatMap framed) = some (new, emitted)
          ∧
        (payloads.filter fitsNoStd).length ≤ emitted.length
          ∧
        (emitted = payloads.filter fitsNoStd
          ↔
        ∀ payload ∈ payloads, fitsNoStd payload = false → ¬ Resurfaces payload) := by
  induction payloads with
  | nil => exact ⟨[], rfl, Nat.le_refl _, by simp⟩
  | cons payload payloads ih =>
    rcases pushBytes_framed_noStd payload with ⟨first, hFirst, hWhole, hDropped⟩
    rcases ih with ⟨more, hMore, hLength, hIff⟩
    refine ⟨first ++ more, ?_, ?_, ?_⟩
    . rw [List.flatMap_cons]
      exact pushBytes_append_of_eq hFirst hMore
    . cases hFits : fitsNoStd payload with
      | true =>
        rw [hWhole hFits]
        simpa [hFits] using hLength
      | false =>
        simp only [List.filter_cons, hFits, Bool.false_eq_true, ↓reduceIte, List.length_append]
        omega
    . cases hFits : fitsNoStd payload with
      | true =>
        rw [hWhole hFits]
        simp [hFits, hIff]
      | false =>
        simp only [List.filter_cons, hFits, Bool.false_eq_true, ↓reduceIte]
        rw [append_eq_iff_of_length_le hLength, hDropped hFits, hIff]
        simp [hFits]

end MessageStream

theorem flatMap_framed (payloads : List (List UInt8))
    : concatFrames .std payloads = some (payloads.flatMap framed) := by
  rw [concatFrames_eq, List.flatMap_map]
  rfl

/--
The parser always ends outside of a frame. It emits exactly the payloads whose frames fit, in order, as
long as no frame that does not fit resurfaces.
-/
theorem pushEach_concatFrames_noStd (payloads : List (List UInt8))
    : ∃ stream outputs,
        concatFrames .std payloads = some stream
          ∧
        MessageStream.pushEach .noStd .new stream = some (.new, outputs)
          ∧
        (outputs.filterMap id = payloads.filter fitsNoStd
          ↔
        ∀ payload ∈ payloads, fitsNoStd payload = false → ¬ Resurfaces payload) := by
  rcases MessageStream.pushBytes_framed_list payloads with ⟨emitted, hBytes, _, hIff⟩
  unfold MessageStream.pushBytes at hBytes
  cases hEach : MessageStream.pushEach .noStd .new (payloads.flatMap framed) with
  | none =>
    rw [hEach] at hBytes
    contradiction
  | some result =>
    rcases result with ⟨last, outputs⟩
    rw [hEach] at hBytes
    injection hBytes with hBytes
    injection hBytes with hLast hEmitted
    rw [hLast] at hEach
    rw [← hEmitted] at hIff
    exact ⟨_, outputs, flatMap_framed payloads, hEach, hIff⟩

theorem remnant_replicate (count : Nat) (payload : List UInt8)
    : remnant count (List.replicate count 0 ++ payload) = remnant 0 payload := by
  induction count with
  | zero => rfl
  | succ count ih =>
    have hControl : isControl 0 = false := by decide
    rw [List.replicate_succ, List.cons_append]
    cases count with
    | zero => simp [remnant, hControl]
    | succ count =>
      simp only [remnant, hControl, Bool.false_eq_true, ↓reduceIte]
      exact ih

/-
511 bytes fill the buffer behind the STX, and the DLE that escapes the last byte does not fit. The escaped
STX and the ETX of the frame are read as an empty frame.
-/
theorem not_pushEach_concatFrames_noStd
    : ¬ ∀ payloads : List (List UInt8), ∃ stream last outputs,
        concatFrames .std payloads = some stream
          ∧
        MessageStream.pushEach .noStd .new stream = some (last, outputs)
          ∧
        outputs.filterMap id = payloads.filter fitsNoStd := by
  intro hAll
  rcases hAll [List.replicate 511 0 ++ [controlCharStx]] with
    ⟨stream, last, outputs, hStream, hEach, hEq⟩
  have hRemnant : remnant 511 (List.replicate 511 0 ++ [controlCharStx]) = some [] := by
    rw [remnant_replicate]
    rfl
  have hShort : fitsNoStd [] = true := by decide
  have hLong : fitsNoStd (List.replicate 511 0 ++ [controlCharStx]) = false := by
    rw [fitsNoStd_eq, decide_eq_false_iff_not, length_framed_eq, List.length_append,
      List.length_replicate, List.length_singleton]
    omega
  rcases MessageStream.pushBytes_framed_list [List.replicate 511 0 ++ [controlCharStx]] with
    ⟨emitted, hBytes, _, hIff⟩
  rw [flatMap_framed] at hStream
  injection hStream with hStream
  rw [hStream, MessageStream.pushBytes_of_pushEach hEach] at hBytes
  injection hBytes with hBytes
  injection hBytes with _ hEmitted
  rw [← hEmitted] at hIff
  apply hIff.mp hEq _ (List.mem_singleton_self _) hLong
  exact .fits hRemnant hShort

end Serialization
end Enody
