import Enody.Serialization.Lemmas.Stream

/-!
This module relates the batch decoder to the streaming parser on one buffer that starts with STX. The batch
decoder looks at the first and at the last byte only, so it also accepts a buffer that the parser reads as a
frame and something behind it, or as a frame that is not over.
-/

namespace Enody
namespace Serialization

open Stuffing

/--
A new parser emits the payload at the last byte of the buffer and nothing before.
-/
def EmitsAtEnd (frame : List UInt8) (payload : UsbDataBuffer) : Prop :=
  ∃ stream, MessageStream.pushEach .std .new frame
    = some (stream, List.replicate (frame.length - 1) none ++ [some payload])

/-
What may stand between the STX and the ETX of a frame: each ETX is behind a DLE that escapes it, and each DLE
escapes a byte.
-/
def isFrameBody (bytes : List UInt8) : Bool :=
  isBody delimiters false bytes

variable {front rest : List UInt8} {last : UInt8} {payload : UsbDataBuffer}

theorem emitsAtEnd_iff
    : EmitsAtEnd (front ++ [last]) payload
        ↔
      (Decomposition.decompose front : Decomposition delimiters).outputs
          = List.replicate front.length none
        ∧
      (Decomposition.decompose front : Decomposition delimiters).completed last = some payload := by
  unfold EmitsAtEnd
  rw [MessageStream.pushEach_std, Decomposition.decompose_append, Decomposition.outputs_push]
  simp [List.append_singleton_inj]

theorem EmitsAtEnd.last_eq (h : EmitsAtEnd (front ++ [last]) payload) : last = controlCharEtx := by
  have hCompleted := (emitsAtEnd_iff.mp h).right
  unfold Decomposition.completed at hCompleted
  split at hCompleted
  . split at hCompleted
    . next hStop => exact hStop
    . contradiction
  . contradiction

theorem decompose_openFrame (body : List (Token delimiters delimiters.stop)) (cut : Bool)
    : Decomposition.decompose (Tail.openFrame body cut).symbols
        =
      (⟨[], .openFrame body cut⟩ : Decomposition delimiters) :=
  Decomposition.decompose_symbols ⟨[], .openFrame body cut⟩

theorem emitsAtEnd_body (body : List (Token delimiters delimiters.stop))
    : EmitsAtEnd (controlCharStx :: symbols body ++ [controlCharEtx]) payload ↔ payload = values body := by
  have hFront : controlCharStx :: symbols body = (Tail.openFrame body false).symbols := by
    simp [Tail.symbols, delimiters]
  rw [emitsAtEnd_iff, hFront, decompose_openFrame]
  have hOutputs : (⟨[], .openFrame body false⟩ : Decomposition delimiters).outputs
      = List.replicate (Tail.openFrame body false).symbols.length none := by
    simp [Decomposition.outputs, Tail.outputs]
  have hCompleted : (⟨[], .openFrame body false⟩ : Decomposition delimiters).completed controlCharEtx
      = some (values body) := by
    simp [Decomposition.completed, delimiters]
  rw [hOutputs, hCompleted, Option.some.injEq]
  exact ⟨fun h => h.right.symm, fun h => ⟨rfl, h.symm⟩⟩

theorem not_emitsAtEnd_escape (body : List (Token delimiters delimiters.stop))
    : ¬ EmitsAtEnd (controlCharStx :: (symbols body ++ [controlCharDle]) ++ [controlCharEtx]) payload := by
  have hFront : controlCharStx :: (symbols body ++ [controlCharDle]) = (Tail.openFrame body true).symbols := by
    simp [Tail.symbols, delimiters]
  rw [emitsAtEnd_iff, hFront, decompose_openFrame]
  rintro ⟨_, hCompleted⟩
  contradiction

theorem not_emitsAtEnd_stop (body : List (Token delimiters delimiters.stop))
    : ¬ EmitsAtEnd (controlCharStx :: (symbols body ++ controlCharEtx :: rest) ++ [last]) payload := by
  have hFront : controlCharStx :: (symbols body ++ controlCharEtx :: rest)
      = (Item.frame body).symbols ++ rest := by
    simp [Item.symbols, delimiters]
  rw [emitsAtEnd_iff, hFront]
  rintro ⟨hOutputs, _⟩
  have hEarly : some (values body)
      ∈ (Decomposition.decompose ((Item.frame body).symbols ++ rest) : Decomposition delimiters).outputs := by
    unfold Decomposition.decompose
    rw [List.foldl_append, Decomposition.outputs_foldl_push]
    unfold Decomposition.empty
    rw [Decomposition.foldl_push_item]
    simp [Decomposition.outputs, Item.outputs]
  rw [hOutputs] at hEarly
  have hNone := List.eq_of_mem_replicate hEarly
  contradiction

theorem unframeBytes_eq_ok (h : unframeBytes .std (front ++ [last]) = some (.ok payload))
    : last = controlCharEtx ∧ front ≠ [] := by
  unfold unframeBytes at h
  split at h
  . simp at h
  . next hLength =>
    split at h
    . simp at h
    . next hEnds =>
      constructor
      . simpa using (not_or.mp hEnds).right
      . intro hNil
        rw [hNil] at hLength
        exact hLength (by simp [frameSizeMin])

theorem unframeBytes_eq_ok_iff (bytes : List UInt8)
    : unframeBytes .std (controlCharStx :: bytes ++ [controlCharEtx]) = some (.ok payload)
        ↔
      payload = unstuff delimiters false bytes := by
  rw [List.cons_append, unframeBytes_delimited _ _ rfl, Option.some.injEq, Except.ok.injEq]
  exact eq_comm

theorem agrees_of_not_etx (h : ¬ (last = controlCharEtx ∧ front ≠ []))
    (hFront : front = [] → last ≠ controlCharEtx)
    : unframeBytes .std (front ++ [last]) = some (.ok payload) ↔ EmitsAtEnd (front ++ [last]) payload := by
  constructor
  . intro hUnframe
    exact absurd (unframeBytes_eq_ok hUnframe) h
  . intro hEmits
    refine absurd ⟨hEmits.last_eq, ?_⟩ h
    intro hNil
    exact hFront hNil hEmits.last_eq

theorem agrees_iff (bytes : List UInt8)
    : (∀ payload,
        unframeBytes .std (controlCharStx :: bytes ++ [controlCharEtx]) = some (.ok payload)
          ↔ EmitsAtEnd (controlCharStx :: bytes ++ [controlCharEtx]) payload)
        ↔
      isFrameBody bytes = true := by
  simp only [unframeBytes_eq_ok_iff]
  rcases exists_body (d := delimiters) bytes with ⟨body, hBody | hEscape | ⟨rest, hStop⟩⟩
  . rw [hBody, unstuff_symbols]
    constructor
    . intro _
      exact isBody_symbols body
    . intro _ payload
      exact (emitsAtEnd_body body).symm
  . rw [hEscape]
    constructor
    . intro hAgree
      exact absurd ((hAgree _).mp rfl) (not_emitsAtEnd_escape body)
    . intro hWhole
      rw [isFrameBody, isBody_escape] at hWhole
      contradiction
  . rw [hStop]
    constructor
    . intro hAgree
      exact absurd ((hAgree _).mp rfl) (not_emitsAtEnd_stop body)
    . intro hWhole
      rw [isFrameBody, isBody_stop] at hWhole
      contradiction

/--
The two decoders agree on a buffer that starts with STX if and only if it does not end in an ETX or what is
between the two is the body of a frame.
-/
theorem unframeBytes_agrees_iff (frame : List UInt8) (hStart : frame.head? = some controlCharStx)
    : (∀ payload, unframeBytes .std frame = some (.ok payload) ↔ EmitsAtEnd frame payload)
        ↔
      ∀ bytes, frame = controlCharStx :: bytes ++ [controlCharEtx] → isFrameBody bytes = true := by
  rcases List.eq_nil_or_concat frame with hNil | ⟨front, last, hFrame⟩
  . rw [hNil] at hStart
    contradiction
  . rw [List.concat_eq_append] at hFrame
    rw [hFrame] at hStart ⊢
    by_cases hEnds : last = controlCharEtx ∧ front ≠ []
    . rcases hEnds with ⟨hLast, hFront⟩
      rcases List.exists_cons_of_ne_nil hFront with ⟨first, bytes, hCons⟩
      rw [hCons, List.cons_append, List.head?_cons, Option.some.injEq] at hStart
      rw [hCons, hLast, hStart, agrees_iff]
      constructor
      . intro hBody other hEq
        rw [List.append_singleton_inj] at hEq
        injection hEq.left with _ hSame
        rw [← hSame]
        exact hBody
      . intro hAll
        exact hAll bytes rfl
    . have hNotEtx : front = [] → last ≠ controlCharEtx := by
        intro hNil hLast
        rw [hNil, hLast] at hStart
        simp at hStart
        contradiction
      constructor
      . intro _ bytes hEq
        rw [List.append_singleton_inj] at hEq
        refine absurd ⟨hEq.right, ?_⟩ hEnds
        rw [hEq.left]
        exact List.cons_ne_nil _ _
      . intro _ payload
        exact agrees_of_not_etx hEnds hNotEtx

theorem unframeBytes_agrees_escaped
    : unframeBytes .std [0x02, 0x10, 0x03, 0x03] = some (.ok [0x03])
        ∧
      EmitsAtEnd [0x02, 0x10, 0x03, 0x03] [0x03] := by
  have hBody (bytes : List UInt8) (hEq : [0x02, 0x10, 0x03, 0x03] = controlCharStx :: bytes ++ [controlCharEtx])
      : isFrameBody bytes = true := by
    have hBytes : bytes = [0x10, 0x03] := by
      injection hEq with _ hEq
      have hEq : [0x10, 0x03] ++ [0x03] = bytes ++ [0x03] := hEq
      exact (List.append_singleton_inj.mp hEq).left.symm
    rw [hBytes]
    rfl
  have hBatch : unframeBytes .std [0x02, 0x10, 0x03, 0x03] = some (.ok [0x03]) := by decide
  have hAgrees := (unframeBytes_agrees_iff [0x02, 0x10, 0x03, 0x03] rfl).mpr hBody [0x03]
  exact ⟨hBatch, hAgrees.mp hBatch⟩

/-
The ETX is behind a DLE: the parser is still inside of the frame.
-/
theorem not_unframeBytes_agrees
    : ¬ ∀ (frame : List UInt8) (payload : UsbDataBuffer), frame.head? = some controlCharStx →
        (unframeBytes .std frame = some (.ok payload) ↔ EmitsAtEnd frame payload) := by
  intro hAll
  rcases (hAll [0x02, 0x10, 0x03] [] rfl).mp rfl with ⟨stream, hEach⟩
  injection hEach with hEach
  injection hEach with _ hOutputs
  contradiction

end Serialization
end Enody
