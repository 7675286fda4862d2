import Enody.Serialization.Lemmas.Basic

/-!
This module relates the streaming parser to the reference decomposition of the byte stream: a
`MessageStream` is the unfinished piece at the end of what it has read.
-/

namespace Enody
namespace Serialization

open Stuffing

namespace MessageStream

/-
The parser state after a stream whose unfinished piece is `tail`.
-/
def ofTail : Tail delimiters → MessageStream
  | .done => ⟨[], false⟩
  | .openEscape => ⟨[], true⟩
  | .openFrame body cut => ⟨(Tail.openFrame body cut).symbols, cut⟩

@[simp]
theorem ofTail_done : ofTail .done = new := rfl

theorem pushByte_empty (build : Build) (isEscaped : Bool) (byte : UInt8)
    : pushByte build ⟨[], isEscaped⟩ byte
        =
      some (⟨if byte = controlCharStx ∧ ¬ isEscaped then [byte] else [],
        byte = controlCharDle ∧ ¬ isEscaped⟩, none) := by
  have hPush : bufferPush build [] byte = some [byte] := by
    apply bufferPush_of_fits
    cases build with
    | std => rfl
    | noStd => rfl
  unfold pushByte
  simp only [List.isEmpty_nil, ↓reduceIte, hPush]
  split <;> rfl

theorem pushByte_nonempty (build : Build) (buffer : UsbDataBuffer) (isEscaped : Bool) (byte : UInt8)
    (hBuffer : buffer ≠ []) (hFits : fits build (buffer.length + 1) = true)
    (hByte : ¬ (byte = controlCharEtx ∧ isEscaped = false))
    : pushByte build ⟨buffer, isEscaped⟩ byte
        =
      some (⟨buffer ++ [byte], byte = controlCharDle ∧ ¬ isEscaped⟩, none) := by
  unfold pushByte
  simp only [List.isEmpty_iff, hBuffer, ↓reduceIte]
  rw [push_of_fits _ hFits]
  simp only [Bool.not_eq_true, hByte, ↓reduceIte]

theorem pushByte_etx (build : Build) (body : List UInt8)
    (hFits : fits build (body.length + 2) = true)
    : pushByte build ⟨controlCharStx :: body, false⟩ controlCharEtx
        =
      some (new, some (unstuff delimiters false body)) := by
  unfold pushByte
  simp only [List.isEmpty_cons, Bool.false_eq_true, ↓reduceIte]
  rw [push_of_fits]
  . simp only [not_false_eq_true, and_self, ↓reduceIte, List.cons_append]
    rw [unframeBytes_delimited _ _ (fits_of_le (by omega) hFits)]
    rfl
  . simpa using hFits

theorem pushByte_ofTail (build : Build) (D : Decomposition delimiters) (byte : UInt8)
    (hFits : fits build (D.tail.symbols.length + 1) = true)
    : pushByte build (ofTail D.tail) byte = some (ofTail (D.push byte).tail, D.completed byte) := by
  rcases D with ⟨items, tail⟩
  cases tail with
  | done =>
    simp only [ofTail]
    rw [pushByte_empty]
    by_cases hStx : byte = delimiters.start
    . subst hStx
      rfl
    . by_cases hDle : byte = delimiters.escape
      . subst hDle
        rfl
      . have hStx' : ¬ byte = controlCharStx := hStx
        have hDle' : ¬ byte = controlCharDle := hDle
        simp [Decomposition.push, Decomposition.completed, Decomposition.snocItem, hStx, hDle,
          hStx', hDle']
  | openEscape =>
    simp only [ofTail]
    rw [pushByte_empty]
    simp [Decomposition.push, Decomposition.completed, Decomposition.snocItem]
  | openFrame body cut =>
    simp only [ofTail] at hFits ⊢
    have hBuffer : (Tail.openFrame body cut).symbols ≠ [] := by
      simp [Tail.symbols]
    cases cut with
    | true =>
      rw [pushByte_nonempty _ _ _ _ hBuffer hFits (by simp)]
      simp [Decomposition.push, Decomposition.completed, Tail.symbols]
    | false =>
      by_cases hEtx : byte = delimiters.stop
      . subst hEtx
        have hSymbols : (Tail.openFrame body false).symbols = controlCharStx :: symbols body := by
          simp [Tail.symbols, delimiters]
        have hEnd := pushByte_etx build (symbols body) (by simpa [hSymbols] using hFits)
        rw [Decomposition.push_stop]
        rw [hSymbols]
        rw [unstuff_symbols] at hEnd
        simp only [Decomposition.completed, ↓reduceIte]
        exact hEnd
      . have hEtx' : ¬ (byte = controlCharEtx ∧ false = false) := by
          intro h
          exact hEtx h.left
        rw [pushByte_nonempty _ _ _ _ hBuffer hFits hEtx']
        by_cases hDle : byte = delimiters.escape
        . subst hDle
          simp [Decomposition.push, Decomposition.completed, Tail.symbols, hEtx]
          rfl
        . have hDle' : ¬ byte = controlCharDle := hDle
          simp [Decomposition.push, Decomposition.completed, Tail.symbols, hEtx, hDle,
            hDle']

theorem pushEach_ofTail (build : Build) (bytes : List UInt8) (D : Decomposition delimiters)
    (hFits : fits build (D.tail.symbols.length + bytes.length) = true)
    : pushEach build (ofTail D.tail) bytes
        =
      some (ofTail (bytes.foldl Decomposition.push D).tail, D.completions bytes) := by
  induction bytes generalizing D with
  | nil => simp [pushEach, Decomposition.completions]
  | cons byte bytes ih =>
    rw [List.length_cons] at hFits
    have hTail := D.length_tail_push_le byte
    unfold pushEach
    rw [pushByte_ofTail _ _ _ (fits_of_le (by omega) hFits)]
    simp only [Option.bind_eq_bind, Option.bind_some]
    rw [ih _ (fits_of_le (by omega) hFits)]
    simp [Decomposition.completions]

theorem pushEach_append (build : Build) (stream : MessageStream) (xs ys : List UInt8)
    : pushEach build stream (xs ++ ys)
        =
      (pushEach build stream xs).bind fun (stream, outputs) =>
        (pushEach build stream ys).map fun (stream, more) => (stream, outputs ++ more) := by
  induction xs generalizing stream with
  | nil =>
    simp only [List.nil_append, pushEach, Option.bind_some]
    cases pushEach build stream ys <;> rfl
  | cons x xs ih =>
    simp only [List.cons_append, pushEach, Option.bind_eq_bind]
    cases pushByte build stream x with
    | none => rfl
    | some res =>
      simp only [Option.bind_some]
      rw [ih]
      cases pushEach build res.1 xs with
      | none => rfl
      | some res =>
        simp only [Option.bind_some]
        cases pushEach build res.1 ys <;> rfl

theorem pushEach_append_of_eq {build : Build} {stream stream' stream'' : MessageStream}
    {xs ys : List UInt8} {outputs more : List (Option UsbDataBuffer)}
    (hx : pushEach build stream xs = some (stream', outputs))
    (hy : pushEach build stream' ys = some (stream'', more))
    : pushEach build stream (xs ++ ys) = some (stream'', outputs ++ more) := by
  rw [pushEach_append]
  simp [hx, hy]

theorem pushBytes_of_pushEach {build : Build} {stream stream' : MessageStream}
    {bytes : List UInt8} {outputs : List (Option UsbDataBuffer)}
    (h : pushEach build stream bytes = some (stream', outputs))
    : pushBytes build stream bytes = some (stream', outputs.filterMap id) := by
  simp [pushBytes, h]

theorem pushChunks_eq_pushBytes (build : Build) (stream : MessageStream)
    (chunks : List (List UInt8))
    : pushChunks build stream chunks = pushBytes build stream chunks.flatten := by
  induction chunks generalizing stream with
  | nil => rfl
  | cons chunk chunks ih =>
    unfold pushChunks
    rw [List.flatten_cons]
    simp only [pushBytes, Option.bind_eq_bind]
    rw [pushEach_append]
    cases pushEach build stream chunk with
    | none => rfl
    | some res =>
      simp only [Option.bind_some]
      rw [ih]
      unfold pushBytes
      cases pushEach build res.1 chunks.flatten with
      | none => rfl
      | some res => simp

theorem pushEach_item (build : Build) (item : Item delimiters)
    (hFits : fits build item.symbols.length = true)
    : pushEach build new item.symbols = some (new, item.outputs) := by
  have h := pushEach_ofTail build item.symbols ⟨[], .done⟩ (by simpa [Tail.symbols] using hFits)
  rw [Decomposition.foldl_push_item] at h
  rw [Decomposition.completions_item] at h
  simpa using h

theorem pushEach_items (build : Build) (items : List (Item delimiters))
    (hFits : ∀ item ∈ items, fits build item.symbols.length = true)
    : pushEach build new (items.flatMap Item.symbols)
        =
      some (new, items.flatMap Item.outputs) := by
  induction items with
  | nil => rfl
  | cons item items ih =>
    have hItem := pushEach_item build item (hFits item (by simp))
    have hItems := ih (fun other hOther => hFits other (by simp [hOther]))
    exact pushEach_append_of_eq hItem hItems

theorem pushEach_std (bytes : List UInt8)
    : pushEach .std new bytes
        =
      some (ofTail (Decomposition.decompose bytes).tail,
        (Decomposition.decompose bytes : Decomposition delimiters).outputs) := by
  have h := pushEach_ofTail .std bytes Decomposition.empty (by simp)
  have hOutputs := Decomposition.outputs_foldl_push (Decomposition.empty (d := delimiters)) bytes
  unfold Decomposition.decompose
  rw [hOutputs]
  exact h

end MessageStream
end Serialization
end Enody
