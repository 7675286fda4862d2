import Enody.Serialization.Lemmas.Stream

/-!
This module contains what the framing guarantees on whole byte streams: frames separated by gaps are
recovered without loss, the parser accepts exactly the frames of the reference decomposition, and it
synchronises again after arbitrary damage at the cost of at most one frame.
-/

namespace Enody
namespace Serialization

open Stuffing

abbrev GapToken := Token delimiters delimiters.start

/-
The byte stream in which each payload is framed and followed by its own gap.
-/
def gappedFrames (build : Build) (gap : List GapToken)
    : List (List UInt8 × List GapToken) → Option (List UInt8)
  | [] => some (symbols gap)
  | (payload, nextGap) :: frames => do
    let frame ← frameBytes build payload
    let stream ← gappedFrames build nextGap frames
    some (symbols gap ++ frame ++ stream)

def concatFrames (build : Build) : List (List UInt8) → Option (List UInt8)
  | [] => some []
  | payload :: payloads => do
    let frame ← frameBytes build payload
    let stream ← concatFrames build payloads
    some (frame ++ stream)

def gapItems (gap : List GapToken) : List (Item delimiters) :=
  gap.map Item.gap

def frameItem (payload : List UInt8) : Item delimiters :=
  .frame (stuff delimiters payload)

def gappedItems (gap : List GapToken) : List (List UInt8 × List GapToken) → List (Item delimiters)
  | [] => gapItems gap
  | (payload, nextGap) :: frames => gapItems gap ++ frameItem payload :: gappedItems nextGap frames

theorem flatMap_gapItems (gap : List GapToken)
    : (gapItems gap).flatMap Item.symbols = symbols gap := by
  simp only [gapItems, List.flatMap_map]
  rfl

theorem payloads_gapItems (gap : List GapToken)
    : (gapItems gap).filterMap Item.payload? = [] := by
  simp [gapItems, Item.payload?]

theorem payload?_frameItem (payload : List UInt8) : (frameItem payload).payload? = some payload := by
  simp [frameItem, Item.payload?]

theorem payloads_gappedItems (gap : List GapToken) (frames : List (List UInt8 × List GapToken))
    : (gappedItems gap frames).filterMap Item.payload? = frames.map Prod.fst := by
  induction frames generalizing gap with
  | nil => apply payloads_gapItems
  | cons frame frames ih =>
    unfold gappedItems
    rw [List.filterMap_append]
    rw [payloads_gapItems]
    simp [payload?_frameItem, ih]

theorem filterMap_outputs (items : List (Item delimiters))
    : (items.flatMap Item.outputs).filterMap id = items.filterMap Item.payload? := by
  have h := Decomposition.reduceOption_outputs (⟨items, .done⟩ : Decomposition delimiters)
  simpa [Decomposition.outputs, Decomposition.payloads, Tail.outputs, Tail.symbols] using h

theorem gappedFrames_eq (build : Build) (gap : List GapToken)
    (frames : List (List UInt8 × List GapToken))
    (hFits : ∀ frame ∈ frames, fits build (framed frame.1).length = true)
    : gappedFrames build gap frames = some ((gappedItems gap frames).flatMap Item.symbols) := by
  induction frames generalizing gap with
  | nil =>
    unfold gappedFrames gappedItems
    rw [flatMap_gapItems]
  | cons frame frames ih =>
    unfold gappedFrames gappedItems
    rw [frameBytes_eq _ _ (hFits frame (by simp))]
    rw [ih]
    . rw [List.flatMap_append, List.flatMap_cons]
      rw [flatMap_gapItems]
      simp [framed, frameItem]
    . intro other hOther
      apply hFits
      simp [hOther]

theorem fits_gapItem (build : Build) (token : GapToken)
    : fits build (Item.gap token).symbols.length = true := by
  have hTwo : fits build 2 = true := by
    cases build with
    | std => rfl
    | noStd => rfl
  apply fits_of_le _ hTwo
  cases token with
  | plain => simp [Item.symbols]
  | escaped => simp [Item.symbols]

theorem fits_gappedItems (build : Build) (gap : List GapToken)
    (frames : List (List UInt8 × List GapToken))
    (hFits : ∀ frame ∈ frames, fits build (framed frame.1).length = true)
    : ∀ item ∈ gappedItems gap frames, fits build item.symbols.length = true := by
  induction frames generalizing gap with
  | nil =>
    intro item hItem
    simp only [gappedItems, gapItems, List.mem_map] at hItem
    rcases hItem with ⟨token, _, hToken⟩
    rw [← hToken]
    apply fits_gapItem
  | cons frame frames ih =>
    intro item hItem
    simp only [gappedItems, gapItems, List.mem_append, List.mem_map, List.mem_cons] at hItem
    rcases hItem with ⟨token, _, hToken⟩ | hFrame | hRest
    . rw [← hToken]
      apply fits_gapItem
    . rw [hFrame]
      exact hFits frame (by simp)
    . apply ih frame.2
      . intro other hOther
        apply hFits
        simp [hOther]
      . exact hRest

/--
The buffer of the `no_std` build has to hold each frame, gaps and the number of frames are free.
-/
theorem pushChunks_gappedFrames (build : Build) (gap : List GapToken)
    (frames : List (List UInt8 × List GapToken))
    (hFits : build = .noStd → ∀ frame ∈ frames, ∀ bytes,
      frameBytes .std frame.1 = some bytes → bytes.length ≤ 512)
    : ∃ stream,
        gappedFrames build gap frames = some stream
          ∧
        ∀ chunks : List (List UInt8),
          chunks.flatten = stream
            →
          MessageStream.pushChunks build .new chunks = some (.new, frames.map Prod.fst) := by
  have hFramed : ∀ frame ∈ frames, fits build (framed frame.1).length = true := by
    intro frame hFrame
    cases build with
    | std => rfl
    | noStd =>
      rw [fits_noStd]
      simpa using hFits rfl frame hFrame _ (frameBytes_std frame.1)
  refine ⟨_, gappedFrames_eq build gap frames hFramed, ?_⟩
  intro chunks hChunks
  rw [MessageStream.pushChunks_eq_pushBytes]
  rw [hChunks]
  have hEach := MessageStream.pushEach_items build _ (fits_gappedItems build gap frames hFramed)
  rw [MessageStream.pushBytes_of_pushEach hEach]
  rw [filterMap_outputs]
  rw [payloads_gappedItems]

theorem pushChunks_gappedFrames_noStd
    : ∃ stream,
        gappedFrames .noStd [.escaped 0x02] [([0x10, 0x03], [.escaped 0x10]), ([], [])] = some stream
          ∧
        ∀ chunks : List (List UInt8),
          chunks.flatten = stream
            →
          MessageStream.pushChunks .noStd .new chunks = some (.new, [[0x10, 0x03], []]) := by
  apply pushChunks_gappedFrames .noStd [.escaped 0x02] [([0x10, 0x03], [.escaped 0x10]), ([], [])]
  intro _ frame hFrame bytes hBytes
  rw [frameBytes_std] at hBytes
  injection hBytes with hBytes
  subst hBytes
  simp only [List.mem_cons, List.not_mem_nil, or_false] at hFrame
  rcases hFrame with rfl | rfl
  . decide
  . decide

theorem unframeBytes_ofTail (body : List (Token delimiters delimiters.stop))
    : unframeBytes .std ((Tail.openFrame body false).symbols ++ [controlCharEtx])
        =
      some (.ok (values body)) := by
  have h := unframeBytes_delimited .std (symbols body) rfl
  rw [unstuff_symbols] at h
  simpa [Tail.symbols, delimiters] using h

/--
The reference decomposition exists and is unique for every byte sequence. The parser emits the
payload of each complete frame at its ETX and nothing else, and at no ETX that ends a frame does
`unframe_bytes` fail.
-/
theorem pushEach_eq_outputs (bytes : List UInt8)
    : ∃ D : Decomposition delimiters,
        D.symbols = bytes
          ∧
        (∀ D' : Decomposition delimiters, D'.symbols = bytes → D' = D)
          ∧
        (∃ stream,
          MessageStream.pushEach .std .new bytes = some (stream, D.outputs)
            ∧
          MessageStream.pushBytes .std .new bytes = some (stream, D.payloads))
          ∧
        ∀ (before after : List UInt8) (stream : MessageStream)
          (outputs : List (Option UsbDataBuffer)),
            bytes = before ++ controlCharEtx :: after
              →
            MessageStream.pushEach .std .new before = some (stream, outputs)
              →
            stream.buffer ≠ []
              →
            stream.isEscaped = false
              →
            ∃ payload,
              unframeBytes .std (stream.buffer ++ [controlCharEtx]) = some (.ok payload) := by
  refine ⟨Decomposition.decompose bytes, by simp, ?_, ?_, ?_⟩
  . intro D' hD'
    exact (Decomposition.symbols_eq_iff D' bytes).mp hD'
  . refine ⟨_, MessageStream.pushEach_std bytes, ?_⟩
    rw [MessageStream.pushBytes_of_pushEach (MessageStream.pushEach_std bytes)]
    rw [Decomposition.reduceOption_outputs]
  . intro before after stream outputs _ hBefore hBuffer hEscaped
    rw [MessageStream.pushEach_std] at hBefore
    injection hBefore with hBefore
    injection hBefore with hStream _
    subst hStream
    -- Only an open frame without a pending escape has a buffer and no escape flag.
    generalize hTail : (Decomposition.decompose before : Decomposition delimiters).tail = tail at *
    cases tail with
    | done => exact absurd rfl hBuffer
    | openEscape => exact absurd rfl hBuffer
    | openFrame body cut =>
      simp only [MessageStream.ofTail] at hEscaped ⊢
      subst hEscaped
      exact ⟨_, unframeBytes_ofTail body⟩

namespace MessageStream

theorem pushEach_cons_of_eq {build : Build} {stream stream' stream'' : MessageStream} {byte : UInt8}
    {bytes : List UInt8} {output : Option UsbDataBuffer} {outputs : List (Option UsbDataBuffer)}
    (hByte : pushByte build stream byte = some (stream', output))
    (hBytes : pushEach build stream' bytes = some (stream'', outputs))
    : pushEach build stream (byte :: bytes) = some (stream'', output :: outputs) := by
  simp [pushEach, hByte, hBytes]

theorem pushEach_stuff (payload : List UInt8) (buffer : UsbDataBuffer) (hBuffer : buffer ≠ [])
    : pushEach .std ⟨buffer, false⟩ (symbols (stuff delimiters payload))
        =
      some (⟨buffer ++ symbols (stuff delimiters payload), false⟩,
        (symbols (stuff delimiters payload)).map fun _ => none) := by
  induction payload generalizing buffer with
  | nil => simp [stuff, pushEach]
  | cons byte payload ih =>
    rw [symbols_stuff_cons]
    rw [List.map_append]
    have hOne : pushEach .std ⟨buffer, false⟩ (stuffOne delimiters byte).symbols
        = some (⟨buffer ++ (stuffOne delimiters byte).symbols, false⟩,
          (stuffOne delimiters byte).symbols.map fun _ => none) := by
      by_cases hControl :
          byte = delimiters.start ∨ byte = delimiters.stop ∨ byte = delimiters.escape
      . rw [stuffOne_of_control hControl]
        have hDle := pushByte_nonempty .std buffer false controlCharDle hBuffer rfl (by decide)
        have hByte := pushByte_nonempty .std (buffer ++ [controlCharDle]) true byte (by simp) rfl
          (by simp)
        simp only [Token.symbols_escaped]
        apply pushEach_cons_of_eq hDle
        apply pushEach_cons_of_eq hByte
        simp [pushEach, delimiters]
      . rw [stuffOne_of_not_control hControl]
        have hEtx : ¬ byte = controlCharEtx := by
          intro h
          exact hControl (Or.inr (Or.inl h))
        have hDle : ¬ byte = controlCharDle := by
          intro h
          exact hControl (Or.inr (Or.inr h))
        apply pushEach_cons_of_eq
          (pushByte_nonempty .std buffer false byte hBuffer rfl (by simp [hEtx]))
        simp [pushEach, hDle]
    -- the buffer grows, so the hypothesis is about the longer buffer
    have hRest := ih (buffer ++ (stuffOne delimiters byte).symbols) (by simp [hBuffer])
    have hAll := pushEach_append_of_eq hOne hRest
    simpa using hAll

theorem foldl_push_stuff (payload : List UInt8) (items : List (Item delimiters))
    : ∃ gap : List GapToken,
        (symbols (stuff delimiters payload)).foldl Decomposition.push ⟨items, .done⟩
          =
        ⟨items ++ gapItems gap, .done⟩ := by
  induction payload generalizing items with
  | nil => exact ⟨[], by simp [stuff, gapItems]⟩
  | cons byte payload ih =>
    have hOne : ∃ token : GapToken, (stuffOne delimiters byte).symbols = token.symbols := by
      by_cases hControl :
          byte = delimiters.start ∨ byte = delimiters.stop ∨ byte = delimiters.escape
      . refine ⟨.escaped byte, ?_⟩
        rw [stuffOne_of_control hControl]
        rfl
      . refine ⟨.plain byte ?_ ?_, ?_⟩
        . intro h
          exact hControl (Or.inl h)
        . intro h
          exact hControl (Or.inr (Or.inr h))
        . rw [stuffOne_of_not_control hControl]
          rfl
    rcases hOne with ⟨token, hToken⟩
    rcases ih (items ++ [.gap token]) with ⟨gap, hGap⟩
    refine ⟨token :: gap, ?_⟩
    rw [symbols_stuff_cons, hToken]
    rw [List.foldl_append]
    have hItem := Decomposition.foldl_push_item items (.gap token)
    unfold Item.symbols at hItem
    rw [hItem]
    rw [hGap]
    simp [gapItems]

theorem unframeBytes_std (frame : List UInt8) : ∃ result, unframeBytes .std frame = some result := by
  unfold unframeBytes
  split
  . exact ⟨_, rfl⟩
  . split
    . exact ⟨_, rfl⟩
    . rw [unescapeBytes_eq _ _ rfl]
      exact ⟨_, rfl⟩

theorem pushByte_etx_any (buffer : UsbDataBuffer) (hBuffer : buffer ≠ [])
    : ∃ output, pushByte .std ⟨buffer, false⟩ controlCharEtx = some (new, output) := by
  rcases unframeBytes_std (buffer ++ [controlCharEtx]) with ⟨result, hResult⟩
  refine ⟨result.toOption, ?_⟩
  unfold pushByte
  simp only [List.isEmpty_iff, hBuffer, ↓reduceIte]
  rw [push_of_fits _ rfl]
  simp [hResult, new]

theorem pushBytes_framed_nonempty (payload : List UInt8) (buffer : UsbDataBuffer) (isEscaped : Bool)
    (hBuffer : buffer ≠ [])
    : ∃ emitted,
        pushBytes .std ⟨buffer, isEscaped⟩ (framed payload) = some (new, emitted)
          ∧
        emitted.length ≤ 1 := by
  have hStx := pushByte_nonempty .std buffer isEscaped controlCharStx hBuffer rfl
    (by simp [controlCharStx, controlCharEtx])
  have hBody := pushEach_stuff payload (buffer ++ [controlCharStx]) (by simp)
  have hEtx := pushByte_etx_any (buffer ++ [controlCharStx] ++ symbols (stuff delimiters payload))
    (by simp)
  rcases hEtx with ⟨output, hEtx⟩
  have hNil : pushEach .std new [] = some (new, []) := rfl
  have hEnd := pushEach_cons_of_eq hEtx hNil
  have hFrame := pushEach_cons_of_eq hStx (pushEach_append_of_eq hBody hEnd)
  have hBytes := pushBytes_of_pushEach hFrame
  refine ⟨_, hBytes, ?_⟩
  cases output with
  | none => simp
  | some payload => simp

theorem pushBytes_framed_openEscape (payload : List UInt8)
    : pushBytes .std ⟨[], true⟩ (framed payload) = some (new, []) := by
  have hEach := pushEach_ofTail .std (framed payload) ⟨[], .openEscape⟩ rfl
  have hFold : ∃ gap : List GapToken,
      (framed payload).foldl Decomposition.push ⟨[], .openEscape⟩ = ⟨gapItems gap, .done⟩ := by
    rcases foldl_push_stuff payload (gapItems [.escaped controlCharStx]) with ⟨gap, hGap⟩
    refine ⟨[.escaped controlCharStx] ++ gap ++ [.plain controlCharEtx (by decide) (by decide)], ?_⟩
    unfold framed Item.symbols
    rw [List.foldl_cons, List.foldl_append]
    have hStx : (⟨[], .openEscape⟩ : Decomposition delimiters).push delimiters.start
        = ⟨gapItems [.escaped controlCharStx], .done⟩ := rfl
    rw [hStx]
    rw [hGap]
    have hEtx : [delimiters.stop].foldl Decomposition.push
        ⟨gapItems [.escaped controlCharStx] ++ gapItems gap, .done⟩
          = ⟨gapItems [.escaped controlCharStx] ++ gapItems gap
              ++ [.gap (.plain controlCharEtx (by decide) (by decide))], .done⟩ := by
      exact Decomposition.foldl_push_item _ (.gap (.plain controlCharEtx (by decide) (by decide)))
    rw [hEtx]
    simp [gapItems]
  rcases hFold with ⟨gap, hGap⟩
  have hOutputs := Decomposition.outputs_foldl_push
    (⟨[], .openEscape⟩ : Decomposition delimiters) (framed payload)
  have hNone := Decomposition.reduceOption_outputs (⟨gapItems gap, .done⟩ : Decomposition delimiters)
  rw [hGap] at hOutputs hEach
  rw [hOutputs] at hNone
  have hBytes := pushBytes_of_pushEach hEach
  simp only [Decomposition.payloads, payloads_gapItems, List.filterMap_append] at hNone
  rw [(List.append_eq_nil_iff.mp hNone).right] at hBytes
  exact hBytes

theorem pushBytes_new_framed (build : Build) (payload : List UInt8)
    (hFits : fits build (framed payload).length = true)
    : pushBytes build new (framed payload) = some (new, [payload]) := by
  have hBytes := pushBytes_of_pushEach (pushEach_item build (frameItem payload) hFits)
  have hOutputs := filterMap_outputs [frameItem payload]
  simp only [List.flatMap_cons, List.flatMap_nil, List.append_nil] at hOutputs
  rw [hOutputs] at hBytes
  simp only [List.filterMap_cons, payload?_frameItem, List.filterMap_nil] at hBytes
  exact hBytes

theorem pushBytes_framed_any (stream : MessageStream) (payload : List UInt8)
    : ∃ emitted,
        pushBytes .std stream (framed payload) = some (new, emitted)
          ∧
        emitted.length ≤ 1 := by
  rcases stream with ⟨buffer, isEscaped⟩
  by_cases hBuffer : buffer = []
  . subst hBuffer
    cases isEscaped with
    | true => exact ⟨[], pushBytes_framed_openEscape payload, by simp⟩
    | false =>
      exact ⟨[payload], pushBytes_new_framed .std payload rfl, by simp⟩
  . exact pushBytes_framed_nonempty payload buffer isEscaped hBuffer

end MessageStream

theorem concatFrames_eq (payloads : List (List UInt8))
    : concatFrames .std payloads = some ((payloads.map frameItem).flatMap Item.symbols) := by
  induction payloads with
  | nil => rfl
  | cons payload payloads ih =>
    unfold concatFrames
    rw [frameBytes_std, ih]
    rfl

theorem pushBytes_concatFrames (payloads : List (List UInt8))
    : MessageStream.pushBytes .std .new ((payloads.map frameItem).flatMap Item.symbols)
        =
      some (.new, payloads) := by
  have hEach := MessageStream.pushEach_items .std (payloads.map frameItem) (fun _ _ => rfl)
  rw [MessageStream.pushBytes_of_pushEach hEach]
  rw [filterMap_outputs]
  have hPayloads : (payloads.map frameItem).filterMap Item.payload? = payloads := by
    rw [List.filterMap_map]
    have hSome : Item.payload? ∘ frameItem = some := by
      funext payload
      apply payload?_frameItem
    rw [hSome]
    simp
  rw [hPayloads]

theorem pushBytes_append_of_eq {build : Build} {stream stream' stream'' : MessageStream}
    {xs ys : List UInt8} {payloads more : List UsbDataBuffer}
    (hx : stream.pushBytes build xs = some (stream', payloads))
    (hy : stream'.pushBytes build ys = some (stream'', more))
    : stream.pushBytes build (xs ++ ys) = some (stream'', payloads ++ more) := by
  have h := MessageStream.pushChunks_eq_pushBytes build stream [xs, ys]
  simp only [List.flatten_cons, List.flatten_nil, List.append_nil] at h
  rw [← h]
  simp [MessageStream.pushChunks, hx, hy]

/--
The start state is arbitrary, also one that no input leads to.
-/
theorem pushBytes_resynchronizes (stream : MessageStream) (payload : List UInt8)
    (payloads : List (List UInt8))
    : ∃ first rest emitted,
        frameBytes .std payload = some first
          ∧
        concatFrames .std payloads = some rest
          ∧
        stream.pushBytes .std first = some (.new, emitted)
          ∧
        emitted.length ≤ 1
          ∧
        MessageStream.new.pushBytes .std rest = some (.new, payloads)
          ∧
        stream.pushBytes .std (first ++ rest) = some (.new, emitted ++ payloads) := by
  rcases MessageStream.pushBytes_framed_any stream payload with ⟨emitted, hFirst, hEmitted⟩
  have hRest := pushBytes_concatFrames payloads
  refine ⟨_, _, emitted, frameBytes_std payload, concatFrames_eq payloads, hFirst, hEmitted, hRest, ?_⟩
  exact pushBytes_append_of_eq hFirst hRest

end Serialization
end Enody
