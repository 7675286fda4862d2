import Enody.Emitter.Lemmas.SpectralData

/-!
This module contains the download from a device that answers with its count and with exactly the samples that
it is asked for.
-/

namespace Enody
namespace Emitter

open Message SpectralDownload

/--
The samples of an emitter and how it answers. An answer may depend on all messages so far, of which the one
that is answered is the last.
-/
structure ConformingDevice (emitterId : Identifier) where
  samples : List SpectralSample
  count : UInt32
  length_samples : samples.length = count.toNat
  answer : List CommandMessage → EventMessage .std
  sampleCount : ∀ before message, message.resource = some emitterId →
    message.command = .emitter (.spectralData .sampleCount) →
    Emitter.sampleCount (answer (before ++ [message])).event = some count
  sampleBatch : ∀ before message start stop, message.resource = some emitterId →
    message.command = .emitter (.spectralData (.sampleBatch start stop)) →
    start ≤ stop → stop ≤ count → stop.toNat ≤ start.toNat + spectralSampleBatchSize →
    ∃ batch, Emitter.sampleBatch (answer (before ++ [message])).event = some batch
      ∧ batch.items = (samples.take stop.toNat).drop start.toNat

namespace ConformingDevice

def eventOf (samples : List SpectralSample) (message : CommandMessage) : Event .std :=
  match message.command with
  | .emitter (.spectralData .sampleCount) =>
    .emitter (.spectralData (.sampleCount (UInt32.ofNat samples.length)))
  | .emitter (.spectralData (.sampleBatch start stop)) =>
    match HVec.fromSlice ((samples.take stop.toNat).drop start.toNat) with
    | none => .error .argument
    | some batch => .emitter (.spectralData (.sampleBatch batch))
  | _ => .error .unsupported

def ofSamples (emitterId : Identifier) (samples : List SpectralSample) (hLength : samples.length < 2 ^ 32)
    : ConformingDevice emitterId where
  samples := samples
  count := UInt32.ofNat samples.length
  length_samples := (UInt32.toNat_ofNat_of_lt' hLength).symm
  answer sent := ⟨0, sent.getLast?.map CommandMessage.identifier, some emitterId,
    (sent.getLast?.map (eventOf samples)).getD .internal⟩
  sampleCount before message hResource hCommand := by
    simp [eventOf, hCommand, Emitter.sampleCount]
  sampleBatch before message start stop hResource hCommand hOrder hWithin hSize := by
    have hFits : ((samples.take stop.toNat).drop start.toNat).length ≤ spectralSampleBatchSize := by
      rw [List.length_drop, List.length_take]
      omega
    refine ⟨⟨_, hFits⟩, ?_, rfl⟩
    simp only [eventOf, hCommand, HVec.fromSlice, hFits, dif_pos, Emitter.sampleBatch, List.getLast?_concat,
      Option.map_some, Option.getD_some]

variable {checks : Bool} {emitterId : Identifier} {uuids : Nat → Identifier}
  {device : ConformingDevice emitterId} {n : Nat}

def call (device : ConformingDevice emitterId) : Nat → List CommandMessage → Runtime.CommandResult :=
  fun _ sent => .ok (device.answer sent)

def batches (device : ConformingDevice emitterId) (checks : Bool) (uuids : Nat → Identifier)
    : Nat → Runtime.CommandResult :=
  fun n => resultAt checks emitterId uuids device.call (n + 1)

theorem batches_eq (n : Nat)
    : device.batches checks uuids n
        = .ok (device.answer (after checks emitterId uuids device.call (n + 1)).sent) := rfl

theorem counted (device : ConformingDevice emitterId) (checks : Bool) (uuids : Nat → Identifier)
    : Counted checks emitterId uuids device.call device.count (device.batches checks uuids) := by
  constructor
  . exact ⟨_, rfl, device.sampleCount [] _ rfl rfl⟩
  . intro n
    rfl

theorem samplesOf_batches (hRegular : Regular device.count (n + 1))
    (hFine : ¬ Fails (device.batches checks uuids) n)
    : samplesOf (device.batches checks uuids n)
        = some ((device.samples.take ((n + 1) * 32)).drop (n * 32)) := by
  have hBefore := lt_batchCount_iff.mp hRegular.1
  have hOffset := toNat_offsets (hRegular.mono (Nat.le_succ n))
  have hStop := toNat_offsets hRegular
  rcases exists_collecting (device.counted checks uuids) (running_of_regular checks hRegular) hFine
    with ⟨samples, hPhase⟩
  have hOrder : offsets device.count n ≤ offsets device.count (n + 1) := by
    rw [UInt32.le_iff_toNat_le, hOffset, hStop]
    omega
  have hWithin : offsets device.count (n + 1) ≤ device.count := by
    rw [UInt32.le_iff_toNat_le, hStop]
    omega
  have hSize : (offsets device.count (n + 1)).toNat
      ≤ (offsets device.count n).toNat + spectralSampleBatchSize := by
    rw [hOffset, hStop]
    unfold spectralSampleBatchSize
    omega
  rcases device.sampleBatch (messages emitterId uuids (commands device.count n))
    (.root (uuids (n + 1)) (.emitter (.spectralData (.sampleBatch (offsets device.count n)
      (offsets device.count (n + 1))))) (some emitterId)) _ _ rfl rfl hOrder hWithin hSize
    with ⟨batch, hBatch, hItems⟩
  have hCut : device.samples.take (min device.count.toNat ((n + 1) * 32))
      = device.samples.take ((n + 1) * 32) := by
    rw [List.take_eq_take_iff, device.length_samples]
    omega
  rw [hOffset, hStop, Nat.min_eq_right (Nat.le_of_lt hBefore), hCut] at hItems
  rw [batches_eq, hPhase, commands_succ, messages_snoc, length_commands]
  simp only [samplesOf, hBatch, Option.map_some, hItems]

theorem samplesUpTo_batches (checks : Bool) (uuids : Nat → Identifier) (hRegular : Regular device.count n)
    (hFits : min device.count.toNat (n * 32) ≤ defaultSampleCount)
    : ¬ Fails (device.batches checks uuids) n
        ∧ samplesUpTo (device.batches checks uuids) n = device.samples.take (n * 32) := by
  induction n with
  | zero =>
    refine ⟨?_, rfl⟩
    rintro ⟨i, hLt, _⟩
    contradiction
  | succ n ih =>
    rcases ih (hRegular.mono (Nat.le_succ n)) (by omega) with ⟨hFine, hBefore⟩
    have hBatch := samplesOf_batches hRegular hFine
    have hAll : samplesUpTo (device.batches checks uuids) (n + 1) = device.samples.take ((n + 1) * 32) := by
      have hPart : device.samples.take (n * 32) = (device.samples.take ((n + 1) * 32)).take (n * 32) := by
        rw [List.take_take, Nat.min_eq_left (Nat.mul_le_mul_right 32 (Nat.le_succ n))]
      rw [samplesUpTo_succ, hBefore, hBatch, Option.getD_some, hPart, List.take_append_drop]
    refine ⟨?_, hAll⟩
    rintro ⟨i, hLt, hFails⟩
    rcases Nat.lt_succ_iff_lt_or_eq.mp hLt with hEarlier | hLast
    . exact hFine ⟨i, hEarlier, hFails⟩
    . subst hLast
      rcases hFails with hNone | hTooMany
      . rw [hBatch] at hNone
        simp only [reduceCtorEq] at hNone
      . rw [hAll, List.length_take, device.length_samples] at hTooMany
        omega

theorem collected_of_tooMany (checks : Bool) (uuids : Nat → Identifier)
    (hLarge : defaultSampleCount < device.count.toNat)
    : ∃ samples, collected (device.batches checks uuids) 12 = .ok samples
        ∧ collected (device.batches checks uuids) 13 = .error .insufficientData := by
  unfold defaultSampleCount at hLarge
  have hRegular : Regular device.count 13 := by
    unfold Regular overflowBatch batchCount
    omega
  have hFits : min device.count.toNat (12 * 32) ≤ defaultSampleCount := by
    unfold defaultSampleCount
    omega
  rcases samplesUpTo_batches checks uuids (hRegular.mono (Nat.le_succ 12)) hFits
    with ⟨hFine, hBefore⟩
  have hBatch := samplesOf_batches hRegular hFine
  rcases exists_collected hFine with ⟨samples, hSamples, hItems⟩
  refine ⟨samples, hSamples, ?_⟩
  unfold collected
  rw [hSamples]
  simp only
  rcases collect_spec samples (device.batches checks uuids 12)
    with ⟨batch, all, hSome, _, hSame⟩ | ⟨error, hError, hNone | ⟨batch, _, hInsufficient, _⟩⟩
  . have hRoom := all.fits
    rw [hBatch] at hSome
    injection hSome with hSome
    rw [hSame, ← hSome, hItems, hBefore, List.length_append, List.length_drop, List.length_take,
      List.length_take, device.length_samples] at hRoom
    unfold defaultSampleCount at hRoom
    omega
  . rw [hBatch] at hNone
    simp only [reduceCtorEq] at hNone
  . rw [hError, hInsufficient]

/-
The ranges that are asked for: all of them, or those up to the one that does not fit.
-/
def ranges (device : ConformingDevice emitterId) : List (UInt32 × UInt32) :=
  (List.range (min (batchCount device.count) 13)).map fun i =>
    (offsets device.count i, offsets device.count (i + 1))

theorem regular_ranges (device : ConformingDevice emitterId)
    : Regular device.count (min (batchCount device.count) 13) := by
  unfold Regular overflowBatch
  omega

theorem consecutive_ranges (device : ConformingDevice emitterId)
    : Span.Consecutive spectralSampleBatchSize 0 (min device.count.toNat 416)
        (device.ranges.map fun range => (range.1.toNat, range.2.toNat)) := by
  have hReach (i : Nat) (hLt : i < min (batchCount device.count) 13) : i * 32 < device.count.toNat :=
    lt_batchCount_iff.mp (by omega)
  have hSplit : (device.ranges.map fun range => (range.1.toNat, range.2.toNat))
      = Span.split 32 device.count.toNat (min (batchCount device.count) 13) := by
    unfold ranges Span.split
    rw [List.map_map]
    apply List.map_congr_left
    intro i hMem
    have hLt := List.mem_range.mp hMem
    simp only [Function.comp_apply, toNat_offsets (device.regular_ranges.mono (Nat.le_of_lt hLt)),
      toNat_offsets (device.regular_ranges.mono hLt)]
  have hEnd : min device.count.toNat (min (batchCount device.count) 13 * 32) = min device.count.toNat 416 := by
    unfold batchCount
    omega
  rw [hSplit, ← hEnd]
  exact Span.consecutive_split (by decide) hReach

/--
What a download does: the messages of the ranges, which are consecutive, have at most 32 indices each and cover
the count as far as it fits, and what it returns.
-/
structure Downloads (device : ConformingDevice emitterId) (uuids : Nat → Identifier)
    (ranges : List (UInt32 × UInt32)) (download : SpectralDownload) : Prop where
  sent : download.sent = messages emitterId uuids
    (.sampleCount :: ranges.map fun range => .sampleBatch range.1 range.2)
  consecutive : Span.Consecutive spectralSampleBatchSize 0 (min device.count.toNat 416)
    (ranges.map fun range => (range.1.toNat, range.2.toNat))
  disjoint : ranges.Pairwise fun range next => range.2 ≤ next.1
  bounded : ∀ range ∈ ranges, range.1 < range.2 ∧ range.2 ≤ device.count
    ∧ range.2.toNat ≤ range.1.toNat + spectralSampleBatchSize
  covers : device.count.toNat ≤ defaultSampleCount → ∀ i, i < device.count.toNat ↔
    ∃ range ∈ ranges, range.1.toNat ≤ i ∧ i < range.2.toNat
  complete : device.count.toNat ≤ defaultSampleCount →
    ∃ data, download.phase = .returned (.ok data) ∧ data.samples.items = device.samples
  tooMany : defaultSampleCount < device.count.toNat →
    download.phase = .returned (.error .insufficientData)

theorem commands_ranges (device : ConformingDevice emitterId)
    : commands device.count (min (batchCount device.count) 13)
        = .sampleCount :: device.ranges.map fun range => .sampleBatch range.1 range.2 := by
  unfold commands ranges
  rw [List.map_map]
  rfl

theorem downloads_of_phase {download : SpectralDownload}
    (hSent : download.sent = messages emitterId uuids
      (commands device.count (min (batchCount device.count) 13)))
    (hComplete : device.count.toNat ≤ defaultSampleCount →
      ∃ data, download.phase = .returned (.ok data) ∧ data.samples.items = device.samples)
    (hTooMany : defaultSampleCount < device.count.toNat →
      download.phase = .returned (.error .insufficientData))
    : Downloads device uuids device.ranges download := by
  have hConsecutive := device.consecutive_ranges
  constructor
  case sent => rw [hSent, commands_ranges]
  case consecutive => exact hConsecutive
  case disjoint =>
    have hDisjoint := hConsecutive.disjoint
    rw [List.pairwise_map] at hDisjoint
    apply hDisjoint.imp
    intro range next hLe
    exact UInt32.le_iff_toNat_le.mpr hLe
  case bounded =>
    intro range hMem
    rcases hConsecutive.bounds _ (List.mem_map_of_mem hMem) with ⟨_, hLt, hSize, hStop⟩
    refine ⟨UInt32.lt_iff_toNat_lt.mpr hLt, UInt32.le_iff_toNat_le.mpr ?_, hSize⟩
    simp only at hStop
    omega
  case covers =>
    intro hFits i
    have hCovers := hConsecutive.covers i
    unfold defaultSampleCount at hFits
    simp only [List.mem_map, exists_exists_and_eq_and] at hCovers
    rw [hCovers]
    omega
  case complete => exact hComplete
  case tooMany => exact hTooMany

/--
The download from a device that answers as it is asked ends, with its samples or, if they are too many, with
an error.
-/
theorem spectralData_downloads (checks : Bool) (uuids : Nat → Identifier)
    (device : ConformingDevice emitterId)
    : ∃ ranges last, ∀ n ≥ last, Downloads device uuids ranges
        (after checks emitterId uuids device.call n) := by
  have hCounted := device.counted checks uuids
  have hRunning := running_of_regular checks device.regular_ranges
  refine ⟨device.ranges, min (batchCount device.count) 13 + 1, ?_⟩
  intro n hLast
  rcases Nat.lt_or_ge defaultSampleCount device.count.toNat with hLarge | hSmall
  . have hReach : min (batchCount device.count) 13 = 13 := by
      unfold defaultSampleCount at hLarge
      unfold batchCount
      omega
    rw [hReach] at hRunning hLast
    rcases collected_of_tooMany checks uuids hLarge with ⟨samples, hSamples, hError⟩
    have hEnd := after_eq_error hCounted hRunning hSamples hError
    have hOver := command?_of_returned (congrArg SpectralDownload.phase hEnd)
    rw [after_of_over hOver hLast, hEnd]
    apply downloads_of_phase
    . rw [hReach]
    . intro hSmall
      exact absurd hLarge (Nat.not_lt.mpr hSmall)
    . intro _
      rfl
  . have hCount : device.count.toNat ≤ 2 ^ 32 - 32 := by
      unfold defaultSampleCount at hSmall
      omega
    have hReach : min (batchCount device.count) 13 = batchCount device.count := by
      unfold defaultSampleCount at hSmall
      unfold batchCount
      omega
    have hRegular := device.regular_ranges
    rw [hReach] at hRunning hLast hRegular
    rcases samplesUpTo_batches checks uuids hRegular (by omega) with ⟨hFine, hAll⟩
    rcases exists_collected hFine with ⟨samples, hSamples, hItems⟩
    have hEnd := after_eq_ok hCounted hRunning (not_lt_of_end hCount) hSamples
    have hOver := command?_of_returned (congrArg SpectralDownload.phase hEnd)
    rw [after_of_over hOver hLast, hEnd]
    apply downloads_of_phase
    . rw [hReach]
    . intro _
      refine ⟨⟨samples⟩, rfl, ?_⟩
      rw [hItems, hAll, List.take_of_length_le]
      rw [device.length_samples]
      unfold batchCount
      omega
    . intro hLarge
      exact absurd hLarge (Nat.not_lt.mpr hSmall)

end ConformingDevice

end Emitter
end Enody
