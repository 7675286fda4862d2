import Enody.Emitter.Impl
import Enody.Span.Basic

/-!
This module contains how far a download gets: the offset and the samples after a number of batches, as long as
no call fails and no addition panics.
-/

namespace Enody
namespace Emitter

open Message

section Batches

def offsets (count : UInt32) : Nat → UInt32
  | 0 => 0
  | n + 1 => min count (offsets count n + UInt32.ofNat spectralSampleBatchSize)

/-
The addition in the next iteration is not representable.
-/
def Overflows (offset : UInt32) : Prop := 2 ^ 32 ≤ offset.toNat + spectralSampleBatchSize

def batchCount (count : UInt32) : Nat := (count.toNat + 31) / 32

theorem lt_batchCount_iff {count : UInt32} {n : Nat} : n < batchCount count ↔ n * 32 < count.toNat := by
  unfold batchCount
  omega

theorem toNat_min (a b : UInt32) : (min a b).toNat = min a.toNat b.toNat := by
  show (if a ≤ b then a else b).toNat = _
  rcases Decidable.em (a ≤ b) with hLe | hGt
  . rw [if_pos hLe, Nat.min_eq_left (UInt32.le_iff_toNat_le.mp hLe)]
  . rw [if_neg hGt]
    rw [UInt32.le_iff_toNat_le] at hGt
    omega

theorem addU32_eq_none_iff {checks : Bool} {offset : UInt32}
    : addU32 checks offset (UInt32.ofNat spectralSampleBatchSize) = none
        ↔
      checks = true ∧ Overflows offset := by
  unfold addU32 Overflows
  have hSize : (UInt32.ofNat spectralSampleBatchSize).toNat = spectralSampleBatchSize := rfl
  rw [hSize]
  cases checks with
  | false => simp
  | true => simp

def overflowBatch : Nat := 2 ^ 27 - 1

theorem toNat_offsets_succ (count : UInt32) (n : Nat)
    : (offsets count (n + 1)).toNat = min count.toNat (((offsets count n).toNat + 32) % 2 ^ 32) := by
  rw [offsets, toNat_min, UInt32.toNat_add]
  rfl

theorem toNat_offsets_of_le {count : UInt32} (hCount : count.toNat ≤ 2 ^ 32 - 32) {n : Nat}
    (hReach : n ≤ batchCount count)
    : (offsets count n).toNat = min count.toNat (n * 32) := by
  induction n with
  | zero => simp [offsets]
  | succ n ih =>
    have hBefore := lt_batchCount_iff.mp hReach
    rw [toNat_offsets_succ, ih (by omega)]
    omega

theorem toNat_offsets_of_lt {count : UInt32} (hCount : 2 ^ 32 - 32 < count.toNat) (n : Nat)
    : (offsets count n).toNat = n * 32 % 2 ^ 32 := by
  induction n with
  | zero => rfl
  | succ n ih =>
    rw [toNat_offsets_succ, ih]
    omega

end Batches

section Collected

variable {batches : Nat → Runtime.CommandResult}

def collected (batches : Nat → Runtime.CommandResult)
    : Nat → Except (Error .std) (HVec SpectralSample defaultSampleCount)
  | 0 => .ok ⟨[], Nat.zero_le _⟩
  | n + 1 =>
    match collected batches n with
    | .error error => .error error
    | .ok samples => SpectralDownload.collect samples (batches n)

def samplesOf (result : Runtime.CommandResult) : Option (List SpectralSample) :=
  match result with
  | .error _ => none
  | .ok eventMessage => (sampleBatch eventMessage.event).map HVec.items

/-
All samples of the first `n` results.
-/
def samplesUpTo (batches : Nat → Runtime.CommandResult) (n : Nat) : List SpectralSample :=
  (List.range n).flatMap fun i => (samplesOf (batches i)).getD []

/--
One of the first `n` results is not a batch, or the samples up to it are more than there is room for.
-/
def Fails (batches : Nat → Runtime.CommandResult) (n : Nat) : Prop :=
  ∃ i < n, samplesOf (batches i) = none ∨ defaultSampleCount < (samplesUpTo batches (i + 1)).length

theorem Fails.mono {n m : Nat} (hLe : n ≤ m) (hFails : Fails batches n) : Fails batches m := by
  rcases hFails with ⟨i, hLt, hFails⟩
  exact ⟨i, by omega, hFails⟩

theorem samplesUpTo_succ (n : Nat)
    : samplesUpTo batches (n + 1) = samplesUpTo batches n ++ (samplesOf (batches n)).getD [] := by
  simp [samplesUpTo, List.range_succ]

theorem pushSamples_spec (samples : HVec SpectralSample defaultSampleCount) (batch : List SpectralSample)
    : (∃ all, pushSamples samples batch = .ok all ∧ all.items = samples.items ++ batch)
        ∨
      (pushSamples samples batch = .error .insufficientData
        ∧ defaultSampleCount < samples.items.length + batch.length) := by
  induction batch generalizing samples with
  | nil => exact .inl ⟨samples, rfl, (List.append_nil _).symm⟩
  | cons sample batch ih =>
    unfold pushSamples HVec.push
    split
    next hPush =>
      right
      refine ⟨rfl, ?_⟩
      split at hPush
      . simp only [reduceCtorEq] at hPush
      . rw [List.length_cons]
        omega
    next pushed hPush =>
      split at hPush
      . injection hPush with hPush
        have hItems : pushed.items = samples.items ++ [sample] := by rw [← hPush]
        rcases ih pushed with ⟨all, hAll, hSame⟩ | ⟨hError, hTooMany⟩
        . left
          refine ⟨all, hAll, ?_⟩
          rw [hSame, hItems, List.append_assoc, List.singleton_append]
        . right
          refine ⟨hError, ?_⟩
          rw [hItems] at hTooMany
          simp only [List.length_append, List.length_cons, List.length_nil] at hTooMany ⊢
          omega
      . simp only [reduceCtorEq] at hPush

theorem collect_spec (samples : HVec SpectralSample defaultSampleCount) (result : Runtime.CommandResult)
    : (∃ batch all, samplesOf result = some batch ∧ SpectralDownload.collect samples result = .ok all
        ∧ all.items = samples.items ++ batch)
        ∨
      (∃ error, SpectralDownload.collect samples result = .error error
        ∧ (samplesOf result = none
          ∨ ∃ batch, samplesOf result = some batch ∧ error = .insufficientData
            ∧ defaultSampleCount < samples.items.length + batch.length)) := by
  unfold samplesOf SpectralDownload.collect
  cases result with
  | error error => exact .inr ⟨error, rfl, .inl rfl⟩
  | ok eventMessage =>
    simp only
    cases hBatch : sampleBatch eventMessage.event with
    | none => exact .inr ⟨_, rfl, .inl rfl⟩
    | some batch =>
      simp only [Option.map_some]
      rcases pushSamples_spec samples batch.items with ⟨all, hAll, hSame⟩ | ⟨hError, hTooMany⟩
      . exact .inl ⟨_, all, rfl, hAll, hSame⟩
      . exact .inr ⟨_, hError, .inr ⟨_, rfl, rfl, hTooMany⟩⟩

theorem collected_spec (batches : Nat → Runtime.CommandResult) (n : Nat)
    : (∃ samples, collected batches n = .ok samples ∧ samples.items = samplesUpTo batches n
        ∧ ¬ Fails batches n)
        ∨
      (∃ error, collected batches n = .error error ∧ Fails batches n) := by
  induction n with
  | zero =>
    left
    refine ⟨_, rfl, rfl, ?_⟩
    rintro ⟨i, hLt, _⟩
    contradiction
  | succ n ih =>
    rcases ih with ⟨samples, hSamples, hItems, hFine⟩ | ⟨error, hError, hFails⟩
    . unfold collected
      rw [hSamples]
      simp only
      rcases collect_spec samples (batches n) with ⟨batch, all, hBatch, hAll, hSame⟩ | ⟨error, hError, hWhy⟩
      . left
        refine ⟨all, hAll, ?_, ?_⟩
        . rw [hSame, hItems, samplesUpTo_succ, hBatch]
          rfl
        . rintro ⟨i, hLt, hFails⟩
          rcases Nat.lt_succ_iff_lt_or_eq.mp hLt with hBefore | hLast
          . exact hFine ⟨i, hBefore, hFails⟩
          . subst hLast
            rcases hFails with hNone | hTooMany
            . rw [hBatch] at hNone
              contradiction
            . have hFits := all.fits
              rw [hSame, hItems] at hFits
              rw [samplesUpTo_succ, hBatch] at hTooMany
              exact Nat.not_lt.mpr hFits hTooMany
      . right
        refine ⟨error, hError, n, Nat.lt_succ_self n, ?_⟩
        rcases hWhy with hNone | ⟨batch, hBatch, _, hTooMany⟩
        . exact .inl hNone
        . right
          rw [samplesUpTo_succ, hBatch, List.length_append, ← hItems]
          exact hTooMany
    . right
      unfold collected
      rw [hError]
      exact ⟨error, rfl, hFails.mono (Nat.le_succ n)⟩

theorem exists_collected {n : Nat} (hFine : ¬ Fails batches n)
    : ∃ samples, collected batches n = .ok samples ∧ samples.items = samplesUpTo batches n := by
  rcases collected_spec batches n with ⟨samples, hSamples, hItems, _⟩ | ⟨_, _, hFails⟩
  . exact ⟨samples, hSamples, hItems⟩
  . exact absurd hFails hFine

theorem exists_error {n : Nat} (hFails : Fails batches n) : ∃ error, collected batches n = .error error := by
  rcases collected_spec batches n with ⟨_, _, _, hFine⟩ | ⟨error, hError, _⟩
  . exact absurd hFails hFine
  . exact ⟨error, hError⟩

end Collected

section Messages

def messages (emitterId : Identifier) (uuids : Nat → Identifier) (commands : List SpectralDataCommand)
    : List CommandMessage :=
  commands.mapIdx fun i spectral => .root (uuids i) (.emitter (.spectralData spectral)) (some emitterId)

def commands (count : UInt32) (n : Nat) : List SpectralDataCommand :=
  .sampleCount :: (List.range n).map fun i => .sampleBatch (offsets count i) (offsets count (i + 1))

theorem commands_succ (count : UInt32) (n : Nat)
    : commands count (n + 1) = commands count n ++ [.sampleBatch (offsets count n) (offsets count (n + 1))] := by
  simp [commands, List.range_succ]

theorem length_commands (count : UInt32) (n : Nat) : (commands count n).length = n + 1 := by
  simp [commands]

variable {emitterId : Identifier} {uuids : Nat → Identifier}

theorem messages_snoc (before : List SpectralDataCommand) (spectral : SpectralDataCommand)
    : messages emitterId uuids (before ++ [spectral])
        = messages emitterId uuids before
          ++ [.root (uuids before.length) (.emitter (.spectralData spectral)) (some emitterId)] := by
  unfold messages
  simp [List.mapIdx_append]

theorem length_messages (spectral : List SpectralDataCommand)
    : (messages emitterId uuids spectral).length = spectral.length := by
  unfold messages
  rw [List.length_mapIdx]

theorem enter_of_some {phase : SpectralPhase} {spectral : SpectralDataCommand}
    (hCommand : phase.command? = some spectral) (before : List SpectralDataCommand)
    : SpectralDownload.enter emitterId uuids phase (messages emitterId uuids before)
        = ⟨phase, messages emitterId uuids (before ++ [spectral])⟩ := by
  unfold SpectralDownload.enter
  rw [hCommand, messages_snoc, length_messages]

end Messages

section Run

variable {checks : Bool} {emitterId : Identifier} {uuids : Nat → Identifier}
  {call : Nat → List CommandMessage → Runtime.CommandResult} {count : UInt32}
  {batches : Nat → Runtime.CommandResult} {n m : Nat}

open SpectralDownload

def resultAt (checks : Bool) (emitterId : Identifier) (uuids : Nat → Identifier)
    (call : Nat → List CommandMessage → Runtime.CommandResult) (n : Nat)
    : Runtime.CommandResult :=
  call n (after checks emitterId uuids call n).sent

structure Counted (checks : Bool) (emitterId : Identifier) (uuids : Nat → Identifier)
    (call : Nat → List CommandMessage → Runtime.CommandResult) (count : UInt32)
    (batches : Nat → Runtime.CommandResult) : Prop where
  counted : ∃ eventMessage, resultAt checks emitterId uuids call 0 = .ok eventMessage
    ∧ sampleCount eventMessage.event = some count
  batches : ∀ n, resultAt checks emitterId uuids call (n + 1) = batches n

/-
The first `n` iterations are not at the end, and their additions do not panic.
-/
def Running (checks : Bool) (count : UInt32) (n : Nat) : Prop :=
  ∀ i < n, offsets count i < count ∧ ¬ (checks = true ∧ Overflows (offsets count i))

theorem Running.mono (hRunning : Running checks count n) (hLe : m ≤ n) : Running checks count m := by
  intro i hLt
  exact hRunning i (by omega)

theorem next_of_running (hRunning : Running checks count (n + 1))
    (samples : HVec SpectralSample defaultSampleCount)
    : SpectralPhase.next checks count (offsets count n) samples
        = .collecting count (offsets count n) (offsets count (n + 1)) samples := by
  rcases hRunning n (Nat.lt_succ_self n) with ⟨hLt, hFits⟩
  unfold SpectralPhase.next
  rw [if_pos hLt]
  cases hAdd : addU32 checks (offsets count n) (UInt32.ofNat spectralSampleBatchSize) with
  | none => exact absurd (addU32_eq_none_iff.mp hAdd) hFits
  | some sum =>
    unfold addU32 at hAdd
    split at hAdd
    . simp only [reduceCtorEq] at hAdd
    . injection hAdd with hAdd
      rw [← hAdd]
      rfl

theorem after_succ (n : Nat)
    : after checks emitterId uuids call (n + 1)
        = step checks emitterId uuids (after checks emitterId uuids call n)
            (resultAt checks emitterId uuids call n) := rfl

theorem after_zero
    : after checks emitterId uuids call 0 = ⟨.counting, messages emitterId uuids [.sampleCount]⟩ := rfl

theorem after_of_over (hOver : (after checks emitterId uuids call n).phase.command? = none) (hLe : n ≤ m)
    : after checks emitterId uuids call m = after checks emitterId uuids call n := by
  induction hLe with
  | refl => rfl
  | step hLe ih =>
    rw [after_succ, ih]
    unfold step
    rw [hOver]

theorem after_eq_enter (hCounted : Counted checks emitterId uuids call count batches)
    (hRunning : Running checks count n) {samples : HVec SpectralSample defaultSampleCount}
    (hSamples : collected batches n = .ok samples)
    : after checks emitterId uuids call (n + 1)
        = enter emitterId uuids (.next checks count (offsets count n) samples)
            (messages emitterId uuids (commands count n)) := by
  induction n generalizing samples with
  | zero =>
    rcases hCounted.counted with ⟨eventMessage, hResult, hCount⟩
    rw [after_succ, hResult, after_zero]
    injection hSamples with hSamples
    subst hSamples
    simp only [step, SpectralPhase.command?, handle, hCount]
    rfl
  | succ n ih =>
    unfold collected at hSamples
    cases hBefore : collected batches n with
    | error error => simp [hBefore] at hSamples
    | ok before =>
      simp only [hBefore] at hSamples
      have hPhase := ih (hRunning.mono (Nat.le_succ n)) hBefore
      rw [next_of_running hRunning, enter_of_some rfl, ← commands_succ] at hPhase
      rw [after_succ, hPhase, hCounted.batches]
      simp only [step, SpectralPhase.command?, handle, hSamples]

theorem after_eq_collecting (hCounted : Counted checks emitterId uuids call count batches)
    (hRunning : Running checks count (n + 1)) {samples : HVec SpectralSample defaultSampleCount}
    (hSamples : collected batches n = .ok samples)
    : after checks emitterId uuids call (n + 1)
        = ⟨.collecting count (offsets count n) (offsets count (n + 1)) samples,
            messages emitterId uuids (commands count (n + 1))⟩ := by
  rw [after_eq_enter hCounted (hRunning.mono (Nat.le_succ n)) hSamples, next_of_running hRunning,
    enter_of_some rfl, ← commands_succ]

theorem after_eq_error (hCounted : Counted checks emitterId uuids call count batches)
    (hRunning : Running checks count (n + 1)) {samples : HVec SpectralSample defaultSampleCount}
    (hSamples : collected batches n = .ok samples) {error : Error .std}
    (hError : collected batches (n + 1) = .error error)
    : after checks emitterId uuids call (n + 2)
        = ⟨.returned (.error error), messages emitterId uuids (commands count (n + 1))⟩ := by
  unfold collected at hError
  simp only [hSamples] at hError
  rw [after_succ, after_eq_collecting hCounted hRunning hSamples, hCounted.batches]
  simp only [step, SpectralPhase.command?, handle, hError]
  rfl

theorem after_eq_ok (hCounted : Counted checks emitterId uuids call count batches)
    (hRunning : Running checks count n) (hEnd : ¬ offsets count n < count)
    {samples : HVec SpectralSample defaultSampleCount} (hSamples : collected batches n = .ok samples)
    : after checks emitterId uuids call (n + 1)
        = ⟨.returned (.ok ⟨samples⟩), messages emitterId uuids (commands count n)⟩ := by
  rw [after_eq_enter hCounted hRunning hSamples]
  unfold SpectralPhase.next
  rw [if_neg hEnd]
  rfl

theorem after_eq_panicked (hCounted : Counted checks emitterId uuids call count batches)
    (hRunning : Running checks count n) (hBefore : offsets count n < count) (hChecks : checks = true)
    (hOverflows : Overflows (offsets count n)) {samples : HVec SpectralSample defaultSampleCount}
    (hSamples : collected batches n = .ok samples)
    : after checks emitterId uuids call (n + 1)
        = ⟨.panicked, messages emitterId uuids (commands count n)⟩ := by
  rw [after_eq_enter hCounted hRunning hSamples]
  unfold SpectralPhase.next
  rw [if_pos hBefore, addU32_eq_none_iff.mpr ⟨hChecks, hOverflows⟩]
  rfl

theorem exists_error_of_fails (hCounted : Counted checks emitterId uuids call count batches)
    (hRunning : Running checks count n) (hFails : Fails batches n)
    : ∃ i < n, ∃ error, ¬ Fails batches i ∧ Fails batches (i + 1)
        ∧ collected batches (i + 1) = .error error
        ∧ after checks emitterId uuids call (i + 2)
          = ⟨.returned (.error error), messages emitterId uuids (commands count (i + 1))⟩ := by
  induction n with
  | zero =>
    rcases hFails with ⟨i, hLt, _⟩
    contradiction
  | succ n ih =>
    rcases Classical.em (Fails batches n) with hBefore | hFine
    . rcases ih (hRunning.mono (Nat.le_succ n)) hBefore with ⟨i, hLt, hFirst⟩
      exact ⟨i, by omega, hFirst⟩
    . rcases exists_collected hFine with ⟨samples, hSamples, _⟩
      rcases exists_error hFails with ⟨error, hError⟩
      exact ⟨n, Nat.lt_succ_self n, error, hFine, hFails, hError,
        after_eq_error hCounted hRunning hSamples hError⟩

end Run

end Emitter
end Enody
