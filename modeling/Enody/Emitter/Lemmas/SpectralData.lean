import Enody.Emitter.Lemmas.Download

/-!
This module contains what `spectral_data` returns: the spectrum of a device that answers as it is asked, exactly
when a spectrum of the wrong size is accepted, and exactly when the loop ends without an overflow.
-/

namespace Enody
namespace Emitter

open Message SpectralDownload

section Regular

variable {count : UInt32} {n : Nat}

/-
The head of the loop after `n` batches is reached by additions that are all representable.
-/
def Regular (count : UInt32) (n : Nat) : Prop :=
  n ≤ batchCount count ∧ (count.toNat ≤ 2 ^ 32 - 32 ∨ n ≤ overflowBatch)

theorem Regular.mono {m : Nat} (hRegular : Regular count n) (hLe : m ≤ n) : Regular count m := by
  unfold Regular at *
  omega

theorem toNat_offsets (hRegular : Regular count n) : (offsets count n).toNat = min count.toNat (n * 32) := by
  unfold Regular overflowBatch at hRegular
  rcases Nat.lt_or_ge (2 ^ 32 - 32) count.toNat with hLarge | hSmall
  . rw [toNat_offsets_of_lt hLarge]
    omega
  . exact toNat_offsets_of_le hSmall hRegular.1

theorem running_of_regular (checks : Bool) (hRegular : Regular count n) : Running checks count n := by
  intro i hLt
  have hBefore := lt_batchCount_iff.mp (Nat.lt_of_lt_of_le hLt hRegular.1)
  have hOffset := toNat_offsets (hRegular.mono (Nat.le_of_lt hLt))
  unfold Regular overflowBatch at hRegular
  unfold Overflows spectralSampleBatchSize
  rw [UInt32.lt_iff_toNat_lt, hOffset]
  omega

theorem not_lt_of_end (hSmall : count.toNat ≤ 2 ^ 32 - 32) : ¬ offsets count (batchCount count) < count := by
  rw [UInt32.lt_iff_toNat_lt, toNat_offsets ⟨Nat.le_refl _, .inl hSmall⟩]
  unfold batchCount
  omega

theorem regular_overflowBatch (hLarge : 2 ^ 32 - 32 < count.toNat) : Regular count overflowBatch := by
  unfold Regular overflowBatch batchCount
  omega

theorem overflows_overflowBatch (hLarge : 2 ^ 32 - 32 < count.toNat)
    : offsets count overflowBatch < count ∧ Overflows (offsets count overflowBatch) := by
  unfold Overflows spectralSampleBatchSize
  rw [UInt32.lt_iff_toNat_lt, toNat_offsets (regular_overflowBatch hLarge)]
  unfold overflowBatch
  omega

theorem running_of_wrapping (hLarge : 2 ^ 32 - 32 < count.toNat) (n : Nat) : Running false count n := by
  intro i _
  rw [UInt32.lt_iff_toNat_lt, toNat_offsets_of_lt hLarge]
  refine ⟨?_, fun hChecks => absurd hChecks.1 Bool.false_ne_true⟩
  omega

end Regular

section Phases

variable {checks : Bool} {emitterId : Identifier} {uuids : Nat → Identifier}
  {call : Nat → List CommandMessage → Runtime.CommandResult} {count : UInt32}
  {batches : Nat → Runtime.CommandResult} {n m last : Nat}

theorem exists_collecting (hCounted : Counted checks emitterId uuids call count batches)
    (hRunning : Running checks count (n + 1)) (hFine : ¬ Fails batches n)
    : ∃ samples, after checks emitterId uuids call (n + 1)
        = ⟨.collecting count (offsets count n) (offsets count (n + 1)) samples,
            messages emitterId uuids (commands count (n + 1))⟩ := by
  rcases exists_collected hFine with ⟨samples, hSamples, _⟩
  exact ⟨samples, after_eq_collecting hCounted hRunning hSamples⟩

theorem after_cases (hCounted : Counted checks emitterId uuids call count batches)
    (hRunning : Running checks count last) (hFine : ∀ i < last, ¬ Fails batches i)
    (hOver : (after checks emitterId uuids call (last + 1)).phase.command? = none) (n : Nat)
    : after checks emitterId uuids call n = ⟨.counting, messages emitterId uuids [.sampleCount]⟩
        ∨
      (∃ i < last, ∃ samples, n = i + 1 ∧ after checks emitterId uuids call n
        = ⟨.collecting count (offsets count i) (offsets count (i + 1)) samples,
            messages emitterId uuids (commands count (i + 1))⟩)
        ∨
      after checks emitterId uuids call n = after checks emitterId uuids call (last + 1) := by
  cases n with
  | zero => exact .inl after_zero
  | succ i =>
    rcases Nat.lt_or_ge i last with hLt | hGe
    . rcases exists_collecting hCounted (hRunning.mono hLt) (hFine i hLt) with ⟨samples, hPhase⟩
      exact .inr (.inl ⟨i, hLt, samples, rfl, hPhase⟩)
    . exact .inr (.inr (after_of_over hOver (Nat.succ_le_succ hGe)))

theorem over_unique (hOver : (after checks emitterId uuids call n).phase.command? = none)
    (hOther : (after checks emitterId uuids call m).phase.command? = none)
    : after checks emitterId uuids call n = after checks emitterId uuids call m := by
  rcases Nat.le_total n m with hLe | hLe
  . exact (after_of_over hOver hLe).symm
  . exact after_of_over hOther hLe

theorem command?_of_returned {phase : SpectralPhase} {result : SpectralResult} (hPhase : phase = .returned result)
    : phase.command? = none := by
  rw [hPhase]
  rfl

theorem range_of_collecting (hCounted : Counted checks emitterId uuids call count batches)
    (hRunning : Running checks count last) (hFine : ∀ i < last, ¬ Fails batches i) {result : SpectralResult}
    (hLast : (after checks emitterId uuids call (last + 1)).phase = .returned result)
    {c offset stop : UInt32} {samples : HVec SpectralSample defaultSampleCount}
    (hPhase : (after checks emitterId uuids call n).phase = .collecting c offset stop samples)
    : ∃ i < last, n = i + 1 ∧ offset = offsets count i ∧ stop = offsets count (i + 1) := by
  rcases after_cases hCounted hRunning hFine (command?_of_returned hLast) n
    with hStart | ⟨i, hLt, before, hIndex, hSame⟩ | hEnd
  . rw [hStart] at hPhase
    simp only [reduceCtorEq] at hPhase
  . rw [hSame] at hPhase
    injection hPhase with _ hOffset hStop _
    exact ⟨i, hLt, hIndex, hOffset.symm, hStop.symm⟩
  . rw [hEnd, hLast] at hPhase
    simp only [reduceCtorEq] at hPhase

theorem exists_end (hCounted : Counted checks emitterId uuids call count batches)
    (hEnds : count.toNat ≤ 2 ^ 32 - 32 ∨ Fails batches overflowBatch)
    : ∃ last result, Regular count last ∧ (∀ i < last, ¬ Fails batches i)
        ∧ after checks emitterId uuids call (last + 1)
          = ⟨.returned result, messages emitterId uuids (commands count last)⟩ := by
  have hFirst {n : Nat} (hRegular : Regular count n) (hFails : Fails batches n)
      : ∃ last result, Regular count last ∧ (∀ i < last, ¬ Fails batches i)
        ∧ after checks emitterId uuids call (last + 1)
          = ⟨.returned result, messages emitterId uuids (commands count last)⟩ := by
    rcases exists_error_of_fails hCounted (running_of_regular _ hRegular) hFails
      with ⟨i, hLt, error, hFine, _, _, hPhase⟩
    refine ⟨i + 1, _, hRegular.mono hLt, ?_, hPhase⟩
    intro j hBefore hFails
    exact hFine (hFails.mono (by omega))
  rcases Nat.lt_or_ge (2 ^ 32 - 32) count.toNat with hLarge | hSmall
  . have hFails : Fails batches overflowBatch := hEnds.resolve_left (by omega)
    exact hFirst (regular_overflowBatch hLarge) hFails
  . have hRegular : Regular count (batchCount count) := ⟨Nat.le_refl _, .inl hSmall⟩
    rcases Classical.em (Fails batches (batchCount count)) with hFails | hFine
    . exact hFirst hRegular hFails
    . rcases exists_collected hFine with ⟨samples, hSamples, _⟩
      have hEnd := after_eq_ok hCounted (running_of_regular _ hRegular) (not_lt_of_end hSmall) hSamples
      refine ⟨_, _, hRegular, ?_, hEnd⟩
      intro i hBefore hFails
      exact hFine (hFails.mono (by omega))

end Phases

section Ends

variable (checks : Bool) (emitterId : Identifier) (uuids : Nat → Identifier) (first : EventMessage .std)
  (count : UInt32) (batches : Nat → Runtime.CommandResult)

/-
A device that reports the count, and then `batches`.
-/
def reported : Nat → List CommandMessage → Runtime.CommandResult
  | 0, _ => .ok { first with event := .emitter (.spectralData (.sampleCount count)) }
  | n + 1, _ => batches n

theorem counted_reported
    : Counted checks emitterId uuids (reported first count batches) count batches := by
  constructor
  . exact ⟨_, rfl, rfl⟩
  . intro n
    rfl

/--
The loop ends in time: no addition overflows, the offset increases in each iteration, and there is at most one
call for every 32 samples of the count.
-/
structure EndsInTime (count : UInt32) (run : Nat → SpectralDownload) : Prop where
  noPanic : ∀ n, (run n).phase ≠ .panicked
  representable : ∀ n c offset stop samples, (run n).phase = .collecting c offset stop samples →
    ¬ Overflows offset
  increases : ∀ n c offset stop samples, (run n).phase = .collecting c offset stop samples → offset < stop
  requests : ∀ n, (run n).sent.length ≤ batchCount count + 1
  ends : ∃ n ≤ batchCount count + 1, ∃ result, (run n).phase = .returned result

variable {checks emitterId uuids first count batches}

theorem endsInTime_of_ends (hEnds : count.toNat ≤ 2 ^ 32 - 32 ∨ Fails batches overflowBatch)
    : EndsInTime count (after checks emitterId uuids (reported first count batches)) := by
  have hCounted := counted_reported checks emitterId uuids first count batches
  rcases exists_end hCounted hEnds with ⟨last, result, hRegular, hFine, hLast⟩
  have hReturned := congrArg SpectralDownload.phase hLast
  have hRunning := running_of_regular checks hRegular
  have hCases := after_cases hCounted hRunning hFine (command?_of_returned hReturned)
  constructor
  case noPanic =>
    intro n hPhase
    rcases hCases n with hStart | ⟨i, hLt, before, _, hSame⟩ | hEnd
    . rw [hStart] at hPhase
      simp only [reduceCtorEq] at hPhase
    . rw [hSame] at hPhase
      simp only [reduceCtorEq] at hPhase
    . rw [hEnd, hLast] at hPhase
      simp only [reduceCtorEq] at hPhase
  case representable =>
    intro n c offset stop samples hPhase
    rcases range_of_collecting hCounted hRunning hFine hReturned hPhase with ⟨i, hLt, _, hOffset, _⟩
    have hChecked := running_of_regular true hRegular i hLt
    rw [hOffset]
    exact fun hOverflows => hChecked.2 ⟨rfl, hOverflows⟩
  case increases =>
    intro n c offset stop samples hPhase
    rcases range_of_collecting hCounted hRunning hFine hReturned hPhase with ⟨i, hLt, _, hOffset, hStop⟩
    have hBefore := lt_batchCount_iff.mp (Nat.lt_of_lt_of_le hLt hRegular.1)
    rw [hOffset, hStop, UInt32.lt_iff_toNat_lt, toNat_offsets (hRegular.mono (Nat.le_of_lt hLt)),
      toNat_offsets (hRegular.mono hLt)]
    omega
  case requests =>
    have hBound := hRegular.1
    intro n
    rcases hCases n with hStart | ⟨i, hLt, before, _, hSame⟩ | hEnd
    . rw [hStart, length_messages]
      exact Nat.succ_le_succ (Nat.zero_le _)
    . rw [hSame, length_messages, length_commands]
      omega
    . rw [hEnd, hLast, length_messages, length_commands]
      omega
  case ends => exact ⟨last + 1, Nat.succ_le_succ hRegular.1, result, hReturned⟩

theorem not_endsInTime (hLarge : 2 ^ 32 - 32 < count.toNat) (hFine : ¬ Fails batches overflowBatch)
    : ¬ EndsInTime count (after checks emitterId uuids (reported first count batches)) := by
  intro hEnds
  have hCounted := counted_reported checks emitterId uuids first count batches
  have hRunning := running_of_regular checks (regular_overflowBatch hLarge)
  rcases overflows_overflowBatch hLarge with ⟨hLt, hOverflows⟩
  rcases exists_collected hFine with ⟨samples, hSamples, _⟩
  cases hChecks : checks with
  | true =>
    have hPanic := after_eq_panicked hCounted hRunning hLt hChecks hOverflows hSamples
    exact hEnds.noPanic _ (congrArg SpectralDownload.phase hPanic)
  | false =>
    subst hChecks
    have hPhase := after_eq_collecting hCounted (running_of_wrapping hLarge (overflowBatch + 1)) hSamples
    exact hEnds.representable _ _ _ _ _ (congrArg SpectralDownload.phase hPhase) hOverflows

/--
The loop ends in time unless the count is within 32 of 2^32 and 2^27 - 1 batches, which all together fit into
the spectrum, are answered.
-/
theorem spectralData_endsInTime_iff (checks : Bool) (emitterId : Identifier) (uuids : Nat → Identifier)
    (first : EventMessage .std) (count : UInt32) (batches : Nat → Runtime.CommandResult)
    : EndsInTime count (after checks emitterId uuids (reported first count batches))
        ↔
      count.toNat ≤ 2 ^ 32 - 32 ∨ Fails batches overflowBatch := by
  constructor
  . intro hEnds
    rcases Nat.lt_or_ge (2 ^ 32 - 32) count.toNat with hLarge | hSmall
    . right
      apply Classical.byContradiction
      intro hFine
      exact not_endsInTime hLarge hFine hEnds
    . exact .inl hSmall
  . exact endsInTime_of_ends

def emptyBatch : Runtime.CommandResult :=
  .ok ⟨0, some 0, some 0, .emitter (.spectralData (.sampleBatch ⟨[], Nat.zero_le _⟩))⟩

theorem not_fails_emptyBatch (n : Nat) : ¬ Fails (fun _ => emptyBatch) n := by
  have hEmpty (m : Nat) : samplesUpTo (fun _ => emptyBatch) m = [] := by
    unfold samplesUpTo
    rw [List.flatMap_eq_nil_iff]
    intro i _
    rfl
  rintro ⟨i, _, hNone | hTooMany⟩
  . simp [samplesOf, emptyBatch, sampleBatch] at hNone
  . rw [hEmpty] at hTooMany
    contradiction

theorem not_spectralData_endsInTime
    : ¬ EndsInTime 4294967295 (after true 1 (fun _ => 2) (reported ⟨0, some 2, some 1, .internal⟩ 4294967295
          fun _ => emptyBatch))
        ∧
      ¬ EndsInTime 4294967295 (after false 1 (fun _ => 2) (reported ⟨0, some 2, some 1, .internal⟩ 4294967295
          fun _ => emptyBatch)) := by
  constructor
  . exact not_endsInTime (by decide) (not_fails_emptyBatch _)
  . exact not_endsInTime (by decide) (not_fails_emptyBatch _)

end Ends

section Complete

variable {checks : Bool} {emitterId : Identifier} {uuids : Nat → Identifier} {first : EventMessage .std}
  {count : UInt32} {batches : Nat → Runtime.CommandResult} {n : Nat}

/--
No spectrum is incomplete: what is returned has `count` samples and every range has been answered with its
samples, and a batch that is short or long ends in an error. `results` are those of the calls, the first of
which has asked for the count.
-/
structure NoIncomplete (count : UInt32) (results : Nat → Runtime.CommandResult)
    (run : Nat → SpectralDownload) : Prop where
  complete : ∀ n data, (run n).phase = .returned (.ok data) →
    data.samples.items.length = count.toNat
      ∧
    ∀ i c offset stop samples, (run i).phase = .collecting c offset stop samples →
      ∃ batch, samplesOf (results i) = some batch ∧ offset.toNat + batch.length = stop.toNat
  wrong : ∀ i c offset stop samples batch, (run i).phase = .collecting c offset stop samples →
    samplesOf (results i) = some batch → offset.toNat + batch.length ≠ stop.toNat →
    ∃ n error, (run n).phase = .returned (.error error)

/-
The range of the `i`-th batch is answered with its samples.
-/
def Exact (count : UInt32) (batches : Nat → Runtime.CommandResult) (i : Nat) : Prop :=
  ∃ batch, samplesOf (batches i) = some batch ∧ i * 32 + batch.length = min count.toNat ((i + 1) * 32)

/-
The result of the batch before is taken by the loop: it runs up to the count, up to the overflow that panics,
or on and on.
-/
def Taken (checks : Bool) (count : UInt32) (n : Nat) : Prop :=
  (count.toNat ≤ 2 ^ 32 - 32 → n ≤ batchCount count)
    ∧
  (2 ^ 32 - 32 < count.toNat → checks = true → n ≤ overflowBatch)

theorem running_of_taken (hTaken : Taken checks count n) : Running checks count n := by
  rcases Nat.lt_or_ge (2 ^ 32 - 32) count.toNat with hLarge | hSmall
  . cases checks with
    | false => exact running_of_wrapping hLarge n
    | true => exact running_of_regular _ ((regular_overflowBatch hLarge).mono (hTaken.2 hLarge rfl))
  . exact running_of_regular _ ⟨hTaken.1 hSmall, .inl hSmall⟩

theorem length_samplesUpTo (hExact : ∀ i < n, Exact count batches i) (hReach : n ≤ batchCount count)
    : (samplesUpTo batches n).length = min count.toNat (n * 32) := by
  induction n with
  | zero => simp [samplesUpTo]
  | succ n ih =>
    have hBefore := lt_batchCount_iff.mp hReach
    rcases hExact n (Nat.lt_succ_self n) with ⟨batch, hBatch, hLength⟩
    rw [samplesUpTo_succ, List.length_append, hBatch, ih (fun i hLt => hExact i (by omega)) (by omega)]
    rw [Option.getD_some]
    omega

theorem fails_of_exact (hExact : ∀ i < 13, Exact count batches i) (hLarge : defaultSampleCount < count.toNat)
    : Fails batches 13 := by
  unfold defaultSampleCount at hLarge
  refine ⟨12, by omega, .inr ?_⟩
  rw [length_samplesUpTo hExact (by unfold batchCount; omega)]
  unfold defaultSampleCount
  omega

theorem after_of_wrapping (emitterId : Identifier) (uuids : Nat → Identifier) (first : EventMessage .std)
    (hLarge : 2 ^ 32 - 32 < count.toNat) (hFine : ∀ n, ¬ Fails batches n) (i : Nat)
    : ∃ samples, after false emitterId uuids (reported first count batches) (i + 1)
        = ⟨.collecting count (offsets count i) (offsets count (i + 1)) samples,
            messages emitterId uuids (commands count (i + 1))⟩ :=
  exists_collecting (counted_reported false emitterId uuids first count batches)
    (running_of_wrapping hLarge (i + 1)) (hFine i)

theorem not_error_of_overflow (hLarge : 2 ^ 32 - 32 < count.toNat)
    (hFine : ∀ n, Taken checks count n → ¬ Fails batches n) {error : Error .std}
    : (after checks emitterId uuids (reported first count batches) n).phase ≠ .returned (.error error) := by
  intro hError
  cases checks with
  | false =>
    have hAll (m : Nat) : ¬ Fails batches m :=
      hFine m ⟨fun hSmall => by omega, fun _ hChecks => absurd hChecks Bool.false_ne_true⟩
    cases n with
    | zero => simp [after_zero] at hError
    | succ i =>
      rcases after_of_wrapping emitterId uuids first hLarge hAll i
        with ⟨samples, hPhase⟩
      rw [hPhase] at hError
      simp only [reduceCtorEq] at hError
  | true =>
    have hTaken : Taken true count overflowBatch :=
      ⟨fun hSmall => by omega, fun _ _ => Nat.le_refl _⟩
    rcases exists_collected (hFine _ hTaken) with ⟨samples, hSamples, _⟩
    have hPanic := after_eq_panicked (counted_reported true emitterId uuids first count batches)
      (running_of_taken hTaken) (overflows_overflowBatch hLarge).1 rfl (overflows_overflowBatch hLarge).2
      hSamples
    have hOver : (after true emitterId uuids (reported first count batches) (overflowBatch + 1)).phase.command?
        = none := by
      rw [hPanic]
      rfl
    rw [over_unique (command?_of_returned hError) hOver, hPanic] at hError
    simp only [reduceCtorEq] at hError

theorem noIncomplete_of_fails (hTaken : Taken checks count n) (hFails : Fails batches n)
    : NoIncomplete count (fun i => batches (i - 1))
        (after checks emitterId uuids (reported first count batches)) := by
  rcases exists_error_of_fails (counted_reported checks emitterId uuids first count batches)
    (running_of_taken hTaken) hFails with ⟨i, _, error, _, _, _, hEnd⟩
  have hError := congrArg SpectralDownload.phase hEnd
  constructor
  . intro m data hData
    rw [over_unique (command?_of_returned hData) (command?_of_returned hError), hEnd] at hData
    simp only [SpectralPhase.returned.injEq, reduceCtorEq] at hData
  . intro _ _ _ _ _ _ _ _ _
    exact ⟨_, error, hError⟩

theorem noIncomplete_of_exact (hExact : ∀ i < batchCount count, Exact count batches i)
    (hFine : ¬ Fails batches (batchCount count)) (hSmall : count.toNat ≤ 2 ^ 32 - 32)
    : NoIncomplete count (fun i => batches (i - 1))
        (after checks emitterId uuids (reported first count batches)) := by
  have hCounted := counted_reported checks emitterId uuids first count batches
  have hRegular : Regular count (batchCount count) := ⟨Nat.le_refl _, .inl hSmall⟩
  rcases exists_collected hFine with ⟨all, hAll, hItems⟩
  have hRunning := running_of_regular checks hRegular
  have hEnd := after_eq_ok hCounted hRunning (not_lt_of_end hSmall) hAll
  have hReturned := congrArg SpectralDownload.phase hEnd
  have hAnswered {i : Nat} {c offset stop : UInt32} {samples : HVec SpectralSample defaultSampleCount}
      (hPhase : (after checks emitterId uuids (reported first count batches) i).phase
        = .collecting c offset stop samples)
      : ∃ batch, samplesOf (batches (i - 1)) = some batch ∧ offset.toNat + batch.length = stop.toNat := by
    rcases range_of_collecting hCounted hRunning (fun i hLt hFails => hFine (hFails.mono (Nat.le_of_lt hLt)))
      hReturned hPhase with ⟨j, hLt, hIndex, hOffset, hStop⟩
    rcases hExact j hLt with ⟨batch, hBatch, hLength⟩
    have hBefore := lt_batchCount_iff.mp hLt
    refine ⟨batch, hIndex ▸ hBatch, ?_⟩
    rw [hOffset, hStop, toNat_offsets (hRegular.mono (Nat.le_of_lt hLt)), toNat_offsets (hRegular.mono hLt)]
    omega
  constructor
  . intro n data hData
    rw [over_unique (command?_of_returned hData) (command?_of_returned hReturned), hEnd] at hData
    injection hData with hData
    injection hData with hData
    refine ⟨?_, fun _ _ _ _ _ hPhase => hAnswered hPhase⟩
    rw [← hData, hItems, length_samplesUpTo hExact (Nat.le_refl _)]
    unfold batchCount
    omega
  . intro i c offset stop samples batch hPhase hBatch hWrong
    rcases hAnswered hPhase with ⟨other, hOther, hLength⟩
    rw [hBatch] at hOther
    injection hOther with hOther
    rw [← hOther] at hLength
    exact absurd hLength hWrong

theorem exact_of_noIncomplete (hSmall : count.toNat ≤ 2 ^ 32 - 32) (hFine : ¬ Fails batches (batchCount count))
    (hComplete : NoIncomplete count (fun i => batches (i - 1))
      (after checks emitterId uuids (reported first count batches)))
    : ∀ i < batchCount count, Exact count batches i := by
  have hCounted := counted_reported checks emitterId uuids first count batches
  have hRegular : Regular count (batchCount count) := ⟨Nat.le_refl _, .inl hSmall⟩
  have hRunning := running_of_regular checks hRegular
  rcases exists_collected hFine with ⟨all, hAll, _⟩
  have hEnd := after_eq_ok hCounted hRunning (not_lt_of_end hSmall) hAll
  have hAnswered := (hComplete.complete _ _ (congrArg SpectralDownload.phase hEnd)).2
  intro i hLt
  have hBefore := lt_batchCount_iff.mp hLt
  rcases exists_collecting hCounted (hRunning.mono hLt) (fun hFails => hFine (hFails.mono (Nat.le_of_lt hLt)))
    with ⟨samples, hPhase⟩
  rcases hAnswered (i + 1) _ _ _ _ (congrArg SpectralDownload.phase hPhase) with ⟨batch, hBatch, hLength⟩
  rw [toNat_offsets (hRegular.mono (Nat.le_of_lt hLt)), toNat_offsets (hRegular.mono hLt)] at hLength
  refine ⟨batch, hBatch, ?_⟩
  omega

theorem not_noIncomplete_of_overflow (hLarge : 2 ^ 32 - 32 < count.toNat)
    (hFine : ∀ n, Taken checks count n → ¬ Fails batches n)
    : ¬ NoIncomplete count (fun i => batches (i - 1))
        (after checks emitterId uuids (reported first count batches)) := by
  intro hComplete
  have hTaken : Taken checks count 13 := by
    unfold Taken overflowBatch
    omega
  have hFine13 := hFine 13 hTaken
  have hInexact : ∃ i < 13, ¬ Exact count batches i := by
    apply Classical.byContradiction
    intro hNone
    have hMore : defaultSampleCount < count.toNat := by
      unfold defaultSampleCount
      omega
    refine hFine13 (fails_of_exact ?_ hMore)
    intro i hLt
    apply Classical.byContradiction
    intro hWrong
    exact hNone ⟨i, hLt, hWrong⟩
  rcases hInexact with ⟨i, hLt, hWrong⟩
  have hRegular : Regular count (i + 1) := (regular_overflowBatch hLarge).mono (by unfold overflowBatch; omega)
  rcases exists_collecting (counted_reported checks emitterId uuids first count batches)
    (running_of_regular _ hRegular) (fun hFails => hFine13 (hFails.mono (by omega))) with ⟨samples, hPhase⟩
  cases hBatch : samplesOf (batches i) with
  | none => exact hFine13 ⟨i, hLt, .inl hBatch⟩
  | some batch =>
    have hLength : (offsets count i).toNat + batch.length ≠ (offsets count (i + 1)).toNat := by
      rw [toNat_offsets (hRegular.mono (Nat.le_succ i)), toNat_offsets hRegular]
      intro hSame
      refine hWrong ⟨batch, hBatch, ?_⟩
      omega
    rcases hComplete.wrong (i + 1) _ _ _ _ batch (congrArg SpectralDownload.phase hPhase) hBatch hLength
      with ⟨n, error, hError⟩
    exact not_error_of_overflow hLarge hFine hError

/--
A spectrum of the wrong size is not returned when every range is answered with its samples, or when a result
that is not a batch or is too much for the spectrum ends the download.
-/
theorem spectralData_noIncomplete_iff (checks : Bool) (emitterId : Identifier) (uuids : Nat → Identifier)
    (first : EventMessage .std) (count : UInt32) (batches : Nat → Runtime.CommandResult)
    : NoIncomplete count (fun i => batches (i - 1))
        (after checks emitterId uuids (reported first count batches))
        ↔
      (∀ i < batchCount count, Exact count batches i) ∨ ∃ n, Taken checks count n ∧ Fails batches n := by
  constructor
  . intro hComplete
    rcases Classical.em (∃ n, Taken checks count n ∧ Fails batches n) with hFails | hFine
    . exact .inr hFails
    . have hFine (n : Nat) (hTaken : Taken checks count n) : ¬ Fails batches n :=
        fun hFails => hFine ⟨n, hTaken, hFails⟩
      rcases Nat.lt_or_ge (2 ^ 32 - 32) count.toNat with hLarge | hSmall
      . exact absurd hComplete (not_noIncomplete_of_overflow hLarge hFine)
      . left
        refine exact_of_noIncomplete hSmall (hFine _ ⟨fun _ => Nat.le_refl _, fun hLarge => ?_⟩) hComplete
        omega
  . intro hCondition
    rcases Classical.em (∃ n, Taken checks count n ∧ Fails batches n) with ⟨n, hTaken, hFails⟩ | hFine
    . exact noIncomplete_of_fails hTaken hFails
    . have hExact := hCondition.resolve_right hFine
      have hSmall : count.toNat ≤ defaultSampleCount := by
        rcases Nat.lt_or_ge defaultSampleCount count.toNat with hLarge | hSmall
        . refine absurd ⟨13, ?_, fails_of_exact (fun i hLt => hExact i ?_) hLarge⟩ hFine
          . unfold Taken batchCount overflowBatch
            unfold defaultSampleCount at hLarge
            omega
          . unfold batchCount
            unfold defaultSampleCount at hLarge
            omega
        . exact hSmall
      unfold defaultSampleCount at hSmall
      have hSmall : count.toNat ≤ 2 ^ 32 - 32 := by omega
      refine noIncomplete_of_exact hExact (fun hFails => hFine ⟨batchCount count, ?_, hFails⟩) hSmall
      unfold Taken
      omega

/-
A count of 32, and a batch without samples: the spectrum that is returned is empty.
-/
theorem not_spectralData_noIncomplete
    : ¬ NoIncomplete 32 (fun _ => emptyBatch)
        (after true 1 (fun _ => 2) (reported ⟨0, some 2, some 1, .internal⟩ 32 fun _ => emptyBatch)) := by
  intro hComplete
  have hLength := (hComplete.complete 2 ⟨⟨[], Nat.zero_le _⟩⟩ rfl).1
  contradiction

end Complete

end Emitter
end Enody
