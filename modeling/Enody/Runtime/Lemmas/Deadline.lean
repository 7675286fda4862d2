import Enody.Fixture.Impl
import Enody.Runtime.Lemmas.Step
import Enody.Source.Impl
import Enody.Transition.Run

/-!
This module contains when a call reaches the sending of its command, and when it panics with its registration
in the table instead.
-/

namespace Enody
namespace Runtime
namespace TimedRuntime

open Message (Duration FixtureState SourceState)
open Transition (Run anyStep)

variable {s t : TimedRuntime} {i : CallId} {labels : List TimedLabel}

/-
The deadline is at most 2^63 seconds behind the origin of the clock.
-/
def Representable (now : Instant) (timeout : Duration) : Prop :=
  now.total + timeout.total < 2 ^ 63 * nanosPerSec

theorem isSome_checkedAdd_iff {now : Instant} {timeout : Duration}
    : (now.checkedAdd timeout).isSome = true ↔ Representable now timeout := by
  unfold Representable
  exact Instant.checkedAdd_isSome_iff ..

/--
The call is made and computes its deadline at `now`: it is registered and about to send its command.
-/
def ReachesSending (s : TimedRuntime) (i : CallId) (request : CommandRequest) (now : Instant) : Prop :=
  ∃ t u deadline call,
    s.step (.call i request) = some t
      ∧
    t.step (.deadline i now) = some u
      ∧
    u.deadlines i = .computed deadline
      ∧
    deadline.total = now.total + request.timeout.total
      ∧
    u.inner.calls i = some call
      ∧
    call.command = request.command
      ∧
    call.phase = .sending

def called (s : TimedRuntime) (i : CallId) (request : CommandRequest) : TimedRuntime :=
  { s with
    inner :=
      { s.inner.setCall i (.new request.command) with
        pendingCommands := s.inner.pendingCommands ++ [⟨request.command.identifier, i⟩] }
    requests := Function.update s.requests i (some request)
    deadlines := Function.update s.deadlines i .notComputed }

def withDeadline (s : TimedRuntime) (i : CallId) (request : CommandRequest) (now deadline : Instant)
    : TimedRuntime :=
  { s with
    deadlines := Function.update s.deadlines i (.computed deadline)
    additions := s.additions ++ [(now, request.timeout)] }

def withPanic (s : TimedRuntime) (i : CallId) (request : CommandRequest) (call : CommandCall) (now : Instant)
    : TimedRuntime :=
  { s with
    inner := s.inner.setCall i { call with phase := .cancelled }
    deadlines := Function.update s.deadlines i .panicked
    additions := s.additions ++ [(now, request.timeout)] }

theorem call_eq_some_iff {request : CommandRequest}
    : s.step (.call i request) = some t ↔ s.inner.calls i = none ∧ t = s.called i request := by
  cases hNew : s.inner.calls i with
  | some other => simp [step, call, RemoteRuntimeInner.startCall, hNew]
  | none =>
    simp only [step, call, RemoteRuntimeInner.startCall, hNew, Option.map_some, Option.some.injEq, true_and]
    exact eq_comm

theorem deadline_eq_some_iff {now : Instant}
    : s.step (.deadline i now) = some t
        ↔
      ∃ request call,
        s.requests i = some request ∧ s.inner.calls i = some call ∧ s.deadlines i = .notComputed
          ∧
        ((∃ deadline, now.checkedAdd request.timeout = some deadline
            ∧ t = s.withDeadline i request now deadline)
          ∨
        (now.checkedAdd request.timeout = none ∧ t = s.withPanic i request call now)) := by
  simp only [step, deadline]
  constructor
  . intro hStep
    split at hStep
    next request call hRequest hCall hDeadline =>
      refine ⟨request, call, hRequest, hCall, hDeadline, ?_⟩
      split at hStep
      next sum hAdd =>
        injection hStep with hStep
        exact .inl ⟨sum, hAdd, hStep.symm⟩
      next hAdd =>
        injection hStep with hStep
        exact .inr ⟨hAdd, hStep.symm⟩
    next => simp only [reduceCtorEq] at hStep
  . rintro ⟨request, call, hRequest, hCall, hDeadline, ⟨sum, hAdd, hSame⟩ | ⟨hAdd, hSame⟩⟩
    . rw [hRequest, hCall, hDeadline, hSame]
      simp only [hAdd]
      rfl
    . rw [hRequest, hCall, hDeadline, hSame]
      simp only [hAdd]
      rfl

theorem requests_called (s : TimedRuntime) (i : CallId) (request : CommandRequest)
    : (s.called i request).requests i = some request := Function.update_self ..

theorem calls_called (s : TimedRuntime) (i : CallId) (request : CommandRequest)
    : (s.called i request).inner.calls i = some (.new request.command) := Function.update_self ..

theorem requests_called_of_ne {request : CommandRequest} {j : CallId} (hNe : j ≠ i)
    : (s.called i request).requests j = s.requests j := Function.update_of_ne hNe ..

theorem calls_called_of_ne {request : CommandRequest} {j : CallId} (hNe : j ≠ i)
    : (s.called i request).inner.calls j = s.inner.calls j := Function.update_of_ne hNe ..

theorem calls_withPanic_of_ne {request : CommandRequest} {call : CommandCall} {now : Instant} {j : CallId}
    (hNe : j ≠ i)
    : (s.withPanic i request call now).inner.calls j = s.inner.calls j := Function.update_of_ne hNe ..

theorem deadlines_called (s : TimedRuntime) (i : CallId) (request : CommandRequest)
    : (s.called i request).deadlines i = .notComputed := Function.update_self ..

theorem reachesSending_iff {request : CommandRequest} {now : Instant} (hNew : s.inner.calls i = none)
    : s.ReachesSending i request now ↔ Representable now request.timeout := by
  have hRequest := requests_called s i request
  have hCall := calls_called s i request
  have hDeadline := deadlines_called s i request
  rw [← isSome_checkedAdd_iff]
  constructor
  . rintro ⟨t, u, instant, next, hStart, hStep, hComputed, _⟩
    rcases call_eq_some_iff.mp hStart with ⟨_, hSame⟩
    subst hSame
    rcases deadline_eq_some_iff.mp hStep with ⟨other, call, hOther, _, _, ⟨sum, hAdd, _⟩ | ⟨_, hPanic⟩⟩
    . rw [hRequest] at hOther
      injection hOther with hOther
      subst hOther
      rw [hAdd]
      rfl
    . rw [hPanic] at hComputed
      simp [withPanic] at hComputed
  . intro hSome
    rcases Option.isSome_iff_exists.mp hSome with ⟨sum, hAdd⟩
    have hStep := deadline_eq_some_iff.mpr ⟨request, _, hRequest, hCall, hDeadline, .inl ⟨sum, hAdd, rfl⟩⟩
    exact ⟨_, _, sum, _, call_eq_some_iff.mpr ⟨hNew, rfl⟩, hStep, Function.update_self ..,
      Instant.total_checkedAdd hAdd, hCall, rfl, rfl⟩

def NoPanic (s : TimedRuntime) : Prop := ∀ i, s.deadlines i ≠ .panicked

theorem noPanic_withDeadline {request : CommandRequest} {now deadline : Instant}
    (hDeadline : s.deadlines i = .notComputed)
    : (s.withDeadline i request now deadline).NoPanic ↔ s.NoPanic := by
  unfold NoPanic
  apply forall_congr'
  intro j
  rcases Decidable.em (j = i) with hEq | hNe
  . subst hEq
    simp [withDeadline, hDeadline]
  . have hOther : (s.withDeadline i request now deadline).deadlines j = s.deadlines j :=
      Function.update_of_ne hNe ..
    rw [hOther]

def AllRepresentable (s : TimedRuntime) : Prop :=
  ∀ addition ∈ s.additions, Representable addition.1 addition.2

structure Timed (s : TimedRuntime) : Prop where
  started : ∀ i, s.inner.calls i = none → s.deadlines i = .notComputed
  requested : ∀ i request, s.requests i = some request → ∃ call, s.inner.calls i = some call
  panics : s.NoPanic ↔ s.AllRepresentable

namespace Timed

theorem new : Timed new where
  started _ _ := rfl
  requested _ _ hRequest := by
    simp only [TimedRuntime.new, reduceCtorEq] at hRequest
  panics := by
    constructor
    . intro _ addition hMem
      contradiction
    . intro _ i hPanic
      simp only [TimedRuntime.new, reduceCtorEq] at hPanic

theorem stepInner {label : RuntimeLabel} (h : Timed s) (hStep : s.stepInner label = some t) : Timed t := by
  unfold TimedRuntime.stepInner at hStep
  rcases Option.map_eq_some_iff.mp hStep with ⟨inner, hInner, hSame⟩
  subst hSame
  have hExtend := RemoteRuntimeInner.CallsExtend.step hInner
  constructor
  case started =>
    intro i hNone
    apply h.started
    cases hCall : s.inner.calls i with
    | none => rfl
    | some call =>
      rcases hExtend i call hCall with ⟨next, hNext, _⟩
      rw [hNext] at hNone
      simp only [reduceCtorEq] at hNone
  case requested =>
    intro i request hRequest
    rcases h.requested i request hRequest with ⟨call, hCall⟩
    rcases hExtend i call hCall with ⟨next, hNext, _⟩
    exact ⟨next, hNext⟩
  case panics => exact h.panics

theorem call {request : CommandRequest} (h : Timed s) (hStep : s.step (.call i request) = some t) : Timed t := by
  rcases call_eq_some_iff.mp hStep with ⟨hNew, hSame⟩
  subst hSame
  have hDeadlines : (s.called i request).deadlines = s.deadlines := by
    unfold called
    simp only
    rw [← h.started i hNew, Function.update_eq_self]
  constructor
  case started =>
    intro j hNone
    rw [hDeadlines]
    apply h.started
    rcases Decidable.em (j = i) with hEq | hNe
    . rw [hEq]
      exact hNew
    . rw [calls_called_of_ne hNe] at hNone
      exact hNone
  case requested =>
    intro j other hOther
    rcases Decidable.em (j = i) with hEq | hNe
    . subst hEq
      exact ⟨_, calls_called ..⟩
    . rw [requests_called_of_ne hNe] at hOther
      rcases h.requested j other hOther with ⟨call, hCall⟩
      rw [calls_called_of_ne hNe]
      exact ⟨call, hCall⟩
  case panics =>
    unfold NoPanic
    rw [hDeadlines]
    exact h.panics

theorem deadline {now : Instant} (h : Timed s) (hStep : s.step (.deadline i now) = some t) : Timed t := by
  rcases deadline_eq_some_iff.mp hStep
    with ⟨request, call, hRequest, hCall, hDeadline, ⟨sum, hAdd, hSame⟩ | ⟨hAdd, hSame⟩⟩
  . subst hSame
    have hRepresentable : Representable now request.timeout := by
      rw [← isSome_checkedAdd_iff, hAdd]
      rfl
    constructor
    case started =>
      intro j hNone
      have hNe : j ≠ i := by
        intro hEq
        subst hEq
        rw [withDeadline, hCall] at hNone
        simp only [reduceCtorEq] at hNone
      rw [← h.started j hNone]
      exact Function.update_of_ne hNe ..
    case requested => exact h.requested
    case panics =>
      rw [noPanic_withDeadline hDeadline, h.panics]
      unfold AllRepresentable withDeadline
      rw [List.forall_mem_append, List.forall_mem_singleton]
      exact ⟨fun hAll => ⟨hAll, hRepresentable⟩, And.left⟩
  . subst hSame
    have hNotRepresentable : ¬ Representable now request.timeout := by
      rw [← isSome_checkedAdd_iff, hAdd]
      simp
    constructor
    case started =>
      intro j hNone
      rcases Decidable.em (j = i) with hEq | hNe
      . subst hEq
        simp [withPanic, RemoteRuntimeInner.setCall] at hNone
      . rw [calls_withPanic_of_ne hNe] at hNone
        rw [← h.started j hNone]
        exact Function.update_of_ne hNe ..
    case requested =>
      intro j other hOther
      rcases Decidable.em (j = i) with hEq | hNe
      . subst hEq
        exact ⟨_, Function.update_self ..⟩
      . rcases h.requested j other hOther with ⟨next, hNext⟩
        rw [calls_withPanic_of_ne hNe]
        exact ⟨next, hNext⟩
    case panics =>
      constructor
      . intro hNoPanic
        exact absurd (Function.update_self ..) (hNoPanic i)
      . intro hAll
        exact absurd (hAll (now, request.timeout) (by simp [withPanic])) hNotRepresentable

theorem step {label : TimedLabel} (h : Timed s) (hStep : s.step label = some t) : Timed t := by
  cases label with
  | call i request => exact h.call hStep
  | deadline i now => exact h.deadline hStep
  | task i label =>
    simp only [TimedRuntime.step] at hStep
    split at hStep
    . exact h.stepInner hStep
    . simp only [reduceCtorEq] at hStep
  | dispatch label => exact h.stepInner hStep
  | nextMessage => exact h.stepInner hStep
  | enableLogging => exact h.stepInner hStep

end Timed

theorem timed_of_run (hRun : Run step anyStep new labels s) : Timed s := by
  apply Run.invariant Timed.new _ hRun
  intro s label t h _ hStep
  exact h.step hStep

theorem representable_transitionTimeout_iff {State : Type} {now : Instant}
    {transition : Message.Transition State}
    : Representable now (transitionTimeout transition)
        ↔
      now.total + min (transition.method.duration.total + 2 * nanosPerSec) Duration.max.total
        < 2 ^ 63 * nanosPerSec := by
  unfold Representable transitionTimeout
  rw [Duration.total_saturatingAdd]
  exact Iff.rfl

/--
A transition reaches the sending of its command when its timeout from now is an instant, and a run is without a
panic when all its deadlines are instants.
-/
theorem deadlines_iff (i : CallId) (id uuid : Identifier)
    (fixtureTransition : Message.Transition FixtureState) (sourceTransition : Message.Transition SourceState)
    (now : Instant) (hNew : s.inner.calls i = none) (hRun : Run step anyStep new labels t)
    : (s.ReachesSending i (Fixture.transitionRequest id uuid fixtureTransition) now
          ↔ now.total + min (fixtureTransition.method.duration.total + 2 * nanosPerSec) Duration.max.total
            < 2 ^ 63 * nanosPerSec)
        ∧
      (s.ReachesSending i (Source.transitionRequest id uuid sourceTransition) now
          ↔ now.total + min (sourceTransition.method.duration.total + 2 * nanosPerSec) Duration.max.total
            < 2 ^ 63 * nanosPerSec)
        ∧
      (t.NoPanic ↔ t.AllRepresentable) := by
  refine ⟨?_, ?_, ?_⟩
  . rw [reachesSending_iff hNew]
    exact representable_transitionTimeout_iff
  . rw [reachesSending_iff hNew]
    exact representable_transitionTimeout_iff
  . exact (timed_of_run hRun).panics

def atBoot : Instant := ⟨0, 0, by decide, by decide, by decide⟩

def hourTransition : Message.Transition SourceState := ⟨⟨.flux, .relative 0⟩, .linear (.fromSecs 3600)⟩

def hourRequest : CommandRequest := Source.transitionRequest 1 2 hourTransition

theorem deadlines_iff_hour
    : new.ReachesSending 0 hourRequest atBoot
        ∧
      ∃ s, Run step anyStep new [.call 0 hourRequest, .deadline 0 atBoot] s
        ∧ s.additions.length = 1
        ∧ s.NoPanic := by
  have hNew : new.inner.calls 0 = none := rfl
  rcases Option.isSome_iff_exists.mp (show (atBoot.checkedAdd hourRequest.timeout).isSome = true by decide +kernel)
    with ⟨sum, hAdd⟩
  have hCall : new.step (.call 0 hourRequest) = some (new.called 0 hourRequest) := call_eq_some_iff.mpr ⟨rfl, rfl⟩
  have hDeadline : (new.called 0 hourRequest).step (.deadline 0 atBoot)
      = some ((new.called 0 hourRequest).withDeadline 0 hourRequest atBoot sum) :=
    deadline_eq_some_iff.mpr
      ⟨hourRequest, _, requests_called .., calls_called .., deadlines_called .., .inl ⟨sum, hAdd, rfl⟩⟩
  have hRun : Run step anyStep new [.call 0 hourRequest, .deadline 0 atBoot] _ :=
    (Run.nil.snoc trivial hCall).snoc trivial hDeadline
  rcases deadlines_iff 0 1 2 ⟨⟨.flux, .relative 0⟩, .linear Duration.max⟩ hourTransition atBoot hNew hRun
    with ⟨_, hSource, hNoPanic⟩
  refine ⟨hSource.mpr (by decide +kernel), _, hRun, rfl, hNoPanic.mpr ?_⟩
  intro addition hAddition
  -- the deadline of the call is the only addition
  have hOnly : addition = (atBoot, hourRequest.timeout) := by
    simpa [withDeadline, called, TimedRuntime.new] using hAddition
  rw [hOnly, ← isSome_checkedAdd_iff, hAdd]
  rfl

section Failing

def longTransition : Message.Transition FixtureState := ⟨⟨.flux, .relative 0⟩, .linear Duration.max⟩

def longRequest : CommandRequest := Fixture.transitionRequest 1 2 longTransition

theorem checkedAdd_long : atBoot.checkedAdd longRequest.timeout = none := by
  rw [← Option.not_isSome_iff_eq_none, Instant.checkedAdd_isSome_iff]
  have hTotal : longRequest.timeout.total = Duration.max.total := by decide +kernel
  rw [hTotal, Duration.total_max]
  decide

/-
A transition of the longest duration does not reach the sending, and its registration stays in the table.
-/
theorem not_deadlines
    : ¬ new.ReachesSending 0 longRequest atBoot
        ∧
      ∃ s, Run step anyStep new [.call 0 longRequest, .deadline 0 atBoot] s ∧ ¬ s.NoPanic
        ∧ s.inner.pendingCommands = [⟨2, 0⟩] := by
  constructor
  . rw [reachesSending_iff rfl, ← isSome_checkedAdd_iff, checkedAdd_long]
    simp
  . have hCall : new.step (.call 0 longRequest) = some (new.called 0 longRequest) :=
      call_eq_some_iff.mpr ⟨rfl, rfl⟩
    have hDeadline : (new.called 0 longRequest).step (.deadline 0 atBoot) = some
        ((new.called 0 longRequest).withPanic 0 longRequest (.new longRequest.command) atBoot) :=
      deadline_eq_some_iff.mpr
        ⟨longRequest, _, requests_called .., calls_called .., deadlines_called .., .inr ⟨checkedAdd_long, rfl⟩⟩
    refine ⟨_, (Run.nil.snoc trivial hCall).snoc trivial hDeadline, ?_, rfl⟩
    intro hNoPanic
    exact hNoPanic 0 rfl

end Failing

end TimedRuntime
end Runtime
end Enody
