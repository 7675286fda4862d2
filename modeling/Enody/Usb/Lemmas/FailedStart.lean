import Enody.Transition.Run
import Enody.Usb.Lemmas.Discovery

/-!
This module contains what `start_discovery` of a `UsbEnvironment` leaves behind when one of its backends
fails. The backends that were started before are stopped again, but the rusb backend gives its hotplug
registrations never back: each attempt that gets past it leaves one more behind.
-/

namespace Enody
namespace Usb

namespace Backend

def isRusb : Backend → Bool
  | rusb _ _ => true
  | serialPort _ => false

def registrations : Backend → Nat
  | rusb _ hotplugRegistrations => hotplugRegistrations
  | serialPort _ => 0

def rolledBack (backend : Backend) : Backend :=
  ((backend.startDiscovery (.ok ())).1.stopDiscovery true).1

@[simp]
theorem isRunning_rolledBack (backend : Backend) : backend.rolledBack.isRunning = false := by
  simp [rolledBack]

@[simp]
theorem isRusb_rolledBack (backend : Backend) : backend.rolledBack.isRusb = backend.isRusb := by
  cases backend with
  | rusb running registrations => cases running <;> rfl
  | serialPort running => cases running <;> rfl

theorem isRusb_start (backend : Backend)
    : (backend.startDiscovery (.ok ())).1.isRusb = backend.isRusb := by
  cases backend with
  | rusb running registrations => cases running <;> rfl
  | serialPort running => cases running <;> rfl

theorem registrations_start {backend : Backend} (h : backend.isRunning = false)
    : (backend.startDiscovery (.ok ())).1.registrations
        =
      backend.registrations + (if backend.isRusb then 1 else 0) := by
  cases backend with
  | rusb running registrations =>
    cases running with
    | true => contradiction
    | false => rfl
  | serialPort running =>
    cases running with
    | true => contradiction
    | false => rfl

theorem registrations_rolledBack {backend : Backend} (h : backend.isRunning = false)
    : backend.rolledBack.registrations
        =
      backend.registrations + (if backend.isRusb then 1 else 0) := by
  rw [← registrations_start h]
  unfold rolledBack
  cases (backend.startDiscovery (.ok ())).1 with
  | rusb running registrations => cases running <;> rfl
  | serialPort running => cases running <;> rfl

theorem start_error {backend : Backend} {outcome : Except (Error .std) Unit} {error : Error .std}
    (h : backend.isRunning = false) (hOutcome : outcome = .error error)
    : backend.startDiscovery outcome = (backend, .error error) := by
  unfold startDiscovery
  simp [h, hOutcome]

theorem start_eq_of_ok (backend : Backend) {outcome : Except (Error .std) Unit} {started : Backend}
    (h : backend.startDiscovery outcome = (started, .ok ()))
    : (backend.startDiscovery (.ok ())).1 = started := by
  unfold startDiscovery at h ⊢
  split at h
  . next hRunning =>
    injection h with h _
    rw [if_pos hRunning]
    exact h
  . next hRunning =>
    rw [if_neg hRunning]
    cases outcome with
    | error error =>
      injection h with _ h
      contradiction
    | ok =>
      exact congrArg Prod.fst h

end Backend

namespace Outcomes

structure FailsStart (outcomes : Outcomes) (backends : List Backend) : Prop where
  start : ∃ index < backends.length, ∃ error, outcomes.start index = .error error
  finishes : ∀ index, outcomes.finishes index = true

/-
No rusb backend comes before the first backend that fails.
-/
def SparesRusb (outcomes : Outcomes) (backends : List Backend) : Prop :=
  ∀ index backend, backends[index]? = some backend → backend.isRusb = true →
    ∃ earlier ≤ index, ∃ error, outcomes.start earlier = .error error

structure FailsFirst (outcomes : Outcomes) (index : Nat) (error : Error .std) : Prop where
  error : outcomes.start index = .error error
  ok : ∀ earlier < index, outcomes.start earlier = .ok ()

theorem FailsStart.exists_first {outcomes : Outcomes} {backends : List Backend}
    (hFails : outcomes.FailsStart backends)
    : ∃ index error, index < backends.length ∧ outcomes.FailsFirst index error := by
  rcases hFails.start with ⟨index, hIndex, hError⟩
  induction index using Nat.strongRecOn with
  | ind index ih =>
    by_cases hEarlier : ∃ earlier < index, ∃ error, outcomes.start earlier = .error error
    . rcases hEarlier with ⟨earlier, hLt, hEarlier⟩
      exact ih earlier hLt (by omega) hEarlier
    . rcases hError with ⟨error, hError⟩
      refine ⟨index, error, hIndex, hError, ?_⟩
      intro earlier hLt
      cases hStart : outcomes.start earlier with
      | error other => exact absurd ⟨earlier, hLt, other, hStart⟩ hEarlier
      | ok => rfl

theorem FailsFirst.sparesRusb_iff {outcomes : Outcomes} {backends : List Backend} {index : Nat}
    {error : Error .std} (hFirst : outcomes.FailsFirst index error)
    : outcomes.SparesRusb backends ↔ ∀ backend ∈ backends.take index, backend.isRusb = false := by
  constructor
  . intro hSpares backend hBackend
    rw [Bool.eq_false_iff]
    intro hRusb
    rcases List.mem_iff_getElem?.mp hBackend with ⟨position, hPosition⟩
    rw [List.getElem?_take] at hPosition
    split at hPosition
    . next hLt =>
      rcases hSpares position backend hPosition hRusb with ⟨earlier, hLe, other, hOther⟩
      rw [hFirst.ok earlier (by omega)] at hOther
      contradiction
    . contradiction
  . intro hNone position backend hPosition hRusb
    by_cases hLt : position < index
    . have hMem : backend ∈ backends.take index := by
        apply List.mem_of_getElem? (i := position)
        rw [List.getElem?_take_of_lt hLt]
        exact hPosition
      rw [hNone backend hMem] at hRusb
      contradiction
    . exact ⟨index, by omega, error, hFirst.error⟩

end Outcomes

namespace UsbDiscovery

variable {s : UsbDiscovery} {debugFormat : Error .std → String}

def rollBack (index : Nat) (backends : List Backend) : List Backend :=
  (backends.take index).map Backend.rolledBack ++ backends.drop index

theorem startBackends_failing (backends : List Backend) (outcomes : Outcomes) (index failed : Nat)
    {error : Error .std} (hRunning : ∀ backend ∈ backends, backend.isRunning = false)
    (hFailed : failed < backends.length)
    (hError : outcomes.start (index + failed) = .error error)
    (hOk : ∀ earlier < failed, outcomes.start (index + earlier) = .ok ())
    : startBackends outcomes index backends
        =
      ((backends.take failed).map (fun backend => (backend.startDiscovery (.ok ())).1)
        ++ backends.drop failed, some (index + failed, error)) := by
  induction backends generalizing index failed with
  | nil => contradiction
  | cons backend backends ih =>
    have hBackend := hRunning backend (by simp)
    unfold startBackends
    cases failed with
    | zero =>
      rw [Nat.add_zero] at hError
      rw [Backend.start_error hBackend hError]
      rfl
    | succ failed =>
      have hRest := ih (index + 1) failed
        (fun other hOther => hRunning other (by simp [hOther]))
        (by simpa using hFailed)
        (by rw [← hError]; congr 1; omega)
        (by
          intro earlier hEarlier
          rw [← hOk (earlier + 1) (by omega)]
          congr 1
          omega)
      have hStarted : backend.startDiscovery (outcomes.start index)
          = ((backend.startDiscovery (.ok ())).1, .ok ()) := by
        have hFirst := hOk 0 (by omega)
        rw [Nat.add_zero] at hFirst
        rw [hFirst]
        exact Prod.ext rfl backend.start_ok
      rw [hStarted]
      simp only [hRest, List.take_succ_cons, List.map_cons, List.cons_append, List.drop_succ_cons]
      congr 3
      omega

theorem stopStarted_eq {outcomes : Outcomes} (hFinishes : ∀ index, outcomes.finishes index = true)
    {failed : Nat} {backends : List Backend} (hFailed : failed < backends.length)
    : stopStarted outcomes failed
        ((backends.take failed).map (fun backend => (backend.startDiscovery (.ok ())).1)
          ++ backends.drop failed)
        =
      rollBack failed backends := by
  unfold stopStarted rollBack
  apply List.ext_getElem?
  intro index
  simp only [hFinishes, List.getElem?_mapIdx]
  by_cases hIndex : index < failed
  . rw [List.getElem?_append_left (by simp; omega), List.getElem?_append_left (by simp; omega)]
    simp only [hIndex, ↓reduceIte, List.getElem?_map, Option.map_map]
    rfl
  . rw [List.getElem?_append_right (by simp; omega), List.getElem?_append_right (by simp; omega)]
    simp [hIndex]

theorem start_failing (debugFormat : Error .std → String) {outcomes : Outcomes}
    (hStopped : s.Stopped) {eventRx : DeviceEvents} (hRx : s.deviceEventRx = some eventRx)
    (hFails : outcomes.FailsStart s.backends)
    : ∃ index error,
        outcomes.FailsFirst index error
          ∧
        (s.startDiscovery debugFormat outcomes).1
          = { s with backends := rollBack index s.backends }
          ∧
        ∃ message, (s.startDiscovery debugFormat outcomes).2 = .error message := by
  rcases hFails.exists_first with ⟨index, error, hIndex, hFirst⟩
  have hStart := startBackends_failing s.backends outcomes 0 index hStopped.backends hIndex
    (by simpa using hFirst.error) (by simpa using hFirst.ok)
  rw [Nat.zero_add] at hStart
  refine ⟨index, error, hFirst, ?_⟩
  unfold startDiscovery
  simp only [hStopped.eventHandlerTask, hRx, hStart, stopStarted_eq hFails.finishes hIndex]
  exact ⟨trivial, _, rfl⟩

theorem startBackends_none {outcomes : Outcomes} {index : Nat} {backends started : List Backend}
    (h : startBackends outcomes index backends = (started, none))
    : started = backends.map fun backend => (backend.startDiscovery (.ok ())).1 := by
  induction backends generalizing index started with
  | nil =>
    injection h with h _
    exact h.symm
  | cons backend backends ih =>
    unfold startBackends at h
    cases hFirst : backend.startDiscovery (outcomes.start index) with
    | mk first result =>
      rw [hFirst] at h
      cases result with
      | error error =>
        injection h with _ h
        contradiction
      | ok =>
        cases hRest : startBackends outcomes (index + 1) backends with
        | mk rest failed =>
          simp only [hRest] at h
          injection h with hStarted hFailed
          subst hFailed
          rw [← hStarted, List.map_cons, ih hRest]
          congr 1
          rw [← backend.start_eq_of_ok hFirst]

theorem start_ok_backends {outcomes : Outcomes} {t : UsbDiscovery} (hStopped : s.Stopped)
    (h : s.startDiscovery debugFormat outcomes = (t, .ok ()))
    : t.backends = s.backends.map fun backend => (backend.startDiscovery (.ok ())).1 := by
  unfold startDiscovery at h
  rw [hStopped.eventHandlerTask] at h
  cases hRx : s.deviceEventRx with
  | none =>
    rw [hRx] at h
    injection h with _ h
    contradiction
  | some eventRx =>
    rw [hRx] at h
    cases hStart : startBackends outcomes 0 s.backends with
    | mk started failed =>
      simp only [hStart] at h
      cases failed with
      | some failure =>
        injection h with _ h
        contradiction
      | none =>
        injection h with h _
        rw [← h]
        exact startBackends_none hStart

def Clean (backends : List Backend) : Prop :=
  ∀ backend ∈ backends, backend.registrations = 0

theorem stopped_rollBack {backends : List Backend} {index : Nat}
    (h : ∀ backend ∈ backends, backend.isRunning = false)
    : ∀ backend ∈ rollBack index backends, backend.isRunning = false := by
  intro backend hBackend
  unfold rollBack at hBackend
  rw [List.mem_append, List.mem_map] at hBackend
  rcases hBackend with ⟨before, _, rfl⟩ | hBackend
  . simp
  . exact h backend (List.mem_of_mem_drop hBackend)

theorem isRusb_rollBack (index : Nat) (backends : List Backend)
    : (rollBack index backends).map Backend.isRusb = backends.map Backend.isRusb := by
  unfold rollBack
  rw [List.map_append, List.map_map, ← List.take_append_drop index (backends.map Backend.isRusb),
    ← List.map_take, ← List.map_drop]
  congr 1
  apply List.map_congr_left
  intro backend _
  simp

theorem clean_rollBack_iff {backends : List Backend} {index : Nat}
    (hRunning : ∀ backend ∈ backends, backend.isRunning = false)
    : Clean (rollBack index backends)
        ↔
      Clean backends ∧ ∀ backend ∈ backends.take index, backend.isRusb = false := by
  have hRolledBack : ∀ backend ∈ backends.take index,
      (backend.rolledBack.registrations = 0
        ↔ backend.registrations = 0 ∧ backend.isRusb = false) := by
    intro backend hBackend
    rw [Backend.registrations_rolledBack (hRunning backend (List.mem_of_mem_take hBackend))]
    cases backend.isRusb <;> simp
  unfold Clean rollBack
  constructor
  . intro hClean
    constructor
    . intro backend hBackend
      rw [← List.take_append_drop index backends, List.mem_append] at hBackend
      rcases hBackend with hTake | hDrop
      . have hZero := hClean backend.rolledBack (by
          rw [List.mem_append]
          exact .inl (List.mem_map_of_mem hTake))
        exact ((hRolledBack backend hTake).mp hZero).left
      . apply hClean
        rw [List.mem_append]
        exact .inr hDrop
    . intro backend hTake
      have hZero := hClean backend.rolledBack (by
        rw [List.mem_append]
        exact .inl (List.mem_map_of_mem hTake))
      exact ((hRolledBack backend hTake).mp hZero).right
  . rintro ⟨hClean, hNone⟩ backend hBackend
    rw [List.mem_append, List.mem_map] at hBackend
    rcases hBackend with ⟨before, hTake, rfl⟩ | hDrop
    . rw [hRolledBack before hTake]
      exact ⟨hClean before (List.mem_of_mem_take hTake), hNone before hTake⟩
    . exact hClean backend (List.mem_of_mem_drop hDrop)

theorem sparesRusb_congr {outcomes : Outcomes} {backends other : List Backend}
    (h : other.map Backend.isRusb = backends.map Backend.isRusb)
    : outcomes.SparesRusb other ↔ outcomes.SparesRusb backends := by
  have hImp : ∀ {these those : List Backend}, these.map Backend.isRusb = those.map Backend.isRusb →
      outcomes.SparesRusb those → outcomes.SparesRusb these := by
    intro these those hEq hSpares index backend hIndex hRusb
    have hKind := congrArg (·[index]?) hEq
    simp only [List.getElem?_map, hIndex, Option.map_some] at hKind
    rcases Option.map_eq_some_iff.mp hKind.symm with ⟨found, hFound, hSame⟩
    exact hSpares index found hFound (hSame.trans hRusb)
  exact ⟨hImp h.symm, hImp h⟩

def startEach (debugFormat : Error .std → String) (s : UsbDiscovery)
    : List Outcomes → UsbDiscovery × List (Except (Error .std) Unit)
  | [] => (s, [])
  | outcomes :: attempts =>
    let (t, result) := s.startDiscovery debugFormat outcomes
    let (u, results) := startEach debugFormat t attempts
    (u, result :: results)

/--
What failed attempts promise: they return errors, discovery can be started again, and no task and no
registration is left. Then a start that succeeds registers each identifier once.
-/
structure LeavesNothing (debugFormat : Error .std → String) (s : UsbDiscovery)
    (attempts : List Outcomes) : Prop where
  errors : ∀ result ∈ (s.startEach debugFormat attempts).2, result ≠ .ok ()
  deviceEventRx : (s.startEach debugFormat attempts).1.deviceEventRx.isSome = true
  stopped : (s.startEach debugFormat attempts).1.Stopped
  registrations : Clean (s.startEach debugFormat attempts).1.backends
  once : ∀ outcomes t, (s.startEach debugFormat attempts).1.startDiscovery debugFormat outcomes
      = (t, .ok ()) →
    ∀ backend ∈ t.backends, backend.isRusb = true → backend.registrations = 1

theorem startBackends_some {outcomes : Outcomes} {index failed : Nat} {backends started : List Backend}
    {error : Error .std} (hRunning : ∀ backend ∈ backends, backend.isRunning = false)
    (h : startBackends outcomes index backends = (started, some (failed, error)))
    : index ≤ failed
        ∧
      ∀ position backend, started[position]? = some backend → failed ≤ index + position →
        backend.isRunning = false := by
  induction backends generalizing index started with
  | nil =>
    injection h with _ h
    contradiction
  | cons backend backends ih =>
    have hBackend := hRunning backend (by simp)
    have hBackends : ∀ other ∈ backends, other.isRunning = false := by
      intro other hOther
      exact hRunning other (by simp [hOther])
    unfold startBackends at h
    cases hOutcome : outcomes.start index with
    | error other =>
      rw [Backend.start_error hBackend hOutcome] at h
      injection h with hStarted hFailed
      injection hFailed with hFailed
      injection hFailed with hFailed _
      rw [← hStarted, ← hFailed]
      refine ⟨Nat.le_refl _, ?_⟩
      intro position other hPosition _
      exact hRunning other (List.mem_of_getElem? hPosition)
    | ok =>
      have hFirst : backend.startDiscovery (.ok ()) = ((backend.startDiscovery (.ok ())).1, .ok ()) :=
        Prod.ext rfl backend.start_ok
      rw [hOutcome, hFirst] at h
      cases hRest : startBackends outcomes (index + 1) backends with
      | mk rest failure =>
        simp only [hRest] at h
        injection h with hStarted hFailed
        subst hFailed
        rcases ih hBackends hRest with ⟨hLe, hBehind⟩
        rw [← hStarted]
        refine ⟨by omega, ?_⟩
        intro position other hPosition hFailed
        cases position with
        | zero => omega
        | succ position =>
          rw [List.getElem?_cons_succ] at hPosition
          exact hBehind position other hPosition (by omega)

theorem not_running_of_stopStarted {outcomes : Outcomes} {failed : Nat}
    {backends started : List Backend} {error : Error .std}
    (hRunning : ∀ backend ∈ backends, backend.isRunning = false)
    (h : startBackends outcomes 0 backends = (started, some (failed, error)))
    : ∀ backend ∈ stopStarted outcomes failed started, backend.isRunning = false := by
  intro backend hBackend
  rcases startBackends_some hRunning h with ⟨_, hBehind⟩
  unfold stopStarted at hBackend
  rcases List.mem_mapIdx.mp hBackend with ⟨index, hIndex, rfl⟩
  split
  . simp
  . next hFailed =>
    exact hBehind index _ (List.getElem?_eq_getElem hIndex) (by omega)

theorem eventHandlerTask_of_handleEvent {t : UsbDiscovery} (h : s.handleEvent = some t)
    : t.eventHandlerTask.isSome = true := by
  unfold handleEvent at h
  cases hTask : s.eventHandlerTask with
  | none =>
    simp only [hTask] at h
    contradiction
  | some events =>
    simp only [hTask] at h
    cases hRecv : events.recv with
    | none =>
      simp only [hRecv] at h
      contradiction
    | some received =>
      simp only [hRecv] at h
      cases hEvent : (s.environment.handleDeviceEvent received.1).2 with
      | none =>
        simp only [hEvent] at h
        injection h with h
        subst h
        rfl
      | some runtimeEvent =>
        simp only [hEvent] at h
        cases hSend : s.runtimeEvents.trySend runtimeEvent with
        | none =>
          simp only [hSend] at h
          contradiction
        | some runtimeEvents =>
          simp only [hSend] at h
          injection h with h
          subst h
          rfl

/--
What can happen to a `UsbEnvironment`, with what the system answers to its backends.
-/
inductive Step where
  | start (outcomes : Outcomes)
  | stop (outcomes : Outcomes)
  | backendEvent (index : Nat) (event : UsbDeviceEvent)
  | handleEvent
  | nextRuntimeEvent

def step (debugFormat : Error .std → String) (s : UsbDiscovery) : Step → Option UsbDiscovery
  | .start outcomes => some (s.startDiscovery debugFormat outcomes).1
  | .stop outcomes => some (s.stopDiscovery outcomes).1
  | .backendEvent index event => s.backendEvent index event
  | .handleEvent => s.handleEvent
  | .nextRuntimeEvent => s.nextRuntimeEvent.map Prod.fst

theorem not_running_of_start {outcomes : Outcomes} (hStopped : s.Stopped)
    (hTask : (s.startDiscovery debugFormat outcomes).1.eventHandlerTask = none)
    : ∀ backend ∈ (s.startDiscovery debugFormat outcomes).1.backends, backend.isRunning = false := by
  unfold startDiscovery at hTask ⊢
  rw [hStopped.eventHandlerTask] at hTask ⊢
  cases hRx : s.deviceEventRx with
  | none => exact hStopped.backends
  | some eventRx =>
    simp only [hRx] at hTask ⊢
    cases hStart : startBackends outcomes 0 s.backends with
    | mk started failed =>
      simp only [hStart] at hTask ⊢
      cases failed with
      | none => contradiction
      | some failure =>
        intro backend hBackend
        exact not_running_of_stopStarted hStopped.backends hStart backend hBackend

theorem step_not_running {label : Step} {t : UsbDiscovery}
    (hRunning : s.eventHandlerTask = none → ∀ backend ∈ s.backends, backend.isRunning = false)
    (hStep : s.step debugFormat label = some t) (hTask : t.eventHandlerTask = none)
    : ∀ backend ∈ t.backends, backend.isRunning = false := by
  cases label with
  | start outcomes =>
    injection hStep with hStep
    subst hStep
    cases hBefore : s.eventHandlerTask with
    | none => exact not_running_of_start ⟨hBefore, hRunning hBefore⟩ hTask
    | some events =>
      -- discovery was running, so the start has changed nothing
      unfold startDiscovery at hTask
      rw [hBefore] at hTask
      simp only at hTask
      rw [hBefore] at hTask
      contradiction
  | stop outcomes =>
    injection hStep with hStep
    subst hStep
    intro backend hBackend
    unfold stopDiscovery at hBackend
    rw [List.mem_map] at hBackend
    rcases hBackend with ⟨stopped, hStopped, rfl⟩
    rcases List.mem_mapIdx.mp hStopped with ⟨index, _, rfl⟩
    simp
  | backendEvent index event =>
    unfold step backendEvent at hStep
    simp only at hStep
    split at hStep
    . contradiction
    . split at hStep
      . split at hStep
        . injection hStep with hStep
          subst hStep
          contradiction
        . next hBefore _ =>
          injection hStep with hStep
          subst hStep
          exact hRunning hBefore
        . next hBefore _ =>
          injection hStep with hStep
          subst hStep
          exact hRunning hBefore
      . contradiction
  | handleEvent =>
    have hSome := eventHandlerTask_of_handleEvent hStep
    rw [hTask] at hSome
    contradiction
  | nextRuntimeEvent =>
    unfold step nextRuntimeEvent at hStep
    cases hBefore : s.eventHandlerTask with
    | none =>
      simp only [hBefore, Option.map_some] at hStep
      injection hStep with hStep
      subst hStep
      exact hRunning hBefore
    | some events =>
      simp only [hBefore] at hStep
      cases hRecv : s.runtimeEvents.recv with
      | none =>
        simp only [hRecv] at hStep
        contradiction
      | some received =>
        simp only [hRecv, Option.map_some] at hStep
        injection hStep with hStep
        subst hStep
        cases hTask

theorem stopped_of_run {environment : UsbEnvironment} {rusbInit serialPortInit : Bool}
    {labels : List Step}
    (hRun : Transition.Run (step debugFormat) Transition.anyStep
      (new environment rusbInit serialPortInit) labels s)
    (hTask : s.eventHandlerTask = none)
    : s.Stopped := by
  have hInvariant : s.eventHandlerTask = none → ∀ backend ∈ s.backends, backend.isRunning = false := by
    apply Transition.Run.invariant _ _ hRun
    . intro _ backend hBackend
      exact not_running_of_mem_enabledBackends hBackend
    . intro t label u hBefore _ hStep hNone
      exact step_not_running hBefore hStep hNone
  exact ⟨hTask, hInvariant hTask⟩

structure Attempt (s : UsbDiscovery) (outcomes : Outcomes) (t : UsbDiscovery) : Prop where
  stopped : t.Stopped
  deviceEventRx : t.deviceEventRx = s.deviceEventRx
  kinds : t.backends.map Backend.isRusb = s.backends.map Backend.isRusb
  clean : s.deviceEventRx.isSome = true →
    (Clean t.backends ↔ Clean s.backends ∧ outcomes.SparesRusb s.backends)

theorem Attempt.of_start (debugFormat : Error .std → String) {outcomes : Outcomes}
    (hStopped : s.Stopped) (hFails : outcomes.FailsStart s.backends)
    : s.Attempt outcomes (s.startDiscovery debugFormat outcomes).1
        ∧
      (s.startDiscovery debugFormat outcomes).2 ≠ .ok () := by
  cases hRx : s.deviceEventRx with
  | none =>
    have hStart : s.startDiscovery debugFormat outcomes
        = (s, .error (.debugText "device event channel already consumed")) := by
      unfold startDiscovery
      simp only [hStopped.eventHandlerTask, hRx]
    rw [hStart]
    refine ⟨⟨hStopped, rfl, rfl, ?_⟩, nofun⟩
    intro hSome
    rw [hRx] at hSome
    contradiction
  | some eventRx =>
    rcases start_failing debugFormat hStopped hRx hFails with
      ⟨index, error, hFirst, hState, message, hMessage⟩
    rw [hState, hMessage]
    refine ⟨?_, nofun⟩
    constructor
    case stopped => exact ⟨hStopped.eventHandlerTask, stopped_rollBack hStopped.backends⟩
    case deviceEventRx => rfl
    case kinds => exact isRusb_rollBack index s.backends
    case clean =>
      intro _
      rw [clean_rollBack_iff hStopped.backends, hFirst.sparesRusb_iff]

/-
The induction is on the attempts: each of them starts where the one before it has left off.
-/
theorem startEach_failing (debugFormat : Error .std → String) (attempts : List Outcomes)
    (hStopped : s.Stopped) (hFails : ∀ outcomes ∈ attempts, outcomes.FailsStart s.backends)
    : (∀ result ∈ (s.startEach debugFormat attempts).2, result ≠ .ok ())
        ∧
      (s.startEach debugFormat attempts).1.Stopped
        ∧
      (s.startEach debugFormat attempts).1.deviceEventRx = s.deviceEventRx
        ∧
      (s.deviceEventRx.isSome = true →
        (Clean (s.startEach debugFormat attempts).1.backends
          ↔
        Clean s.backends ∧ ∀ outcomes ∈ attempts, outcomes.SparesRusb s.backends)) := by
  induction attempts generalizing s with
  | nil => exact ⟨nofun, hStopped, rfl, by simp [startEach]⟩
  | cons outcomes attempts ih =>
    rcases Attempt.of_start debugFormat hStopped (hFails outcomes (by simp)) with
      ⟨hAttempt, hError⟩
    have hLength := congrArg List.length hAttempt.kinds
    rw [List.length_map, List.length_map] at hLength
    have hFails' : ∀ other ∈ attempts,
        other.FailsStart (s.startDiscovery debugFormat outcomes).1.backends := by
      intro other hOther
      have hOtherFails := hFails other (by simp [hOther])
      constructor
      . rw [hLength]
        exact hOtherFails.start
      . exact hOtherFails.finishes
    rcases ih hAttempt.stopped hFails' with ⟨hErrors, hStopped', hRx, hClean⟩
    unfold startEach
    refine ⟨?_, hStopped', hRx.trans hAttempt.deviceEventRx, ?_⟩
    . intro result hResult
      rcases List.mem_cons.mp hResult with rfl | hResult
      . exact hError
      . exact hErrors result hResult
    . intro hSome
      rw [hClean (by rw [hAttempt.deviceEventRx]; exact hSome), hAttempt.clean hSome, and_assoc]
      apply and_congr_right
      intro _
      rw [List.forall_mem_cons]
      apply and_congr_right
      intro _
      apply forall₂_congr
      intro other _
      exact sparesRusb_congr hAttempt.kinds

/--
Failed attempts leave nothing behind if and only if there was nothing before, and none of them fails
behind a rusb backend.
-/
theorem leavesNothing_iff (debugFormat : Error .std → String) (s : UsbDiscovery)
    (attempts : List Outcomes) (hStopped : s.Stopped)
    (hFails : ∀ outcomes ∈ attempts, outcomes.FailsStart s.backends)
    : LeavesNothing debugFormat s attempts
        ↔
      s.deviceEventRx.isSome = true ∧ Clean s.backends
        ∧ ∀ outcomes ∈ attempts, outcomes.SparesRusb s.backends := by
  rcases startEach_failing debugFormat attempts hStopped hFails with
    ⟨hErrors, hStopped', hRx, hClean⟩
  constructor
  . intro hNothing
    have hSome : s.deviceEventRx.isSome = true := by
      rw [← hRx]
      exact hNothing.deviceEventRx
    exact ⟨hSome, (hClean hSome).mp hNothing.registrations⟩
  . rintro ⟨hSome, hBefore⟩
    have hAfter := (hClean hSome).mpr hBefore
    constructor
    case errors => exact hErrors
    case deviceEventRx =>
      rw [hRx]
      exact hSome
    case stopped => exact hStopped'
    case registrations => exact hAfter
    case once =>
      intro outcomes t hStart backend hBackend hRusb
      rw [start_ok_backends hStopped' hStart, List.mem_map] at hBackend
      rcases hBackend with ⟨before, hBefore, rfl⟩
      have hIdle := hStopped'.backends before hBefore
      rw [Backend.registrations_start hIdle, hAfter before hBefore]
      rw [Backend.isRusb_start] at hRusb
      simp [hRusb]

section SerialPortFails

def serialPortFails : Outcomes where
  start := fun index => if index = 1 then .error (.usbText "No such file or directory") else .ok ()
  finishes := fun _ => true

def rusbFails : Outcomes where
  start := fun index => if index = 0 then .error (.usbText "Operation not supported") else .ok ()
  finishes := fun _ => true

theorem leavesNothing_rusbFails
    : LeavesNothing (fun _ => "") (new .empty true true) [rusbFails, rusbFails] := by
  have hFails : ∀ outcomes ∈ [rusbFails, rusbFails],
      outcomes.FailsStart (new .empty true true).backends := by
    intro outcomes hOutcomes
    have hEq : outcomes = rusbFails := by simpa using hOutcomes
    subst hEq
    exact ⟨⟨0, by decide, _, rfl⟩, fun _ => rfl⟩
  rw [leavesNothing_iff _ _ _ (Fresh.new .empty true true).stopped hFails]
  refine ⟨rfl, ?_, ?_⟩
  . unfold Clean
    decide
  . intro outcomes hOutcomes index backend _ _
    have hEq : outcomes = rusbFails := by simpa using hOutcomes
    subst hEq
    exact ⟨0, by omega, _, rfl⟩

theorem not_leavesNothing
    : ¬ ∀ (s : UsbDiscovery) (attempts : List Outcomes), s.Fresh → Clean s.backends →
        (∀ outcomes ∈ attempts, outcomes.FailsStart s.backends) →
        LeavesNothing (fun _ => "") s attempts := by
  intro hAll
  have hFails : ∀ outcomes ∈ [serialPortFails],
      outcomes.FailsStart (new .empty true true).backends := by
    intro outcomes hOutcomes
    have hEq : outcomes = serialPortFails := by simpa using hOutcomes
    subst hEq
    exact ⟨⟨1, by decide, _, rfl⟩, fun _ => rfl⟩
  have hClean : Clean (new .empty true true).backends := by
    unfold Clean
    decide
  have hNothing := hAll (new .empty true true) [serialPortFails]
    (Fresh.new .empty true true) hClean hFails
  have hZero := hNothing.registrations (.rusb false 1) (by decide)
  contradiction

end SerialPortFails

end UsbDiscovery

end Usb
end Enody
