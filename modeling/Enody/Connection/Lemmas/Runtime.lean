import Enody.Connection.Impl.Runtime
import Enody.Transition.Run

/-!
This module contains what a successful `RemoteRuntime::connect` guarantees. The stored connection always
has its own receiver, but `connect` does not look at the read task of a connection that is already
stored.
-/

namespace Enody
namespace Connection
namespace RuntimeState

open Transition

variable {transport : TaskTransport} {s t : RuntimeState} {label : RuntimeLabel}
variable {outcome : Except (Error .std) Unit}

/-
The stored connection is read, the receiver of the dispatch task is its receiver, and the dispatch task
runs.
-/
def Live (s : RuntimeState) : Prop :=
  ∃ id,
    s.device.connection = some id
      ∧ s.readTask id = .running ∧ s.device.messageRx = some id ∧ s.dispatchTask = .running

/-
The condition under which `connect` establishes a live connection: none is stored, or the stored one is
still read.
-/
def notDead (s : RuntimeState) : Bool :=
  match s.device.connection with
  | none => true
  | some id => (s.readTask id).isRunning

def OwnReceiver (s : RuntimeState) : Prop :=
  ∀ id, s.device.connection = some id → s.device.messageRx = some id

theorem ensureDispatchTask_dispatchTask (s : RuntimeState)
    : s.ensureDispatchTask.dispatchTask = .running := by
  unfold ensureDispatchTask
  simp only
  split
  . rfl
  . rfl
  . rfl

theorem isRunning_iff (task : ReadTask) : task.isRunning = true ↔ task = .running := by
  cases task with
  | running => simp [ReadTask.isRunning]
  | ended => simp [ReadTask.isRunning]

theorem connect_of_some {id : ConnectionId} (h : s.device.connection = some id)
    : s.connect outcome = (s.ensureDispatchTask, .ok ()) := by
  unfold connect connectDevice
  simp only [h]

theorem connect_of_none (h : s.device.connection = none)
    : s.connect (.ok ())
        =
      ((({ s with device := s.device.store }.setReadTask s.device.opened .running).setMessageRx
          (some s.device.opened)).ensureDispatchTask, .ok ()) := by
  unfold connect connectDevice
  simp only [h]

theorem connect_error {error : Error .std} (h : s.device.connection = none)
    : s.connect (.error error) = (s, .error error) := by
  unfold connect connectDevice
  simp only [h]

theorem not_live_of_readTaskEnds {result : Except (Error .std) Unit}
    (h : s.readTaskEnds result = some t)
    : ¬ Live t := by
  unfold readTaskEnds at h
  split at h
  . contradiction
  . next id hConnection =>
    split at h
    . injection h with h
      rw [← h]
      rintro ⟨other, hOther, hRunning, _⟩
      have hSame : some other = some id := by
        rw [← hOther, ← hConnection]
        rfl
      injection hSame with hSame
      rw [hSame] at hRunning
      simp [setReadTask] at hRunning
    . contradiction

theorem not_live_of_dispatchEnds (h : s.dispatchEnds = some t) : ¬ Live t := by
  unfold dispatchEnds at h
  split at h
  . injection h with h
    rw [← h]
    rintro ⟨_, _, _, _, hDispatch⟩
    contradiction
  . contradiction

namespace OwnReceiver

theorem new : OwnReceiver new := by
  intro id hConnection
  contradiction

theorem connect (h : OwnReceiver s) : OwnReceiver (s.connect outcome).1 := by
  cases hConnection : s.device.connection with
  | some id =>
    rw [connect_of_some hConnection]
    exact h
  | none =>
    cases outcome with
    | error error =>
      rw [connect_error hConnection]
      exact h
    | ok =>
      rw [connect_of_none hConnection]
      intro id hStored
      exact hStored

theorem disconnect : OwnReceiver (s.disconnect transport outcome).1 := by
  have hNone : (s.disconnect transport outcome).1.device.connection = none := by
    unfold RuntimeState.disconnect disconnectDevice
    split
    . next hConnection =>
      split
      . exact hConnection
      . exact hConnection
    . simp only
      split
      . rfl
      . rfl
  intro id hConnection
  rw [hNone] at hConnection
  contradiction

theorem step (h : OwnReceiver s) (hStep : s.step transport label = some t) : OwnReceiver t := by
  cases label with
  | connect outcome =>
    injection hStep with hStep
    rw [← hStep]
    exact h.connect
  | disconnect outcome =>
    injection hStep with hStep
    rw [← hStep]
    exact disconnect
  | readTaskEnds result =>
    simp only [RuntimeState.step, readTaskEnds] at hStep
    split at hStep
    . contradiction
    . split at hStep
      . injection hStep with hStep
        rw [← hStep]
        exact h
      . contradiction
  | dispatchEnds =>
    simp only [RuntimeState.step, dispatchEnds] at hStep
    split at hStep
    . injection hStep with hStep
      rw [← hStep]
      exact h
    . contradiction

end OwnReceiver

theorem run_ownReceiver {labels : List RuntimeLabel}
    (hRun : Run (step transport) anyStep new labels s)
    : OwnReceiver s := by
  apply hRun.invariant OwnReceiver.new
  intro s label t h _ hStep
  exact h.step hStep

theorem connect_live_iff (transport : TaskTransport) (labels : List RuntimeLabel)
    (s t : RuntimeState) (outcome : Except (Error .std) Unit)
    (hRun : Run (step transport) anyStep new labels s)
    (hConnect : s.connect outcome = (t, .ok ()))
    : Live t ↔ s.notDead = true := by
  have hOwn := run_ownReceiver hRun
  unfold notDead
  cases hConnection : s.device.connection with
  | some id =>
    -- `connect` returns at once, so the connection is as live as it was
    rw [connect_of_some hConnection] at hConnect
    injection hConnect with hState
    rw [← hState]
    simp only [isRunning_iff]
    constructor
    . rintro ⟨other, hOther, hRunning, _⟩
      have hSame : some other = some id := by
        rw [← hOther, ← hConnection]
        rfl
      injection hSame with hSame
      rw [← hSame]
      exact hRunning
    . intro hRunning
      exact ⟨id, hConnection, hRunning, hOwn id hConnection, ensureDispatchTask_dispatchTask s⟩
  | none =>
    cases outcome with
    | error error =>
      rw [connect_error hConnection] at hConnect
      injection hConnect with _ hResult
      contradiction
    | ok =>
      rw [connect_of_none hConnection] at hConnect
      injection hConnect with hState
      rw [← hState]
      simp only [iff_true]
      refine ⟨s.device.opened, rfl, ?_, rfl, ensureDispatchTask_dispatchTask _⟩
      simp [ensureDispatchTask, setMessageRx, setReadTask]

theorem connect_live_iff_reconnect
    : ∃ s t : RuntimeState, s.connect (.ok ()) = (t, .ok ()) ∧ (Live t ↔ s.notDead = true) := by
  have hExec : ((exec (step .serialPort) new
      [.connect (.ok ()), .readTaskEnds (.error .timeout), .dispatchEnds, .disconnect (.ok ())]).map
        fun s => s.device)
      = some ⟨none, some 0, 1⟩ := by
    decide
  rcases Run.exists_of_exec hExec with ⟨s, hRun, hDevice⟩
  have hConnect := connect_of_none (s := s) (by rw [hDevice])
  exact ⟨s, _, hConnect, connect_live_iff .serialPort _ s _ _ hRun hConnect⟩

/-
The read task ends and `connect` is called without `disconnect`.
-/
theorem not_connect_live
    : ¬ ∀ (transport : TaskTransport) (labels : List RuntimeLabel) (s t : RuntimeState)
        (outcome : Except (Error .std) Unit),
        Run (step transport) anyStep new labels s → s.connect outcome = (t, .ok ()) → Live t := by
  intro h
  have hExec : ((exec (step .wifi) new
      [.connect (.ok ()), .readTaskEnds (.error .timeout), .dispatchEnds]).map
        fun s => (s.device.connection, (s.readTask 0).isRunning))
      = some (some 0, false) := by
    decide
  rcases Run.exists_of_exec hExec with ⟨s, hRun, hDead⟩
  injection hDead with hConnection hTask
  have hLive := h .wifi _ s _ (.ok ()) hRun (connect_of_some hConnection)
  rcases hLive with ⟨id, hId, hRunning, _⟩
  have hSame : some id = some 0 := by
    rw [← hId, ← hConnection]
    rfl
  injection hSame with hSame
  have hRunning' : s.readTask 0 = .running := by
    rw [← hSame]
    exact hRunning
  rw [hRunning'] at hTask
  contradiction

end RuntimeState
end Connection
end Enody
