import Enody.Connection.Impl.Calls
import Enody.Transition.Run

/-!
This module contains when the stored connection and the stored receiver belong together. The receiver of
a new connection is on its way as long as its `connect` has not returned, and only a late write of
another call can take its place away.
-/

namespace Enody
namespace Connection
namespace CallsState

open Transition

variable {transport : Transport} {s t : CallsState} {i : CallId} {label : CallLabel}

def NoneInProgress (s : CallsState) : Prop :=
  ∀ i, (s.calls i).inProgress = false

def Paired (s : CallsState) : Prop :=
  s.device.connection = none
    ∨
  ∃ id,
    s.device.connection = some id
      ∧ id < s.device.opened
      ∧ (s.device.messageRx = some id ∨ ∃ i, s.calls i = .receiving id)

def Located (transport : Transport) (s : CallsState) (id : ConnectionId) : Prop :=
  (∃ i, s.calls i = .installing id)
    ∨
  s.device.messageRx = some id
    ∨
  (transport = .rusb ∧ ∃ i, s.calls i = .receiving id)

structure Inv (transport : Transport) (s : CallsState) : Prop where
  located : ∀ id, s.device.connection = some id → s.Located transport id
  opened : ∀ id, s.device.connection = some id → id < s.device.opened

theorem exists_setCall {phase old : CallPhase} (h : ∃ j, s.calls j = old) (hCall : s.calls i ≠ old)
    : ∃ j, (s.setCall i phase).calls j = old := by
  rcases h with ⟨j, hj⟩
  exists j
  unfold setCall
  simp only [Function.update_apply]
  split
  . next hEq =>
    rw [hEq] at hj
    contradiction
  . exact hj

theorem Located.setCall {id : ConnectionId} {phase : CallPhase} (h : s.Located transport id)
    (hInstalling : s.calls i ≠ .installing id)
    (hReceiving : transport = .rusb → s.calls i ≠ .receiving id)
    : (s.setCall i phase).Located transport id := by
  rcases h with hPending | hStored | ⟨hRusb, hHeld⟩
  . left
    exact exists_setCall hPending hInstalling
  . right
    left
    exact hStored
  . right
    right
    constructor
    . exact hRusb
    . exact exists_setCall hHeld (hReceiving hRusb)

theorem receiver_of_keepsCurrent {current : ConnectionId} {rx : Option ConnectionId}
    (hKeep : s.keepsCurrent transport label = true)
    (hConnection : s.device.connection = some current) (hWrites : s.writes transport label = some rx)
    : s.device.messageRx ≠ some current ∨ rx = some current := by
  unfold keepsCurrent at hKeep
  simp only [hConnection, hWrites, Bool.or_eq_true, decide_eq_true_eq, beq_iff_eq] at hKeep
  exact hKeep

theorem Located.setMessageRx {id : ConnectionId} {rx : Option ConnectionId} {u : CallsState}
    (h : s.Located transport id) (hCalls : u.calls = s.calls) (hStored : u.device.messageRx = rx)
    (hKeep : s.device.messageRx ≠ some id ∨ rx = some id)
    : u.Located transport id := by
  unfold Located
  rw [hCalls, hStored]
  rcases h with hPending | hOld | hHeld
  . exact .inl hPending
  . rcases hKeep with hOther | hSame
    . contradiction
    . exact .inr (.inl hSame)
  . exact .inr (.inr hHeld)

namespace Inv

theorem initial : Inv transport initial where
  located := by
    intro id hConnection
    contradiction
  opened := by
    intro id hConnection
    contradiction

theorem setCall (h : Inv transport s) {phase : CallPhase}
    (hInstalling : ∀ id, s.calls i ≠ .installing id)
    (hReceiving : transport = .rusb → ∀ id, s.calls i ≠ .receiving id)
    : Inv transport (s.setCall i phase) where
  located := by
    intro id hConnection
    apply (h.located id hConnection).setCall
    . exact hInstalling id
    . intro hRusb
      exact hReceiving hRusb id
  opened := h.opened

theorem locks (h : Inv transport s) (connectionLock messageRxLock : Option CallId)
    : Inv transport
        { s with connectionLock := connectionLock, messageRxLock := messageRxLock } :=
  ⟨h.located, h.opened⟩

theorem connect (h : Inv transport s) (hStep : s.connect i = some t) : Inv transport t := by
  unfold CallsState.connect at hStep
  split at hStep
  . next hCall _ =>
    split at hStep
    . injection hStep with hStep
      subst hStep
      apply h.setCall <;> simp [hCall]
    . injection hStep with hStep
      subst hStep
      apply (h.setCall _ _).locks <;> simp [hCall]
  . contradiction

theorem openedStep (hStep : s.opened i = some t) : Inv transport t := by
  unfold CallsState.opened at hStep
  split at hStep
  . injection hStep with hStep
    subst hStep
    constructor
    case located =>
      intro id hConnection
      injection hConnection with hConnection
      left
      exists i
      simp [CallsState.setCall, hConnection]
    case opened =>
      intro id hConnection
      injection hConnection with hConnection
      rw [← hConnection]
      exact Nat.lt_succ_self _
  . contradiction

theorem openFailed (h : Inv transport s) {error : Error .std}
    (hStep : s.openFailed i error = some t)
    : Inv transport t := by
  unfold CallsState.openFailed at hStep
  split at hStep
  . next hCall =>
    injection hStep with hStep
    subst hStep
    apply (h.setCall _ _).locks <;> simp [hCall]
  . contradiction

theorem install (h : Inv transport s) (hKeep : s.keepsCurrent transport (.install i) = true)
    (hStep : s.install i = some t)
    : Inv transport t := by
  unfold CallsState.install at hStep
  split at hStep
  . next id hCall _ =>
    injection hStep with hStep
    subst hStep
    constructor
    case located =>
      intro current hConnection
      have hConnection' : s.device.connection = some current := hConnection
      have hWrites : s.writes transport (.install i) = some (some id) := by
        simp only [writes, hCall]
      have hKept := receiver_of_keepsCurrent hKeep hConnection' hWrites
      -- the receiver that is stored may belong to an older connection
      by_cases hId : id = current
      . rw [hId]
        exact .inr (.inl rfl)
      . have hLocated : (s.setCall i (.done (.ok ()))).Located transport current := by
          apply (h.located current hConnection').setCall
          . rw [hCall]
            intro hEq
            injection hEq with hEq
            contradiction
          . rw [hCall]
            intro _ hEq
            contradiction
        exact hLocated.setMessageRx rfl rfl hKept
    case opened => exact h.opened
  . contradiction

theorem disconnect (h : Inv transport s) (hStep : s.disconnect transport i = some t)
    : Inv transport t := by
  unfold CallsState.disconnect at hStep
  split at hStep
  . next hCall _ =>
    split at hStep
    . injection hStep with hStep
      subst hStep
      constructor
      case located =>
        intro id hConnection
        contradiction
      case opened =>
        intro id hConnection
        contradiction
    . split at hStep
      . injection hStep with hStep
        subst hStep
        apply h.setCall <;> simp [hCall]
      . injection hStep with hStep
        subst hStep
        apply h.setCall <;> simp [hCall]
  . contradiction

theorem closed (h : Inv transport s) (hStep : s.closed i = some t) : Inv transport t := by
  unfold CallsState.closed at hStep
  split at hStep
  . next id hCall =>
    injection hStep with hStep
    subst hStep
    apply h.setCall <;> simp [hCall]
  . contradiction

theorem closeFailed (h : Inv transport s) {error : Error .std}
    (hStep : s.closeFailed transport i error = some t)
    : Inv transport t := by
  unfold CallsState.closeFailed at hStep
  split at hStep
  . contradiction
  . next hCall _ =>
    injection hStep with hStep
    subst hStep
    apply h.setCall <;> simp [hCall]
  . contradiction

theorem clear (h : Inv transport s) (hKeep : s.keepsCurrent transport (.clear i) = true)
    (hStep : s.clear i = some t)
    : Inv transport t := by
  unfold CallsState.clear at hStep
  split at hStep
  . next hCall _ =>
    injection hStep with hStep
    subst hStep
    constructor
    case located =>
      intro current hConnection
      have hConnection' : s.device.connection = some current := hConnection
      have hKept := receiver_of_keepsCurrent hKeep hConnection' rfl
      have hLocated : (s.setCall i (.done (.ok ()))).Located transport current := by
        apply (h.located current hConnection').setCall <;> simp [hCall]
      exact hLocated.setMessageRx rfl rfl hKept
    case opened => exact h.opened
  . contradiction

theorem recv (h : Inv transport s) (hStep : s.recv transport i = some t) : Inv transport t := by
  unfold CallsState.recv at hStep
  split at hStep
  . next hCall _ =>
    split at hStep
    . injection hStep with hStep
      subst hStep
      apply h.setCall <;> simp [hCall]
    . next id hStored =>
      split at hStep
      . injection hStep with hStep
        subst hStep
        constructor
        case located =>
          intro current hConnection
          rcases h.located current hConnection with hPending | hOld | ⟨hRusb, hHeld⟩
          . left
            exact exists_setCall hPending (by simp [hCall])
          . -- the receiver moves into the hands of this call
            rw [hStored] at hOld
            injection hOld with hOld
            right
            right
            refine ⟨rfl, i, ?_⟩
            simp [CallsState.setCall, hOld]
          . right
            right
            exact ⟨rfl, exists_setCall hHeld (by simp [hCall])⟩
        case opened => exact h.opened
      . injection hStep with hStep
        subst hStep
        apply (h.setCall _ _).locks <;> simp [hCall]
  . contradiction

theorem recvDone (h : Inv transport s) {message : Option (Message .std)}
    (hKeep : s.keepsCurrent transport (.recvDone i message) = true)
    (hStep : s.recvDone transport i message = some t)
    : Inv transport t := by
  unfold CallsState.recvDone at hStep
  split at hStep
  . next id hCall =>
    simp only at hStep
    split at hStep
    . injection hStep with hStep
      subst hStep
      constructor
      case located =>
        intro current hConnection
        have hConnection' : s.device.connection = some current := hConnection
        have hWrites : s.writes .rusb (.recvDone i message) = some (some id) := by
          simp only [writes, hCall]
        have hKept := receiver_of_keepsCurrent hKeep hConnection' hWrites
        -- the receiver that comes back may belong to an older connection
        by_cases hId : id = current
        . rw [hId]
          exact .inr (.inl rfl)
        . have hLocated (phase : CallPhase) : (s.setCall i phase).Located .rusb current := by
            apply (h.located current hConnection').setCall
            . rw [hCall]
              intro hEq
              contradiction
            . rw [hCall]
              intro _ hEq
              injection hEq with hEq
              contradiction
          exact (hLocated _).setMessageRx rfl rfl hKept
      case opened => exact h.opened
    . next hTransport =>
      injection hStep with hStep
      subst hStep
      apply (h.setCall _ _).locks
      . simp [hCall]
      . intro hRusb
        exact absurd hRusb hTransport
  . contradiction

theorem step (h : Inv transport s) (hKeep : s.keepsCurrent transport label = true)
    (hStep : s.step transport label = some t)
    : Inv transport t := by
  cases label with
  | connect => exact h.connect hStep
  | opened => exact openedStep hStep
  | openFailed => exact h.openFailed hStep
  | install => exact h.install hKeep hStep
  | disconnect => exact h.disconnect hStep
  | closed => exact h.closed hStep
  | closeFailed => exact h.closeFailed hStep
  | clear => exact h.clear hKeep hStep
  | recv => exact h.recv hStep
  | recvDone => exact h.recvDone hKeep hStep

theorem paired (h : Inv transport s) (hQuiet : NoneInProgress s) : Paired s := by
  cases hConnection : s.device.connection with
  | none => exact .inl hConnection
  | some id =>
    right
    refine ⟨id, hConnection, h.opened id hConnection, ?_⟩
    rcases h.located id hConnection with ⟨i, hInstalling⟩ | hStored | ⟨_, hHeld⟩
    . have hNot := hQuiet i
      rw [hInstalling] at hNot
      contradiction
    . exact .inl hStored
    . exact .inr hHeld

end Inv

theorem run_paired (transport : Transport) (labels : List CallLabel) (s : CallsState)
    (hRun : Run (step transport) (fun s label => s.keepsCurrent transport label = true) initial
      labels s)
    (hQuiet : NoneInProgress s)
    : Paired s := by
  have hInv : Inv transport s := by
    apply hRun.invariant Inv.initial
    intro s label t h hKeep hStep
    exact h.step hKeep hStep
  exact hInv.paired hQuiet

theorem run_paired_reconnect
    : ∃ s, s.device = ⟨some 1, some 1, 2⟩ ∧ Paired s := by
  have hExec : ((execIf (step .rusb) (keepsCurrent .rusb) initial
      [.connect 0, .opened 0, .install 0, .recv 1, .disconnect 2, .recvDone 1 none, .closed 2,
        .clear 2, .connect 3, .opened 3, .install 3]).map device)
      = some ⟨some 1, some 1, 2⟩ := by
    decide
  rw [Option.map_eq_some_iff] at hExec
  rcases hExec with ⟨s, hExec, hDevice⟩
  have hQuiet : NoneInProgress s := by
    injection hExec with hExec
    rw [← hExec]
    intro i
    match i with
    | 0 => rfl
    | 1 => rfl
    | 2 => rfl
    | 3 => rfl
    | n + 4 => rfl
  have hRun := Run.of_execIf (fun _ _ hKeep => hKeep) hExec
  exact ⟨s, hDevice, run_paired .rusb _ s hRun hQuiet⟩

/-
A `disconnect` that is overtaken by a `connect` clears the receiver of the new connection.
-/
theorem not_run_paired
    : ¬ ∀ (transport : Transport) (labels : List CallLabel) (s : CallsState),
        Run (step transport) anyStep initial labels s → NoneInProgress s → Paired s := by
  intro h
  have hExec : ((exec (step .wifi) initial
      [.connect 0, .opened 0, .install 0, .disconnect 1, .closed 1, .connect 2, .opened 2,
        .install 2, .clear 1]).map device)
      = some ⟨some 1, none, 2⟩ := by
    decide
  rw [Option.map_eq_some_iff] at hExec
  rcases hExec with ⟨s, hExec, hDevice⟩
  have hQuiet : NoneInProgress s ∧ ∀ i, s.calls i ≠ .receiving 1 := by
    injection hExec with hExec
    rw [← hExec]
    constructor
    . intro i
      match i with
      | 0 => rfl
      | 1 => rfl
      | 2 => rfl
      | n + 3 => rfl
    . intro i
      match i with
      | 0 => nofun
      | 1 => nofun
      | 2 => nofun
      | n + 3 => nofun
  rcases h .wifi _ s (Run.of_exec hExec) hQuiet.left with hNone | ⟨id, hId, _, hStored | ⟨i, hHeld⟩⟩
  . rw [hDevice] at hNone
    contradiction
  . rw [hDevice] at hId hStored
    rw [← hId] at hStored
    contradiction
  . rw [hDevice] at hId
    injection hId with hId
    rw [← hId] at hHeld
    exact hQuiet.right i hHeld

end CallsState
end Connection
end Enody
