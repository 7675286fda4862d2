import Enody.Serialization.Lemmas.Basic
import Enody.Usb.Impl.SendMessage

/-!
This module contains what concurrent `send_message` calls of a `RusbDevice` put on the wire. A frame is on
the wire when its `write_bulk` has handed all of it over. The count that `write_bulk` returns says whether
it has, and nobody looks at it.
-/

namespace Enody
namespace Usb

open Serialization Transition

def LockedFrame.frames (locked : List LockedFrame) : List UInt8 :=
  locked.flatMap LockedFrame.payload

def RusbSendPhase.unwritten : RusbSendPhase → List UInt8
  | .writing _ payload written => payload.drop written
  | _ => []

namespace RusbSendState

open LockedFrame (frames)

variable {s t : RusbSendState} {i j : CallId} {message : Message .std}

def AllOk (s : RusbSendState) : Prop :=
  ∀ i message result, s.calls i = .returned message result → result = .ok ()

def unwritten (s : RusbSendState) : List UInt8 :=
  match s.writeMutex with
  | none => []
  | some i => (s.calls i).unwritten

/--
The wire consists of the frames of the messages in the order of the write mutex, the last one up to where
its call has written it. The frame of a call that has returned `Ok` is on the wire, behind the frames of
the calls before it.
-/
structure WholeFrames (s : RusbSendState) : Prop where
  locked : ∀ entry ∈ s.locked, tryFromMessage .std entry.message = some (.ok entry.payload)
  wire : s.wire ++ s.unwritten = frames s.locked
  returned : ∀ i message, s.calls i = .returned message (.ok ()) →
    ∃ before entry after,
      s.locked = before ++ entry :: after
        ∧
      entry.call = i
        ∧
      entry.message = message
        ∧
      frames (before ++ [entry]) <+: s.wire

def CallOk (s : RusbSendState) (i : CallId) : RusbSendPhase → Prop
  | .notCalled => True
  | .waitMutex message payload => tryFromMessage .std message = some (.ok payload)
  | .writing message payload _ =>
    s.writeMutex = some i ∧ ∃ before, s.locked = before ++ [⟨i, message, payload⟩]
  | .returned message (.ok _) =>
    ∃ before entry after,
      s.locked = before ++ entry :: after ∧ entry.call = i ∧ entry.message = message
        ∧ frames (before ++ [entry]) <+: s.wire
  | .returned _ (.error _) => True

structure Inv (s : RusbSendState) : Prop where
  locked : ∀ entry ∈ s.locked, tryFromMessage .std entry.message = some (.ok entry.payload)
  calls : ∀ i, s.CallOk i (s.calls i)
  held : ∀ i, s.writeMutex = some i →
    ∃ message payload written, s.calls i = .writing message payload written
  wire : s.wire ++ s.unwritten = frames s.locked

@[simp]
theorem setCall_calls (s : RusbSendState) (i : CallId) (phase : RusbSendPhase)
    : (s.setCall i phase).calls = Function.update s.calls i phase := rfl

@[simp]
theorem setCall_writeMutex (s : RusbSendState) (i : CallId) (phase : RusbSendPhase)
    : (s.setCall i phase).writeMutex = s.writeMutex := rfl

inductive StepCase (s : RusbSendState) : RusbSendLabel → RusbSendState → Prop where
  | connect : s.readers = 0 → StepCase s .connect { s with connected := true }
  | disconnect : s.readers = 0 → StepCase s .disconnect { s with connected := false }
  | refused {i : CallId} {message : Message .std} {error : Error .std} :
      s.calls i = .notCalled →
        StepCase s (.call i message) (s.setCall i (.returned message (.error error)))
  | called {i : CallId} {message : Message .std} {payload : UsbDataBuffer} :
      s.calls i = .notCalled → tryFromMessage .std message = some (.ok payload) →
        StepCase s (.call i message)
          { s.setCall i (.waitMutex message payload) with readers := s.readers + 1 }
  | lock {i : CallId} {message : Message .std} {payload : UsbDataBuffer} :
      s.calls i = .waitMutex message payload → s.writeMutex = none →
        StepCase s (.lock i)
          { s.setCall i (.writing message payload 0) with
            writeMutex := some i
            locked := s.locked ++ [⟨i, message, payload⟩] }
  | transfer {i : CallId} {message : Message .std} {payload : UsbDataBuffer} {written count : Nat} :
      s.calls i = .writing message payload written → written + count ≤ payload.length →
        StepCase s (.transfer i count)
          { s.setCall i (.writing message payload (written + count)) with
            wire := s.wire ++ (payload.drop written).take count }
  | writeOk {i : CallId} {message : Message .std} {payload : UsbDataBuffer} {count : Nat} :
      s.calls i = .writing message payload count →
        StepCase s (.writeOk i count) (s.returns i message (.ok ()))
  | writeError {i : CallId} {message : Message .std} {payload : UsbDataBuffer} {written : Nat}
      {detail : String} :
      s.calls i = .writing message payload written →
        StepCase s (.writeError i detail) (s.returns i message (.error (.usbText detail)))

theorem step_cases {label : RusbSendLabel} (hStep : s.step label = some t) : StepCase s label t := by
  cases label with
  | connect =>
    unfold step RusbSendState.setConnected at hStep
    simp only [Option.ite_none_right_eq_some, Option.some.injEq] at hStep
    rw [← hStep.right]
    exact .connect hStep.left
  | disconnect =>
    unfold step RusbSendState.setConnected at hStep
    simp only [Option.ite_none_right_eq_some, Option.some.injEq] at hStep
    rw [← hStep.right]
    exact .disconnect hStep.left
  | call i message =>
    unfold step RusbSendState.call at hStep
    simp only at hStep
    split at hStep
    . next hCall =>
      split at hStep
      . split at hStep
        . contradiction
        . injection hStep with hStep
          subst hStep
          exact .refused hCall
        . next payload hFrame =>
          injection hStep with hStep
          subst hStep
          exact .called hCall hFrame
      . injection hStep with hStep
        subst hStep
        exact .refused hCall
    . contradiction
  | lock i =>
    unfold step RusbSendState.lock at hStep
    simp only at hStep
    split at hStep
    . next message payload hCall hFree =>
      injection hStep with hStep
      subst hStep
      exact .lock hCall hFree
    . contradiction
  | transfer i count =>
    unfold step RusbSendState.transfer at hStep
    simp only at hStep
    split at hStep
    . next hCall =>
      split at hStep
      . next hRoom =>
        injection hStep with hStep
        subst hStep
        exact .transfer hCall hRoom
      . contradiction
    . contradiction
  | writeOk i count =>
    unfold step RusbSendState.writeOk at hStep
    simp only at hStep
    split at hStep
    . next hCall =>
      split at hStep
      . next hCount =>
        injection hStep with hStep
        subst hStep
        rw [hCount]
        exact .writeOk hCall
      . contradiction
    . contradiction
  | writeError i detail =>
    unfold step RusbSendState.writeError at hStep
    simp only at hStep
    split at hStep
    . next hCall =>
      injection hStep with hStep
      subst hStep
      exact .writeError hCall
    . contradiction

theorem forall_update {calls : CallId → RusbSendPhase} {phase : RusbSendPhase}
    {P : CallId → RusbSendPhase → Prop} (hCall : P i phase) (hOther : ∀ j, j ≠ i → P j (calls j))
    : ∀ j, P j (Function.update calls i phase j) := by
  rw [Function.forall_update_iff calls P]
  exact ⟨hCall, hOther⟩

theorem allOk_of_update {calls : CallId → RusbSendPhase} {phase : RusbSendPhase}
    (hAll : ∀ j message result, Function.update calls i phase j = .returned message result →
      result = .ok ())
    (hCall : ∀ message result, calls i ≠ .returned message result)
    : ∀ j message result, calls j = .returned message result → result = .ok () := by
  intro j message result hReturned
  have hNe : j ≠ i := by
    intro hEq
    rw [hEq] at hReturned
    exact hCall message result hReturned
  apply hAll j message result
  rw [Function.update_of_ne hNe]
  exact hReturned

theorem CallOk.mono {phase : RusbSendPhase} (h : s.CallOk j phase)
    (hLocked : s.locked <+: t.locked) (hWire : s.wire <+: t.wire)
    (hWriting : ∀ message payload written, phase = .writing message payload written →
      t.CallOk j phase)
    : t.CallOk j phase := by
  cases phase with
  | notCalled => trivial
  | waitMutex => exact h
  | writing message payload written => exact hWriting message payload written rfl
  | returned message result =>
    cases result with
    | error => trivial
    | ok =>
      rcases h with ⟨before, entry, after, hBefore, hEntry, hMessage, hPrefix⟩
      rcases hLocked with ⟨more, hLocked⟩
      refine ⟨before, entry, after ++ more, ?_, hEntry, hMessage, hPrefix.trans hWire⟩
      rw [← hLocked, hBefore]
      simp

namespace Inv

theorem initial : Inv initial where
  locked := by simp [RusbSendState.initial]
  calls := by simp [RusbSendState.initial, CallOk]
  held := by simp [RusbSendState.initial]
  wire := rfl

theorem callOk (h : Inv s) {phase : RusbSendPhase} (hCall : s.calls i = phase) : s.CallOk i phase := by
  have hOk := h.calls i
  rw [hCall] at hOk
  exact hOk

theorem setConnected (h : Inv s) (connected : Bool) : Inv { s with connected := connected } :=
  ⟨h.locked, h.calls, h.held, h.wire⟩

theorem setCall (h : Inv s) {phase : RusbSendPhase} (readers : Nat) (hOk : s.CallOk i phase)
    (hFree : s.writeMutex ≠ some i)
    : Inv { s.setCall i phase with readers := readers } := by
  constructor
  case locked => exact h.locked
  case calls =>
    apply forall_update hOk
    intro j _
    exact h.calls j
  case held =>
    intro j hHeld
    rcases h.held j hHeld with ⟨message, payload, written, hCall⟩
    have hNe : j ≠ i := by
      intro hEq
      rw [hEq] at hHeld
      exact hFree hHeld
    refine ⟨message, payload, written, ?_⟩
    simp only [setCall_calls, Function.update_of_ne hNe]
    exact hCall
  case wire =>
    have hUnwritten : ({ s.setCall i phase with readers := readers } : RusbSendState).unwritten
        = s.unwritten := by
      unfold RusbSendState.unwritten
      simp only [setCall_writeMutex, setCall_calls]
      cases hMutex : s.writeMutex with
      | none => rfl
      | some j =>
        have hNe : j ≠ i := by
          intro hEq
          rw [hEq] at hMutex
          exact hFree hMutex
        simp only [Function.update_of_ne hNe]
    rw [hUnwritten]
    exact h.wire

theorem not_held (h : Inv s) {phase : RusbSendPhase} (hCall : s.calls i = phase)
    (hWriting : ∀ message payload written, phase ≠ .writing message payload written)
    : s.writeMutex ≠ some i := by
  intro hHeld
  rcases h.held i hHeld with ⟨message, payload, written, hOther⟩
  rw [hCall] at hOther
  exact hWriting message payload written hOther

theorem lock (h : Inv s) {payload : UsbDataBuffer} (hCall : s.calls i = .waitMutex message payload)
    (hFree : s.writeMutex = none)
    : Inv { s.setCall i (.writing message payload 0) with
        writeMutex := some i
        locked := s.locked ++ [⟨i, message, payload⟩] } := by
  have hWire := h.wire
  unfold RusbSendState.unwritten at hWire
  rw [hFree, List.append_nil] at hWire
  constructor
  case locked =>
    intro entry hEntry
    rcases List.mem_append.mp hEntry with hEntry | hEntry
    . exact h.locked entry hEntry
    . rw [List.mem_singleton] at hEntry
      subst hEntry
      exact h.callOk hCall
  case calls =>
    apply forall_update
    . exact ⟨rfl, s.locked, rfl⟩
    . intro j hNe
      refine CallOk.mono (h.calls j) ?_ ?_ ?_
      . exact List.prefix_append _ _
      . exact List.prefix_refl _
      . intro message payload written hWriting
        have hOther := (h.callOk hWriting).left
        rw [hFree] at hOther
        contradiction
  case held =>
    intro j hHeld
    injection hHeld with hHeld
    subst hHeld
    exact ⟨message, payload, 0, by simp⟩
  case wire =>
    simp [RusbSendState.unwritten, RusbSendPhase.unwritten, RusbSendState.setCall, hWire, frames]

theorem transfer (h : Inv s) {payload : UsbDataBuffer} {written : Nat}
    (hCall : s.calls i = .writing message payload written) (count : Nat)
    : Inv { s.setCall i (.writing message payload (written + count)) with
        wire := s.wire ++ (payload.drop written).take count } := by
  have hOk := h.callOk hCall
  have hWire := h.wire
  unfold RusbSendState.unwritten at hWire
  simp only [hOk.left, hCall, RusbSendPhase.unwritten] at hWire
  constructor
  case locked => exact h.locked
  case calls =>
    apply forall_update
    . exact hOk
    . intro j hNe
      refine CallOk.mono (h.calls j) ?_ ?_ ?_
      . exact List.prefix_refl _
      . exact List.prefix_append _ _
      . intro message' payload' written' hWriting
        have hOther := h.callOk hWriting
        rw [hWriting]
        exact hOther
  case held =>
    intro j hHeld
    have hSame : s.writeMutex = some j := hHeld
    rw [hOk.left] at hSame
    injection hSame with hSame
    subst hSame
    exact ⟨message, payload, written + count, by simp⟩
  case wire =>
    -- the bytes that are handed over move from the rest of the frame to the wire
    simp only [RusbSendState.unwritten, RusbSendState.setCall, hOk.left, Function.update_self,
      RusbSendPhase.unwritten]
    rw [← hWire, List.append_assoc, ← List.drop_drop, List.take_append_drop]

theorem writeOk (h : Inv s) {payload : UsbDataBuffer}
    (hCall : s.calls i = .writing message payload payload.length)
    : Inv (s.returns i message (.ok ())) := by
  rcases h.callOk hCall with ⟨hHeld, before, hLocked⟩
  have hWire := h.wire
  unfold RusbSendState.unwritten at hWire
  simp only [hHeld, hCall, RusbSendPhase.unwritten] at hWire
  rw [List.drop_length, List.append_nil] at hWire
  constructor
  case locked => exact h.locked
  case calls =>
    apply forall_update
    . refine ⟨before, _, [], hLocked, rfl, rfl, ?_⟩
      rw [← hLocked, ← hWire]
      exact List.prefix_refl _
    . intro j hNe
      refine CallOk.mono (h.calls j) ?_ ?_ ?_
      . exact List.prefix_refl _
      . exact List.prefix_refl _
      . intro message' payload' written' hWriting
        have hOther := (h.callOk hWriting).left
        rw [hHeld] at hOther
        injection hOther with hOther
        exact absurd hOther.symm hNe
  case held =>
    intro j hHeld
    contradiction
  case wire =>
    exact (List.append_nil s.wire).trans hWire

theorem not_allOk {error : Error .std} (hCall : t.calls i = .returned message (.error error))
    : ¬ t.AllOk := by
  intro hAll
  have hOk := hAll i message _ hCall
  contradiction

theorem step (h : Inv s) {label : RusbSendLabel} (hAll : t.AllOk)
    (hWhole : s.wholeWrite label = true) (hStep : StepCase s label t)
    : Inv t := by
  cases hStep with
  | connect => exact h.setConnected true
  | disconnect => exact h.setConnected false
  | refused => exact absurd hAll (not_allOk (Function.update_self ..))
  | called hCall hFrame =>
    apply h.setCall
    . exact hFrame
    . exact h.not_held hCall (by simp)
  | lock hCall hFree => exact h.lock hCall hFree
  | transfer hCall => exact h.transfer hCall _
  | writeOk hCall =>
    unfold wholeWrite at hWhole
    simp only [hCall, beq_iff_eq] at hWhole
    subst hWhole
    exact h.writeOk hCall
  | writeError => exact absurd hAll (not_allOk (Function.update_self ..))

theorem wholeFrames (h : Inv s) : WholeFrames s where
  locked := h.locked
  wire := h.wire
  returned := by
    intro i message hCall
    exact h.callOk hCall

end Inv

theorem allOk_of_step {label : RusbSendLabel} (hAll : t.AllOk) (hStep : StepCase s label t)
    : s.AllOk := by
  cases hStep with
  | connect => exact hAll
  | disconnect => exact hAll
  | refused hCall => exact allOk_of_update hAll (by simp [hCall])
  | called hCall => exact allOk_of_update hAll (by simp [hCall])
  | lock hCall => exact allOk_of_update hAll (by simp [hCall])
  | transfer hCall => exact allOk_of_update hAll (by simp [hCall])
  | writeOk hCall => exact allOk_of_update hAll (by simp [hCall])
  | writeError hCall => exact allOk_of_update hAll (by simp [hCall])

theorem run_wholeFrames (labels : List RusbSendLabel) (s : RusbSendState)
    (hRun : Run step (fun s label => s.wholeWrite label = true) initial labels s) (hAll : s.AllOk)
    : s.WholeFrames := by
  have hInv : s.AllOk → Inv s := by
    apply hRun.invariant
    . intro _
      exact .initial
    . intro s label t h hWhole hStep hAll
      have hCase := step_cases hStep
      exact (h (allOk_of_step hAll hCase)).step hAll hWhole hCase
  exact (hInv hAll).wholeFrames

section HostInfo

def hostInfo : Message .std :=
  .command ⟨BitVec.ofNat 128 7, none, none, .host .info⟩

def hostInfoPayload : UsbDataBuffer :=
  [2, 0, 16, 16, 0, 0, 0, 0, 0, 0, 0, 0, 0, 0, 0, 0, 0, 0, 0, 7, 0, 0, 1, 0, 3]

theorem tryFromMessage_hostInfo : tryFromMessage .std hostInfo = some (.ok hostInfoPayload) := by
  rfl

/-
A call whose `write_bulk` hands `count` bytes of its frame over.
-/
def oneCall (count : Nat) : List RusbSendLabel :=
  [.connect, .call 0 hostInfo, .lock 0, .transfer 0 count, .writeOk 0 count]

def afterOneCall (count : Nat) : RusbSendState where
  connected := true
  readers := 0
  calls := Function.update (fun _ => .notCalled) 0 (.returned hostInfo (.ok ()))
  writeMutex := none
  wire := hostInfoPayload.take count
  locked := [⟨0, hostInfo, hostInfoPayload⟩]

theorem allOk_afterOneCall (count : Nat) : (afterOneCall count).AllOk := by
  intro i message result hReturned
  simp only [afterOneCall, Function.update_apply] at hReturned
  split at hReturned
  . injection hReturned with _ hResult
    exact hResult.symm
  . contradiction

def fixtureCount : Message .std :=
  .command ⟨BitVec.ofNat 128 8, none, none, .host .fixtureCount⟩

def fixtureCountPayload : UsbDataBuffer :=
  [2, 0, 16, 16, 0, 0, 0, 0, 0, 0, 0, 0, 0, 0, 0, 0, 0, 0, 0, 8, 0, 0, 1, 1, 3]

theorem tryFromMessage_fixtureCount : tryFromMessage .std fixtureCount = some (.ok fixtureCountPayload) := by
  rfl

/-
Both calls wait for the mutex. The second one takes it first, and its frame goes out in two transfers.
-/
def twoCalls : List RusbSendLabel :=
  [.connect, .call 0 hostInfo, .call 1 fixtureCount, .lock 1, .transfer 1 8, .transfer 1 17, .writeOk 1 25, .lock 0,
    .transfer 0 25, .writeOk 0 25]

def afterTwoCalls : RusbSendState where
  connected := true
  readers := 0
  calls := fun i =>
    if i = 0 then .returned hostInfo (.ok ())
    else if i = 1 then .returned fixtureCount (.ok ())
    else .notCalled
  writeMutex := none
  wire := fixtureCountPayload ++ hostInfoPayload
  locked := [⟨1, fixtureCount, fixtureCountPayload⟩, ⟨0, hostInfo, hostInfoPayload⟩]

theorem run_twoCalls : execIf step wholeWrite initial twoCalls = some afterTwoCalls := by
  simp [twoCalls, afterTwoCalls, execIf, wholeWrite, step, setConnected, call, lock, transfer, writeOk, returns,
    setCall, initial, tryFromMessage_hostInfo, tryFromMessage_fixtureCount, hostInfoPayload, fixtureCountPayload]
  funext i
  simp only [Function.update_apply]
  split
  . rfl
  . split <;> rfl

theorem run_wholeFrames_hostInfo : afterTwoCalls.WholeFrames := by
  apply run_wholeFrames twoCalls _ (Run.of_execIf (fun _ _ hWhole => hWhole) run_twoCalls)
  intro i message result hReturned
  simp only [afterTwoCalls] at hReturned
  split at hReturned
  . injection hReturned with _ hResult
    exact hResult.symm
  . split at hReturned
    . injection hReturned with _ hResult
      exact hResult.symm
    . contradiction

/-
The device takes 8 of the 25 bytes before the timeout.
-/
theorem not_run_wholeFrames
    : ¬ ∀ (labels : List RusbSendLabel) (s : RusbSendState),
        Run step anyStep initial labels s → s.AllOk → s.WholeFrames := by
  intro hAll
  have hExec : exec step initial (oneCall 8) = some (afterOneCall 8) := by
    simp [oneCall, afterOneCall, exec, execIf, step, setConnected, call, lock, transfer, writeOk,
      returns, setCall, initial, tryFromMessage_hostInfo, hostInfoPayload]
  have hWire := (hAll _ _ (Run.of_exec hExec) (allOk_afterOneCall 8)).wire
  contradiction

end HostInfo

end RusbSendState

end Usb
end Enody
