import Enody.Wifi.Lemmas.PeerReceive
import Mathlib.Data.List.Nodup
import Mathlib.Data.List.Range

/-!
This module contains the order of the Noise frames that concurrent `send_message` calls put on the
wire. When every step is in turn, the wire is at any time a prefix of the encrypted frames in the order
of their nonces, and the device at the other end accepts all of it. Without that condition two calls
suffice to break the connection.
-/

namespace Enody
namespace Wifi

open Transition

def SendPhase.pendingNonce : SendPhase → Option Nat
  | .encrypted _ nonce _ => some nonce
  | .waitWriter _ nonce _ => some nonce
  | _ => none

def SendPhase.remaining : SendPhase → Option (List UInt8)
  | .writing _ _ remaining => some remaining
  | _ => none

/--
The frames are on the wire in the order in which they were encrypted, none is missing, and the device
at the other end accepts them and receives the message of each call that returned `Ok` exactly once.
-/
structure SendState.InOrder (crates : Crates) (s : SendState) : Prop where
  order : s.started = List.range s.started.length
  noneMissing : ∀ nonce, nonce < s.sealed.length →
    nonce ∈ s.started ∨ ∃ i, (s.calls i).pendingNonce = some nonce
  wire : ∃ remaining,
    s.wire ++ remaining = frames crates (s.sealed.take s.started.length)
      ∧
    (remaining ≠ [] → ∃ i, (s.calls i).remaining = some remaining)
  received : ∃ complete,
    peerReceive crates s.wire = ((s.sealed.take complete).map Sealed.message, true)
      ∧
    ∀ i message, s.calls i = .returned message (.ok ()) →
      ∃ nonce ciphertext,
        nonce < complete
          ∧
        s.sealed[nonce]? = some ⟨i, message, ciphertext⟩
          ∧
        ∀ other entry, s.sealed[other]? = some entry → entry.call = i → other = nonce

/-
What is known about a call in each of its phases. `k` is the number of frames whose writing has begun.
-/
def CallOk (crates : Crates) (sealed : List Sealed) (k : Nat) (i : CallId) : SendPhase → Prop
  | .notCalled => i ∉ sealed.map Sealed.call
  | .waitNoise message payload =>
    i ∉ sealed.map Sealed.call
      ∧ crates.message.toAllocvec message = some payload ∧ payload.length ≤ wifiMessageMaxLen
  | .holdNoise message payload =>
    i ∉ sealed.map Sealed.call
      ∧ crates.message.toAllocvec message = some payload ∧ payload.length ≤ wifiMessageMaxLen
  | .encrypted message nonce ciphertext =>
    k ≤ nonce ∧ sealed[nonce]? = some ⟨i, message, ciphertext⟩
  | .waitWriter message nonce frame =>
    k ≤ nonce
      ∧ ∃ ciphertext, sealed[nonce]? = some ⟨i, message, ciphertext⟩
        ∧ clientNoiseFrame ciphertext = .ok frame
  | .writing message nonce _ =>
    nonce + 1 = k ∧ ∃ ciphertext, sealed[nonce]? = some ⟨i, message, ciphertext⟩
  | .returned message (.ok _) =>
    ∃ nonce ciphertext, nonce < k ∧ sealed[nonce]? = some ⟨i, message, ciphertext⟩
  | .returned _ (.error _) => True
  | .cancelled => True

namespace CallOk

variable {crates : Crates} {sealed : List Sealed} {k : Nat} {i : CallId} {phase : SendPhase}

theorem getElem?_append_one {entry other : Sealed} {n : Nat} (h : sealed[n]? = some entry)
    : (sealed ++ [other])[n]? = some entry := by
  have hn : n < sealed.length := by
    rw [List.getElem?_eq_some_iff] at h
    exact h.choose
  rw [List.getElem?_append_left hn]
  exact h

theorem snoc (h : CallOk crates sealed k i phase) {entry : Sealed} (hEntry : i ≠ entry.call)
    : CallOk crates (sealed ++ [entry]) k i phase := by
  have hIds (hi : i ∉ sealed.map Sealed.call) : i ∉ (sealed ++ [entry]).map Sealed.call := by
    simp only [List.map_append, List.map_cons, List.map_nil, List.mem_append, List.mem_singleton]
    rintro (hOld | hNew)
    . exact hi hOld
    . exact hEntry hNew
  cases phase with
  | notCalled => exact hIds h
  | waitNoise => exact ⟨hIds h.left, h.right⟩
  | holdNoise => exact ⟨hIds h.left, h.right⟩
  | encrypted => exact ⟨h.left, getElem?_append_one h.right⟩
  | waitWriter =>
    rcases h with ⟨hk, ciphertext, hSealed, hFrame⟩
    exact ⟨hk, ciphertext, getElem?_append_one hSealed, hFrame⟩
  | writing =>
    rcases h with ⟨hk, ciphertext, hSealed⟩
    exact ⟨hk, ciphertext, getElem?_append_one hSealed⟩
  | returned message result =>
    cases result with
    | error => trivial
    | ok =>
      rcases h with ⟨nonce, ciphertext, hk, hSealed⟩
      exact ⟨nonce, ciphertext, hk, getElem?_append_one hSealed⟩
  | cancelled => trivial

theorem succ (h : CallOk crates sealed k i phase) {entry : Sealed} (hEntry : sealed[k]? = some entry)
    (hOther : i ≠ entry.call) (hWriting : ∀ message nonce remaining,
      phase ≠ .writing message nonce remaining)
    : CallOk crates sealed (k + 1) i phase := by
  have hLater {nonce : Nat} {message : Message .std} {ciphertext : List UInt8}
      (hk : k ≤ nonce) (hSealed : sealed[nonce]? = some ⟨i, message, ciphertext⟩)
      : k + 1 ≤ nonce := by
    by_contra hLt
    have hEq : nonce = k := by omega
    rw [hEq, hEntry] at hSealed
    injection hSealed with hSealed
    rw [hSealed] at hOther
    exact hOther rfl
  cases phase with
  | notCalled => exact h
  | waitNoise => exact h
  | holdNoise => exact h
  | encrypted => exact ⟨hLater h.left h.right, h.right⟩
  | waitWriter =>
    rcases h with ⟨hk, ciphertext, hSealed, hFrame⟩
    exact ⟨hLater hk hSealed, ciphertext, hSealed, hFrame⟩
  | writing message nonce remaining => exact absurd rfl (hWriting message nonce remaining)
  | returned message result =>
    cases result with
    | error => trivial
    | ok =>
      rcases h with ⟨nonce, ciphertext, hk, hSealed⟩
      exact ⟨nonce, ciphertext, by omega, hSealed⟩
  | cancelled => trivial

end CallOk

namespace SendState

structure Inv (crates : Crates) (s : SendState) : Prop where
  nonce : s.nonce = s.sealed.length
  sealed : ∀ n entry, s.sealed[n]? = some entry → SealedOk crates n entry
  nodup : (s.sealed.map Sealed.call).Nodup
  started : s.started = List.range s.started.length
  startedLe : s.started.length ≤ s.sealed.length
  calls : ∀ i, CallOk crates s.sealed s.started.length i (s.calls i)
  waiting : ∀ nonce, s.started.length ≤ nonce → nonce < s.sealed.length →
    ∃ i, (s.calls i).pendingNonce = some nonce
  locked : ∀ i remaining, (s.calls i).remaining = some remaining → s.writerLock = some i
  wireFree : s.writerLock = none → s.wire = frames crates (s.sealed.take s.started.length)
  wireHeld : ∀ i, s.writerLock = some i → ∃ message nonce remaining before entry,
    s.calls i = .writing message nonce remaining
      ∧
    s.sealed[nonce]? = some entry
      ∧
    s.wire = frames crates (s.sealed.take nonce) ++ before
      ∧
    frameOf crates entry = before ++ remaining

@[simp]
theorem setCall_calls (s : SendState) (i : CallId) (phase : SendPhase)
    : (s.setCall i phase).calls = Function.update s.calls i phase := rfl

@[simp]
theorem setCall_sealed (s : SendState) (i : CallId) (phase : SendPhase)
    : (s.setCall i phase).sealed = s.sealed := rfl

@[simp]
theorem setCall_started (s : SendState) (i : CallId) (phase : SendPhase)
    : (s.setCall i phase).started = s.started := rfl

@[simp]
theorem setCall_writerLock (s : SendState) (i : CallId) (phase : SendPhase)
    : (s.setCall i phase).writerLock = s.writerLock := rfl

@[simp]
theorem setCall_wire (s : SendState) (i : CallId) (phase : SendPhase)
    : (s.setCall i phase).wire = s.wire := rfl

theorem forall_setCall {s : SendState} {i : CallId} {phase : SendPhase}
    {P : CallId → SendPhase → Prop} (hCall : P i phase) (hOther : ∀ j, j ≠ i → P j (s.calls j))
    : ∀ j, P j ((s.setCall i phase).calls j) := by
  rw [setCall_calls, Function.forall_update_iff s.calls P]
  exact ⟨hCall, hOther⟩

theorem pending_setCall {s : SendState} {i : CallId} {phase : SendPhase} {nonce : Nat}
    (h : ∃ j, (s.calls j).pendingNonce = some nonce)
    (hCall : (s.calls i).pendingNonce = some nonce → phase.pendingNonce = some nonce)
    : ∃ j, ((s.setCall i phase).calls j).pendingNonce = some nonce := by
  rcases h with ⟨j, hj⟩
  exists j
  simp only [setCall_calls, Function.update_apply]
  split
  . next hEq =>
    rw [hEq] at hj
    apply hCall
    exact hj
  . exact hj

theorem remaining_setCall {s : SendState} {i j : CallId} {phase : SendPhase} {remaining : List UInt8}
    (h : ((s.setCall i phase).calls j).remaining = some remaining)
    : (j = i ∧ phase.remaining = some remaining)
        ∨
      (j ≠ i ∧ (s.calls j).remaining = some remaining) := by
  simp only [setCall_calls, Function.update_apply] at h
  split at h
  . next hEq => exact .inl ⟨hEq, h⟩
  . next hNe => exact .inr ⟨hNe, h⟩

theorem calls_setCall {s : SendState} {i j : CallId} {phase old : SendPhase} (h : s.calls j = old)
    (hCall : s.calls i ≠ old)
    : (s.setCall i phase).calls j = old := by
  simp only [setCall_calls, Function.update_apply]
  split
  . next hEq =>
    rw [hEq] at h
    contradiction
  . exact h

namespace Inv

variable {crates : Crates} {s t : SendState} {i j : CallId} {message : Message .std}
variable {nonce : Nat} {remaining : List UInt8}

theorem initial (crates : Crates) : Inv crates initial where
  nonce := rfl
  sealed := by simp [SendState.initial]
  nodup := by simp [SendState.initial]
  started := rfl
  startedLe := Nat.le_refl _
  calls := by simp [SendState.initial, CallOk]
  waiting := by simp [SendState.initial]
  locked := by simp [SendState.initial, SendPhase.remaining]
  wireFree := by simp [SendState.initial, frames]
  wireHeld := by simp [SendState.initial]

theorem callOk (h : Inv crates s) {phase : SendPhase} (hCall : s.calls i = phase)
    : CallOk crates s.sealed s.started.length i phase := by
  have hOk := h.calls i
  rw [hCall] at hOk
  exact hOk

theorem noiseLock (h : Inv crates s) (lock : Option CallId)
    : Inv crates { s with noiseLock := lock } :=
  ⟨h.nonce, h.sealed, h.nodup, h.started, h.startedLe, h.calls, h.waiting, h.locked, h.wireFree,
    h.wireHeld⟩

theorem setCall (h : Inv crates s) {phase : SendPhase}
    (hOk : CallOk crates s.sealed s.started.length i phase)
    (hPending : phase.pendingNonce = (s.calls i).pendingNonce)
    (hOld : (s.calls i).remaining = none)
    (hNew : phase.remaining = none)
    : Inv crates (s.setCall i phase) where
  nonce := h.nonce
  sealed := h.sealed
  nodup := h.nodup
  started := h.started
  startedLe := h.startedLe
  calls := by
    apply forall_setCall hOk
    intro j _
    exact h.calls j
  waiting := by
    intro nonce hLe hLt
    apply pending_setCall (h.waiting nonce hLe hLt)
    intro hOwn
    rw [hPending]
    exact hOwn
  locked := by
    intro j remaining hj
    rcases remaining_setCall hj with ⟨_, hOwn⟩ | ⟨_, hOther⟩
    . rw [hNew] at hOwn
      contradiction
    . exact h.locked j remaining hOther
  wireFree := h.wireFree
  wireHeld := by
    intro j hj
    rcases h.wireHeld j hj with ⟨message, nonce, remaining, before, entry, hWriting, hRest⟩
    exists message, nonce, remaining, before, entry
    refine ⟨calls_setCall hWriting ?_, hRest⟩
    intro hOwn
    rw [hOwn] at hOld
    contradiction

theorem call (h : Inv crates s) (hStep : s.call crates i message = some t) : Inv crates t := by
  unfold SendState.call at hStep
  split at hStep
  . next hCall =>
    have hOk := h.callOk hCall
    split at hStep
    . injection hStep with hStep
      subst hStep
      apply h.setCall
      . trivial
      . rw [hCall]; rfl
      . rw [hCall]; rfl
      . rfl
    . next payload hEncode =>
      split at hStep
      . injection hStep with hStep
        subst hStep
        apply h.setCall
        . trivial
        . rw [hCall]; rfl
        . rw [hCall]; rfl
        . rfl
      . next hMax =>
        injection hStep with hStep
        subst hStep
        apply h.setCall
        . exact ⟨hOk, hEncode, by omega⟩
        . rw [hCall]; rfl
        . rw [hCall]; rfl
        . rfl
  . contradiction

theorem lockNoise (h : Inv crates s) (hStep : s.lockNoise i = some t) : Inv crates t := by
  unfold SendState.lockNoise at hStep
  split at hStep
  . next message payload hCall _ =>
    injection hStep with hStep
    subst hStep
    have hOk := h.callOk hCall
    apply Inv.noiseLock
    apply h.setCall
    . exact hOk
    . rw [hCall]; rfl
    . rw [hCall]; rfl
    . rfl
  . contradiction

theorem unlockNoise (h : Inv crates s) (hDoc : crates.Documented)
    (hStep : s.unlockNoise i = some t)
    : Inv crates t := by
  unfold SendState.unlockNoise at hStep
  split at hStep
  . next message nonce ciphertext hCall =>
    rcases h.callOk hCall with ⟨hLe, hSealed⟩
    rcases (h.sealed _ _ hSealed).frame hDoc with ⟨payload, _, hFrame, _⟩
    rw [hFrame] at hStep
    injection hStep with hStep
    subst hStep
    apply Inv.noiseLock
    apply h.setCall
    . exact ⟨hLe, ciphertext, hSealed, hFrame⟩
    . rw [hCall]; rfl
    . rw [hCall]; rfl
    . rfl
  . contradiction

theorem pushSealed (h : Inv crates s) {plaintext ciphertext : List UInt8}
    (hCall : s.calls i = .holdNoise message plaintext)
    (hWrite : crates.noise.writeMessage s.nonce plaintext = .ok ciphertext)
    : Inv crates
        { s.setCall i (.encrypted message s.nonce ciphertext) with
          nonce := s.nonce + 1
          sealed := s.sealed ++ [⟨i, message, ciphertext⟩] } := by
  rcases h.callOk hCall with ⟨hFresh, hEncode, hMax⟩
  have hLe := h.startedLe
  have hNonce := h.nonce
  constructor
  case nonce => simp [hNonce]
  case sealed =>
    intro n entry hEntry
    simp only [List.getElem?_append] at hEntry
    split at hEntry
    . exact h.sealed n entry hEntry
    . next hn =>
      rw [List.getElem?_singleton] at hEntry
      split at hEntry
      . next hZero =>
        injection hEntry with hEntry
        subst hEntry
        have hEq : n = s.nonce := by omega
        rw [hEq]
        exact ⟨plaintext, hEncode, hWrite, hMax⟩
      . contradiction
  case nodup =>
    rw [List.map_append, List.nodup_append]
    refine ⟨h.nodup, by simp, ?_⟩
    intro a ha b hb hEq
    rw [List.map_singleton, List.mem_singleton] at hb
    rw [hEq, hb] at ha
    exact hFresh ha
  case started => exact h.started
  case startedLe =>
    rw [List.length_append]
    apply Nat.le_add_right_of_le
    exact hLe
  case calls =>
    apply forall_setCall
    . refine ⟨by simp only [setCall_started]; omega, ?_⟩
      rw [hNonce]
      exact List.getElem?_concat_length
    . intro j hNe
      apply (h.calls j).snoc
      exact hNe
  case waiting =>
    intro nonce hStarted hLt
    simp only [setCall_started] at hStarted
    simp only [List.length_append, List.length_singleton] at hLt
    -- an old nonce waits for its turn as before, the new one belongs to this call
    by_cases hOld : nonce < s.sealed.length
    . apply pending_setCall (h.waiting nonce hStarted hOld)
      rw [hCall]
      intro hOwn
      contradiction
    . exists i
      have hEq : nonce = s.nonce := by omega
      simp [SendPhase.pendingNonce, hEq]
  case locked =>
    intro j remaining hj
    rcases remaining_setCall hj with ⟨_, hOwn⟩ | ⟨_, hOther⟩
    . contradiction
    . exact h.locked j remaining hOther
  case wireFree =>
    intro hFree
    simp only [setCall_wire, setCall_started]
    rw [List.take_append_of_le_length hLe]
    exact h.wireFree hFree
  -- the frames that are started were all sealed before
  case wireHeld =>
    intro j hj
    rcases h.wireHeld j hj with
      ⟨message', nonce, remaining, before, entry, hWriting, hEntry, hWire, hFrame⟩
    have hLt : nonce < s.sealed.length := by
      rw [List.getElem?_eq_some_iff] at hEntry
      exact hEntry.choose
    exists message', nonce, remaining, before, entry
    refine ⟨calls_setCall hWriting ?_, CallOk.getElem?_append_one hEntry, ?_, hFrame⟩
    . rw [hCall]
      simp
    . rw [List.take_append_of_le_length (by omega)]
      exact hWire

theorem encrypt (h : Inv crates s) (hStep : s.encrypt crates i = some t) : Inv crates t := by
  unfold SendState.encrypt at hStep
  split at hStep
  . next message payload hCall =>
    split at hStep
    . injection hStep with hStep
      subst hStep
      apply Inv.noiseLock
      apply h.setCall
      . trivial
      . rw [hCall]; rfl
      . rw [hCall]; rfl
      . rfl
    . next hWrite =>
      injection hStep with hStep
      subst hStep
      exact h.pushSealed hCall hWrite
  . contradiction

theorem start (h : Inv crates s) {frame : Request} {entry : Sealed} (hFree : s.writerLock = none)
    (hCall : s.calls i = .waitWriter message nonce frame)
    (hEntry : s.sealed[nonce]? = some entry) (hId : entry.call = i)
    (hMessage : entry.message = message) (hTurn : nonce = s.started.length)
    : Inv crates
        { s.setCall i (.writing message nonce (frameOf crates entry)) with
          writerLock := some i
          started := s.started ++ [nonce] } := by
  have hLt : nonce < s.sealed.length := by
    rw [List.getElem?_eq_some_iff] at hEntry
    exact hEntry.choose
  have hIdle (j : CallId) : (s.calls j).remaining = none := by
    cases hj : (s.calls j).remaining with
    | none => rfl
    | some remaining =>
      have := h.locked j remaining hj
      rw [hFree] at this
      contradiction
  constructor
  case nonce => exact h.nonce
  case sealed => exact h.sealed
  case nodup => exact h.nodup
  case started =>
    rw [List.length_append, List.length_singleton, List.range_succ, ← h.started, hTurn]
  case startedLe =>
    rw [List.length_append, List.length_singleton, ← hTurn]
    exact hLt
  case calls =>
    simp only [setCall_sealed, List.length_append, List.length_singleton]
    apply forall_setCall
    . refine ⟨by omega, entry.ciphertext, ?_⟩
      rw [hEntry, ← hId, ← hMessage]
    . intro j hNe
      apply (h.calls j).succ
      . rw [← hTurn]
        exact hEntry
      . rw [hId]
        exact hNe
      . intro message nonce remaining hWriting
        have hNone := hIdle j
        rw [hWriting] at hNone
        contradiction
  case waiting =>
    intro nonce' hStarted hLt'
    rw [List.length_append, List.length_singleton] at hStarted
    apply pending_setCall (h.waiting nonce' (by omega) hLt')
    rw [hCall]
    intro hOwn
    injection hOwn with hOwn
    omega
  case locked =>
    intro j remaining hj
    rcases remaining_setCall hj with ⟨hEq, _⟩ | ⟨_, hOther⟩
    . rw [hEq]
    . rw [hIdle j] at hOther
      contradiction
  case wireFree =>
    intro hSome
    contradiction
  case wireHeld =>
    intro j hj
    injection hj with hj
    subst hj
    exists message, nonce, frameOf crates entry, [], entry
    refine ⟨by simp, hEntry, ?_, rfl⟩
    -- nobody writes, so the wire ends with a complete frame
    rw [List.append_nil, hTurn]
    exact h.wireFree hFree

theorem lockWriter (h : Inv crates s) (hDoc : crates.Documented)
    (hTurn : s.inTurn (.lockWriter i) = true) (hStep : s.lockWriter crates i = some t)
    : Inv crates t := by
  unfold SendState.lockWriter at hStep
  split at hStep
  . next message nonce frame hCall hFree =>
    unfold SendState.inTurn at hTurn
    simp only [hCall, beq_iff_eq] at hTurn
    rcases h.callOk hCall with ⟨_, ciphertext, hSealed, hFrame⟩
    rcases (h.sealed _ _ hSealed).frame hDoc with ⟨payload, _, hFrame', hWrite, _⟩
    rw [hFrame] at hFrame'
    injection hFrame' with hFrame'
    subst hFrame'
    rw [hWrite] at hStep
    injection hStep with hStep
    subst hStep
    exact h.start hFree hCall hSealed rfl rfl hTurn
  . contradiction

theorem write (h : Inv crates s) {count : Nat} (hStep : s.write i count = some t)
    : Inv crates t := by
  unfold SendState.write at hStep
  split at hStep
  . next message nonce remaining hCall =>
    split at hStep
    . injection hStep with hStep
      subst hStep
      have hLock := h.locked i remaining (by rw [hCall]; rfl)
      have hOk := h.callOk hCall
      constructor
      case nonce => exact h.nonce
      case sealed => exact h.sealed
      case nodup => exact h.nodup
      case started => exact h.started
      case startedLe => exact h.startedLe
      case calls =>
        apply forall_setCall
        . exact hOk
        . intro j _
          exact h.calls j
      case waiting =>
        intro nonce' hLe hLt
        apply pending_setCall (h.waiting nonce' hLe hLt)
        rw [hCall]
        intro hOwn
        contradiction
      case locked =>
        intro j remaining' hj
        rcases remaining_setCall hj with ⟨hEq, _⟩ | ⟨_, hOther⟩
        . rw [hEq]
          exact hLock
        . exact h.locked j remaining' hOther
      case wireFree =>
        intro hFree
        simp only [setCall_writerLock, hLock] at hFree
        contradiction
      case wireHeld =>
        intro j hj
        simp only [setCall_writerLock, hLock] at hj
        injection hj with hj
        subst hj
        -- the bytes that go out move from the remaining part of the frame to the written one
        rcases h.wireHeld i hLock with ⟨_, _, _, before, entry, hWriting, hEntry, hWire, hFrame⟩
        rw [hCall] at hWriting
        injection hWriting with hMessage hNonce hRemaining
        subst hMessage hNonce hRemaining
        exists message, nonce, remaining.drop count, before ++ remaining.take count, entry
        refine ⟨by simp, hEntry, ?_, ?_⟩
        . simp only [setCall_sealed]
          rw [hWire, List.append_assoc]
        . rw [hFrame, List.append_assoc, List.take_append_drop]
    . contradiction
  . contradiction

theorem release (h : Inv crates s) (hCall : s.calls i = .writing message nonce [])
    {phase : SendPhase}
    (hOk : CallOk crates s.sealed s.started.length i phase)
    (hNew : phase.remaining = none)
    : Inv crates { s.setCall i phase with writerLock := none } := by
  have hLock := h.locked i [] (by rw [hCall]; rfl)
  constructor
  case nonce => exact h.nonce
  case sealed => exact h.sealed
  case nodup => exact h.nodup
  case started => exact h.started
  case startedLe => exact h.startedLe
  case calls =>
    apply forall_setCall hOk
    intro j _
    exact h.calls j
  case waiting =>
    intro nonce' hLe hLt
    apply pending_setCall (h.waiting nonce' hLe hLt)
    rw [hCall]
    intro hOwn
    contradiction
  case locked =>
    intro j remaining hj
    rcases remaining_setCall hj with ⟨_, hOwn⟩ | ⟨hNe, hOther⟩
    . rw [hNew] at hOwn
      contradiction
    . have hHolder := h.locked j remaining hOther
      rw [hLock] at hHolder
      injection hHolder with hHolder
      exact absurd hHolder.symm hNe
  case wireFree =>
    intro _
    rcases h.wireHeld i hLock with ⟨_, _, _, before, entry, hWriting, hEntry, hWire, hFrame⟩
    rw [hCall] at hWriting
    injection hWriting with hMessage hNonce hRemaining
    subst hMessage hNonce hRemaining
    rcases h.callOk hCall with ⟨hNext, _⟩
    rw [List.append_nil] at hFrame
    simp only [setCall_wire, setCall_sealed, setCall_started]
    rw [hWire, ← hNext, ← hFrame, List.take_add_one, hEntry]
    simp [frames]
  case wireHeld =>
    intro j hj
    contradiction

theorem flush (h : Inv crates s) (hStep : s.flush i = some t) : Inv crates t := by
  unfold SendState.flush at hStep
  split at hStep
  . next message nonce hCall =>
    injection hStep with hStep
    subst hStep
    rcases h.callOk hCall with ⟨hNext, ciphertext, hSealed⟩
    apply h.release hCall
    . exact ⟨nonce, ciphertext, by omega, hSealed⟩
    . rfl
  . contradiction

theorem writeError (h : Inv crates s) {detail : String}
    (hTurn : s.inTurn (.writeError i detail) = true) (hStep : s.writeError i detail = some t)
    : Inv crates t := by
  unfold SendState.writeError at hStep
  split at hStep
  . next message nonce remaining hCall =>
    unfold SendState.inTurn at hTurn
    simp only [hCall, List.isEmpty_iff] at hTurn
    subst hTurn
    injection hStep with hStep
    subst hStep
    apply h.release hCall
    . trivial
    . rfl
  . contradiction

theorem cancel (h : Inv crates s) (hTurn : s.inTurn (.cancel i) = true)
    (hStep : s.cancel i = some t)
    : Inv crates t := by
  unfold SendState.cancel at hStep
  unfold SendState.inTurn at hTurn
  split at hStep
  . next hCall =>
    injection hStep with hStep
    subst hStep
    apply h.setCall
    . trivial
    . rw [hCall]; rfl
    . rw [hCall]; rfl
    . rfl
  . next hCall =>
    simp only [hCall] at hTurn
    contradiction
  . next hCall =>
    simp only [hCall, List.isEmpty_iff] at hTurn
    subst hTurn
    injection hStep with hStep
    subst hStep
    apply h.release hCall
    . trivial
    . rfl
  . contradiction

theorem step (h : Inv crates s) (hDoc : crates.Documented) {label : SendLabel}
    (hTurn : s.inTurn label = true) (hStep : s.step crates label = some t)
    : Inv crates t := by
  cases label with
  | call => exact h.call hStep
  | lockNoise => exact h.lockNoise hStep
  | encrypt => exact h.encrypt hStep
  | unlockNoise => exact h.unlockNoise hDoc hStep
  | lockWriter => exact h.lockWriter hDoc hTurn hStep
  | write => exact h.write hStep
  | writeError => exact h.writeError hTurn hStep
  | flush => exact h.flush hStep
  | cancel => exact h.cancel hTurn hStep

theorem sealedOnce (h : Inv crates s) {n m : Nat} {entry other : Sealed}
    (hn : s.sealed[n]? = some entry) (hm : s.sealed[m]? = some other) (hCall : other.call = entry.call)
    : m = n := by
  have hLt : m < (s.sealed.map Sealed.call).length := by
    rw [List.length_map]
    rw [List.getElem?_eq_some_iff] at hm
    exact hm.choose
  apply (List.getElem?_inj hLt h.nodup).mp
  rw [List.getElem?_map, List.getElem?_map, hn, hm]
  simp only [Option.map_some, hCall]

theorem onWire (h : Inv crates s) (hDoc : crates.Documented)
    : ∃ complete before remaining,
        s.wire = frames crates (s.sealed.take complete) ++ before
          ∧
        s.wire ++ remaining = frames crates (s.sealed.take s.started.length)
          ∧
        readFrame crates.request before = .pending
          ∧
        (remaining ≠ [] → ∃ i, (s.calls i).remaining = some remaining)
          ∧
        ∀ i message nonce ciphertext, s.calls i = .returned message (.ok ()) →
          nonce < s.started.length → s.sealed[nonce]? = some ⟨i, message, ciphertext⟩ →
            nonce < complete := by
  -- either no frame is under way, or the one of the holder of the writer lock is the last
  cases hLock : s.writerLock with
  | none =>
    have hWire := h.wireFree hLock
    exists s.started.length, [], []
    rw [List.append_nil, List.append_nil]
    refine ⟨hWire, hWire, rfl, ?_, ?_⟩
    . intro hNonempty
      contradiction
    . intro i message nonce ciphertext _ hLt _
      exact hLt
  | some i =>
    rcases h.wireHeld i hLock with
      ⟨message, nonce, remaining, before, entry, hCall, hEntry, hWire, hFrame⟩
    rcases h.callOk hCall with ⟨hNext, ciphertext, hSealed⟩
    have hStarted : s.wire ++ remaining = frames crates (s.sealed.take s.started.length) := by
      rw [hWire, ← hNext, List.take_add_one, hEntry, List.append_assoc, ← hFrame]
      simp [frames]
    have hRemaining : remaining ≠ [] → ∃ i, (s.calls i).remaining = some remaining := by
      intro _
      exists i
      rw [hCall]
      rfl
    cases hEnd : remaining with
    | nil =>
      exists s.started.length, [], []
      rw [hEnd, List.append_nil] at hStarted
      rw [List.append_nil, List.append_nil]
      refine ⟨hStarted, hStarted, rfl, ?_, ?_⟩
      . intro hNonempty
        contradiction
      . intro i message nonce ciphertext _ hLt _
        exact hLt
    | cons byte rest =>
      exists nonce, before, remaining
      rcases (h.sealed _ _ hEntry).frame hDoc with ⟨_, _, _, _, _, _, hCut⟩
      refine ⟨hWire, hStarted, ?_, hRemaining, ?_⟩
      . apply hCut _ _ hFrame
        rw [hEnd]
        apply List.cons_ne_nil
      . intro j message' nonce' ciphertext' hReturned hLt hSealed'
        -- a frame that is not complete belongs to a call that is still writing
        by_contra hGe
        have hEq : nonce' = nonce := by omega
        rw [hEq, hSealed] at hSealed'
        injection hSealed' with hSealed'
        injection hSealed' with hId
        rw [← hId, hCall] at hReturned
        contradiction

theorem inOrder (h : Inv crates s) (hDoc : crates.Documented) : InOrder crates s := by
  rcases h.onWire hDoc with ⟨complete, before, remaining, hWire, hAll, hPending, hRemaining, hReturned⟩
  constructor
  case order => exact h.started
  case noneMissing =>
    intro nonce hLt
    by_cases hStarted : nonce < s.started.length
    . left
      rw [h.started, List.mem_range]
      exact hStarted
    . right
      apply h.waiting
      . omega
      . exact hLt
  case wire => exact ⟨remaining, hAll, hRemaining⟩
  case received =>
    exists complete
    constructor
    . rw [hWire]
      apply peerReceive_frames hDoc
      . intro n entry hEntry
        rw [List.getElem?_take] at hEntry
        split at hEntry
        . exact h.sealed n entry hEntry
        . contradiction
      . exact hPending
    . intro i message hCall
      rcases h.callOk hCall with ⟨nonce, ciphertext, hLt, hSealed⟩
      exists nonce, ciphertext
      refine ⟨hReturned i message nonce ciphertext hCall hLt hSealed, hSealed, ?_⟩
      intro other entry hEntry hId
      exact h.sealedOnce hSealed hEntry hId

end Inv

theorem run_inOrder (crates : Crates) (hDoc : crates.Documented) (labels : List SendLabel)
    (s : SendState)
    (hRun : Run (SendState.step crates) (fun s label => s.inTurn label = true) initial labels s)
    : InOrder crates s := by
  have hInv : Inv crates s := by
    apply hRun.invariant (Inv.initial crates)
    intro s label t h hTurn hStep
    exact h.step hDoc hTurn hStep
  exact hInv.inOrder hDoc

theorem run_inOrder_hostInfo
    : ∃ s, s.started = [0, 1] ∧ InOrder hostInfoCrates s := by
  have hExec : (execIf (SendState.step hostInfoCrates) SendState.inTurn initial
      [.call 0 (hostInfo 0), .call 1 (hostInfo 1), .call 2 (hostInfo 2), .lockNoise 0, .encrypt 0,
        .unlockNoise 0, .cancel 2, .lockNoise 1, .encrypt 1, .unlockNoise 1, .lockWriter 0, .write 0 5,
        .write 0 37, .flush 0, .lockWriter 1, .write 1 42, .flush 1]).map SendState.started
      = some [0, 1] := by
    decide
  rcases Run.exists_of_execIf hExec with ⟨s, hRun, hStarted⟩
  exact ⟨s, hStarted, run_inOrder _ hostInfoCrates_documented _ s hRun⟩

/-
The second of two calls to encrypt is the first to get the writer lock.
-/
theorem not_run_inOrder
    : ¬ ∀ (crates : Crates) (labels : List SendLabel) (s : SendState),
        crates.Documented → Run (SendState.step crates) anyStep initial labels s →
          InOrder crates s := by
  intro h
  have hExec : (exec (SendState.step hostInfoCrates) initial
      [.call 0 (hostInfo 0), .call 1 (hostInfo 1), .lockNoise 0, .encrypt 0, .unlockNoise 0,
        .lockNoise 1, .encrypt 1, .unlockNoise 1, .lockWriter 1, .write 1 42, .flush 1]).map
          SendState.started
      = some [1] := by
    decide
  rcases Run.exists_of_exec hExec with ⟨s, hRun, hStarted⟩
  have hOrder := (h hostInfoCrates _ s hostInfoCrates_documented hRun).order
  rw [hStarted] at hOrder
  contradiction

end SendState
end Wifi
end Enody
