import Enody.Channel.Bounded

/-!
This module contains bounded channels together with what their two ends have seen so far: everything that
was offered to the channel, and what has been received from it. An offer to a full channel is lost, a send
waits for room.
-/

/--
What a channel delivers is part of what it was offered, in the same order.
-/
structure Feed (α : Type) (capacity : Nat) where
  channel : Channel α capacity
  offered : List α
  received : List α
  inOrder : (received ++ channel.queue).Sublist offered

namespace Feed

variable {α : Type} {capacity : Nat}

def empty : Feed α capacity := ⟨.empty, [], [], .slnil⟩

def delivered (feed : Feed α capacity) : List α :=
  feed.received ++ feed.channel.queue

def hasRoom (feed : Feed α capacity) : Bool :=
  feed.channel.queue.length < capacity

theorem sublist_trySend {feed : Feed α capacity} {channel : Channel α capacity} {a : α}
    (h : feed.channel.trySend a = some channel)
    : (feed.received ++ channel.queue).Sublist (feed.offered ++ [a]) := by
  rw [Channel.queue_of_trySend_eq_some h, ← List.append_assoc]
  apply List.Sublist.append
  . exact feed.inOrder
  . exact List.Sublist.refl [a]

/-
`try_send` by an owner that does not look at its result.
-/
def offer (feed : Feed α capacity) (a : α) : Feed α capacity :=
  match h : feed.channel.trySend a with
  | none =>
    ⟨feed.channel, feed.offered ++ [a], feed.received,
      feed.inOrder.trans (List.sublist_append_left feed.offered [a])⟩
  | some channel => ⟨channel, feed.offered ++ [a], feed.received, sublist_trySend h⟩

/-
`send`, which is not enabled as long as the channel is full.
-/
def send (feed : Feed α capacity) (a : α) : Option (Feed α capacity) :=
  match h : feed.channel.trySend a with
  | none => none
  | some channel => some ⟨channel, feed.offered ++ [a], feed.received, sublist_trySend h⟩

def recv (feed : Feed α capacity) : Option (Feed α capacity) :=
  match h : feed.channel.recv with
  | none => none
  | some (a, channel) =>
    some
      ⟨channel, feed.offered, feed.received ++ [a], by
        have hOrder := feed.inOrder
        rw [Channel.queue_of_recv_eq_some h] at hOrder
        simpa using hOrder⟩

variable {feed feed' : Feed α capacity} {a : α}

@[simp]
theorem delivered_empty : (empty : Feed α capacity).delivered = [] := rfl

@[simp]
theorem offered_empty : (empty : Feed α capacity).offered = [] := rfl

theorem delivered_sublist (feed : Feed α capacity) : feed.delivered.Sublist feed.offered :=
  feed.inOrder

@[simp]
theorem offered_offer (feed : Feed α capacity) (a : α) : (feed.offer a).offered = feed.offered ++ [a] := by
  unfold offer
  split <;> rfl

theorem received_offer (feed : Feed α capacity) (a : α) : (feed.offer a).received = feed.received := by
  unfold offer
  split <;> rfl

theorem delivered_offer_of_hasRoom (h : feed.hasRoom = true)
    : (feed.offer a).delivered = feed.delivered ++ [a] := by
  unfold offer
  split
  . next hNone =>
    rw [Channel.trySend_eq_none_iff] at hNone
    unfold hasRoom at h
    rw [hNone] at h
    simp at h
  . next hSome =>
    unfold delivered
    simp only [Channel.queue_of_trySend_eq_some hSome, List.append_assoc]

theorem of_send (h : feed.send a = some feed')
    : feed'.offered = feed.offered ++ [a] ∧ feed'.delivered = feed.delivered ++ [a] := by
  unfold send at h
  split at h
  . contradiction
  . next hSome =>
    injection h with h
    subst h
    constructor
    . rfl
    . unfold delivered
      simp only [Channel.queue_of_trySend_eq_some hSome, List.append_assoc]

theorem received_of_send (h : feed.send a = some feed') : feed'.received = feed.received := by
  unfold send at h
  split at h
  . contradiction
  . injection h with h
    rw [← h]

theorem of_recv (h : feed.recv = some feed')
    : feed'.offered = feed.offered ∧ feed'.delivered = feed.delivered := by
  unfold recv at h
  split at h
  . contradiction
  . next hSome =>
    injection h with h
    subst h
    constructor
    . rfl
    . unfold delivered
      simp only [Channel.queue_of_recv_eq_some hSome, List.append_assoc, List.singleton_append]

theorem received_of_recv {channel : Channel α capacity} (hRecv : feed.channel.recv = some (a, channel))
    (h : feed.recv = some feed')
    : feed'.received = feed.received ++ [a] := by
  unfold recv at h
  split at h
  . contradiction
  . next hSome =>
    rw [hRecv] at hSome
    injection hSome with hSome
    injection hSome with hSome
    injection h with h
    subst h hSome
    rfl

def Lossless (feed : Feed α capacity) : Prop :=
  feed.delivered = feed.offered

theorem Lossless.empty : (empty : Feed α capacity).Lossless := rfl

theorem Lossless.offer (hLossless : feed.Lossless) (hRoom : feed.hasRoom = true)
    : (feed.offer a).Lossless := by
  unfold Lossless
  rw [delivered_offer_of_hasRoom hRoom, offered_offer, hLossless]

theorem Lossless.send (hLossless : feed.Lossless) (hSend : feed.send a = some feed')
    : feed'.Lossless := by
  rcases of_send hSend with ⟨hOffered, hDelivered⟩
  unfold Lossless
  rw [hOffered, hDelivered, hLossless]

theorem Lossless.recv (hLossless : feed.Lossless) (hRecv : feed.recv = some feed')
    : feed'.Lossless := by
  rcases of_recv hRecv with ⟨hOffered, hDelivered⟩
  unfold Lossless
  rw [hOffered, hDelivered, hLossless]

end Feed
