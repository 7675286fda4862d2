import Enody.Presence.Ledger
import Enody.Transition.Run
import Enody.Wifi.Lemmas.Environment

/-!
This module contains when the events of a `WifiEnvironment` describe its connected runtimes. A round
changes the list at once and sends its events at its end, a call of `exclude_host_id` sends the departure
of the runtime it has removed on the same channel, so the two can overtake each other.
-/

namespace Enody
namespace Wifi

open Presence Transition

def change : RuntimeEvent → Change WifiRuntime
  | .arrived runtime => .enter runtime
  | .left runtime => .leave runtime

def hostChanges (events : List RuntimeEvent) : List (Change Identifier) :=
  (events.map change).map (Change.map runtimeHostId)

def Excluding.owing? : Excluding → Option WifiRuntime
  | inserted _ => none
  | owing runtime => some runtime

theorem Excluding.owing?_eq_some {call : Excluding} {runtime : WifiRuntime}
    : call.owing? = some runtime ↔ call = .owing runtime := by
  cases call with
  | inserted => simp [owing?]
  | owing => simp [owing?]

namespace DiscoveryState

variable {tokens : List Message.Token} {s t : DiscoveryState} {round : Round} {label : DiscoveryLabel}
variable {runtime : WifiRuntime}

/-
The runtimes whose departure a call of `exclude_host_id` has yet to send.
-/
def leaving (s : DiscoveryState) : List WifiRuntime :=
  s.excluding.filterMap Excluding.owing?

theorem mem_leaving : runtime ∈ s.leaving ↔ .owing runtime ∈ s.excluding := by
  unfold leaving
  rw [List.mem_filterMap]
  simp [Excluding.owing?_eq_some]

/-
The channel has room and no host is removed from the exclusion set.
-/
def inScope (s : DiscoveryState) : DiscoveryLabel → Bool
  | .removeExcluded _ => false
  | _ => !s.runtimeEvents.isFull

/-
A call sends a departure only after the round has sent the arrival of the same runtime, and the round sends
an arrival only after the departures of other runtimes of the host.
-/
def keepsOrder (s : DiscoveryState) : DiscoveryLabel → Bool
  | .removeExcluded _ => false
  | .sendEvent =>
    match s.unsent with
    | .arrived runtime :: _ =>
      decide (∀ other ∈ s.leaving, runtimeHostId other = runtimeHostId runtime → other = runtime)
    | _ => true
  | .sendLeft call =>
    match s.excluding[call]? with
    | some (.owing runtime) => !s.runtimeEvents.isFull && decide (.arrived runtime ∉ s.unsent)
    | _ => true
  | _ => true

def ledger (s : DiscoveryState) : Ledger WifiRuntime where
  present := runtimes s.connectedRuntimes
  batch := s.unsent.map change
  leaving := s.leaving
  changes := s.changes.map change
  sent := s.sent.map change

def Known (s : DiscoveryState) (runtime : WifiRuntime) : Prop :=
  runtime ∈ runtimes s.connectedRuntimes ∨ .owing runtime ∈ s.excluding

end DiscoveryState

def Round.Arrivals (round : Round) : Prop :=
  ∀ event ∈ round.events,
    ∃ runtime, event = .arrived runtime ∧ runtimeHostId runtime ∈ round.seenHostIds

theorem Round.Arrivals.mono {round next : Round} (h : round.Arrivals)
    (hEvents : next.events = round.events) (hSeen : round.seenHostIds ⊆ next.seenHostIds)
    : next.Arrivals := by
  intro event hMem
  rw [hEvents] at hMem
  rcases h event hMem with ⟨runtime, hArrived, hHost⟩
  exact ⟨runtime, hArrived, hSeen hHost⟩

namespace DiscoveryState

variable {tokens : List Message.Token} {s t : DiscoveryState} {round : Round} {label : DiscoveryLabel}
variable {runtime : WifiRuntime}

structure Connecting (s : DiscoveryState) (round : Round) (runtime : WifiRuntime) : Prop where
  numbered : runtime.id < s.created
  fresh : ¬ s.Known runtime
  seen : runtimeHostId runtime ∈ round.seenHostIds
  alone : ∀ other, .arrived other ∈ round.events → runtimeHostId other ≠ runtimeHostId runtime

def Going (s : DiscoveryState) (round : Round) : RoundPhase → Prop
  | .visiting _ => round.Arrivals
  | .connecting runtime _ => round.Arrivals ∧ s.Connecting round runtime
  | .disconnecting _ => True

structure Disciplined (s : DiscoveryState) : Prop where
  calls : (s.excluding.map Excluding.hostId).Nodup
  blocked : ∀ call ∈ s.excluding, call.hostId ∈ s.excludedHostIds
  numbered : ∀ runtime, s.Known runtime → runtime.id < s.created
  going : ∀ round, s.round = some round → s.Going round round.phase

namespace Disciplined

theorem Going.mono {phase : RoundPhase} (hGoing : s.Going round phase)
    (hCreated : t.created = s.created) (hKnown : ∀ runtime, t.Known runtime → s.Known runtime)
    : t.Going round phase := by
  cases phase with
  | visiting devices => exact hGoing
  | connecting runtime devices =>
    rcases hGoing with ⟨hArrivals, hConnecting⟩
    refine ⟨hArrivals, ?_⟩
    constructor
    case numbered =>
      rw [hCreated]
      exact hConnecting.numbered
    case fresh =>
      intro hIs
      exact hConnecting.fresh (hKnown runtime hIs)
    case seen => exact hConnecting.seen
    case alone => exact hConnecting.alone
  | disconnecting missing => trivial

theorem ofCall (h : Disciplined s) (hRound : t.round = s.round) (hCreated : t.created = s.created)
    (hKnown : ∀ runtime, t.Known runtime → s.Known runtime)
    (hCalls : (t.excluding.map Excluding.hostId).Nodup)
    (hBlocked : ∀ call ∈ t.excluding, call.hostId ∈ t.excludedHostIds)
    : Disciplined t where
  calls := hCalls
  blocked := hBlocked
  numbered := by
    intro runtime hIs
    rw [hCreated]
    exact h.numbered runtime (hKnown runtime hIs)
  going := by
    intro round hIs
    rw [hRound] at hIs
    apply Going.mono (h.going round hIs) hCreated hKnown

theorem ofRound (h : Disciplined s) (hExcluding : t.excluding = s.excluding)
    (hExcluded : t.excludedHostIds = s.excludedHostIds)
    (hNumbered : ∀ runtime, t.Known runtime → runtime.id < t.created)
    (hRound : t.round = some round) (hGoing : t.Going round round.phase)
    : Disciplined t where
  calls := by
    rw [hExcluding]
    exact h.calls
  blocked := by
    rw [hExcluding, hExcluded]
    exact h.blocked
  numbered := hNumbered
  going := by
    intro other hOther
    rw [hRound] at hOther
    injection hOther with hOther
    rw [← hOther]
    exact hGoing

theorem going_of_phase (h : Disciplined s) {phase : RoundPhase} (hRound : s.round = some round)
    (hPhase : round.phase = phase)
    : s.Going round phase := by
  rw [← hPhase]
  exact h.going round hRound

theorem finished (h : Disciplined s) {call : Nat} (hRound : t.round = s.round)
    (hCreated : t.created = s.created) (hList : t.connectedRuntimes = s.connectedRuntimes)
    (hExcluding : t.excluding = s.excluding.eraseIdx call)
    (hExcluded : t.excludedHostIds = s.excludedHostIds)
    : Disciplined t := by
  apply h.ofCall hRound hCreated
  . intro runtime hKnown
    unfold Known at hKnown ⊢
    rw [hList, hExcluding] at hKnown
    exact hKnown.imp_right List.mem_of_mem_eraseIdx
  . rw [hExcluding]
    exact h.calls.sublist ((List.eraseIdx_sublist _ _).map _)
  . intro call hMem
    rw [hExcluding] at hMem
    rw [hExcluded]
    exact h.blocked call (List.mem_of_mem_eraseIdx hMem)

theorem known_of_perm {removed : List WifiRuntime} {rest : List ConnectedWifiRuntime}
    (hPerm : (removed ++ runtimes rest).Perm (runtimes s.connectedRuntimes))
    (hList : t.connectedRuntimes = rest)
    (hExcluding : ∀ runtime, .owing runtime ∈ t.excluding →
      .owing runtime ∈ s.excluding ∨ runtime ∈ removed)
    (runtime : WifiRuntime) (hKnown : t.Known runtime)
    : s.Known runtime := by
  rcases hKnown with hListed | hOwing
  . left
    rw [hList] at hListed
    rw [← hPerm.mem_iff]
    exact List.mem_append_right _ hListed
  . rcases hExcluding runtime hOwing with hOld | hRemoved
    . exact .inr hOld
    . left
      rw [← hPerm.mem_iff]
      exact List.mem_append_left _ hRemoved

theorem tried (h : Disciplined s) {device : WifiDiscoveredDevice} {devices : List WifiDiscoveredDevice}
    (hRound : s.round = some round) (hPhase : round.phase = .visiting (device :: devices))
    (hUnseen : runtimeHostId runtime ∉ round.seenHostIds) (hId : runtime.id = s.created)
    : Disciplined
        { s with
          created := s.created + 1
          round := some
            { round with
              seenHostIds := runtimeHostId runtime :: round.seenHostIds
              phase := .connecting runtime devices } } := by
  have hArrivals : round.Arrivals := h.going_of_phase hRound hPhase
  refine h.ofRound rfl rfl ?_ rfl ⟨?_, ?_⟩
  . intro other hKnown
    have := h.numbered other hKnown
    simp only
    omega
  . refine hArrivals.mono rfl ?_
    apply List.subset_cons_self
  . constructor
    case numbered =>
      rw [hId]
      apply Nat.lt_succ_self
    case fresh =>
      intro hKnown
      have := h.numbered runtime hKnown
      omega
    case seen => exact List.mem_cons_self
    case alone =>
      -- the host of an arrival has been seen before
      intro other hMem hHost
      rcases hArrivals _ hMem with ⟨arrived, hArrived, hSeen⟩
      injection hArrived with hArrived
      rw [← hArrived, hHost] at hSeen
      contradiction

theorem pushed (h : Disciplined s) {devices : List WifiDiscoveredDevice} (hRound : s.round = some round)
    (hPhase : round.phase = .connecting runtime devices)
    : Disciplined
        { s with
          connectedRuntimes := s.connectedRuntimes ++ [⟨runtime, 0⟩]
          changes := s.changes ++ [.arrived runtime]
          round := some
            { round with
              events := round.events ++ [.arrived runtime], phase := .visiting devices } } := by
  rcases h.going_of_phase hRound hPhase with ⟨hArrivals, hConnecting⟩
  refine h.ofRound rfl rfl ?_ rfl ?_
  . intro other hKnown
    unfold Known at hKnown
    rw [runtimes_push, List.mem_append, List.mem_singleton] at hKnown
    rcases hKnown with (hListed | hEq) | hOwing
    . exact h.numbered other (.inl hListed)
    . rw [hEq]
      exact hConnecting.numbered
    . exact h.numbered other (.inr hOwing)
  . intro event hMem
    rw [List.mem_append, List.mem_singleton] at hMem
    rcases hMem with hOld | hNew
    . exact hArrivals event hOld
    . exact ⟨runtime, hNew, hConnecting.seen⟩

theorem excludeNew (h : Disciplined s) {hostId : Identifier} (hNew : hostId ∉ s.excludedHostIds)
    : Disciplined
        { s with
          excludedHostIds := hostId :: s.excludedHostIds
          excluding := s.excluding ++ [.inserted hostId] } := by
  refine h.ofCall rfl rfl ?_ ?_ ?_
  . intro runtime hKnown
    rcases hKnown with hListed | hOwing
    . exact .inl hListed
    . right
      simpa using hOwing
  . rw [List.map_append, List.perm_append_comm.nodup_iff, List.map_singleton,
      List.singleton_append, List.nodup_cons]
    refine ⟨?_, h.calls⟩
    intro hMem
    rw [List.mem_map] at hMem
    rcases hMem with ⟨call, hCall, hHost⟩
    apply hNew
    have hIn := h.blocked call hCall
    rw [hHost] at hIn
    exact hIn
  . intro call hMem
    rw [List.mem_append, List.mem_singleton] at hMem
    rcases hMem with hOld | hEq
    . exact List.mem_cons_of_mem _ (h.blocked call hOld)
    . rw [hEq]
      exact List.mem_cons_self

theorem removedSome (h : Disciplined s) {call : Nat} {rest : List ConnectedWifiRuntime}
    (hCall : s.excluding[call]? = some (.inserted (runtimeHostId runtime)))
    (hPerm : ([runtime] ++ runtimes rest).Perm (runtimes s.connectedRuntimes))
    : Disciplined
        { s with
          connectedRuntimes := rest
          changes := s.changes ++ [.left runtime]
          excluding := s.excluding.set call (.owing runtime) } := by
  have hSet := perm_set hCall (.owing runtime)
  refine h.ofCall rfl rfl ?_ ?_ ?_
  . apply known_of_perm hPerm rfl
    intro other hOwing
    rw [hSet.mem_iff, List.mem_cons] at hOwing
    rcases hOwing with hEq | hOld
    . injection hEq with hEq
      rw [hEq]
      exact .inr (List.mem_singleton_self _)
    . left
      exact List.mem_of_mem_eraseIdx hOld
  . have hOld := ((perm_eraseIdx hCall).map Excluding.hostId).nodup_iff.mp h.calls
    rw [(hSet.map Excluding.hostId).nodup_iff]
    exact hOld
  . intro other hMem
    rw [hSet.mem_iff, List.mem_cons] at hMem
    rcases hMem with hEq | hOld
    . have hIn := h.blocked _ (List.mem_of_getElem? hCall)
      rw [hEq]
      exact hIn
    . exact h.blocked other (List.mem_of_mem_eraseIdx hOld)

theorem step (h : Disciplined s) (hok : s.keepsOrder label = true) (hStep : DiscoveryStep s label t)
    : Disciplined t := by
  cases hStep with
  | startRound _ =>
    refine h.ofRound rfl rfl h.numbered rfl ?_
    intro event hMem
    contradiction
  | skip hRound hPhase hRuntimes hSeen =>
    refine h.ofRound rfl rfl ?_ rfl ?_
    . intro runtime hKnown
      apply h.numbered
      unfold Known at hKnown ⊢
      rw [← hRuntimes]
      exact hKnown
    . exact Round.Arrivals.mono (h.going_of_phase hRound hPhase) rfl hSeen
  | tried hRound hPhase hUnseen hId => exact h.tried hRound hPhase hUnseen hId
  | late hRound hPhase =>
    refine h.ofRound rfl rfl h.numbered rfl ?_
    exact (h.going_of_phase hRound hPhase).left
  | connectFailed hRound hPhase =>
    refine h.ofRound rfl rfl h.numbered rfl ?_
    exact (h.going_of_phase hRound hPhase).left
  | pushed hRound hPhase _ => exact h.pushed hRound hPhase
  | scanned _ _ hPerm _ =>
    refine h.ofRound rfl rfl ?_ rfl trivial
    intro runtime hKnown
    apply h.numbered
    apply known_of_perm hPerm _ _ runtime hKnown
    . rfl
    . intro other
      exact .inl
  | disconnected _ _ => exact h.ofRound rfl rfl h.numbered rfl trivial
  | sentEvent _ hPhase _ _ =>
    refine h.ofRound rfl rfl h.numbered rfl ?_
    simp only [hPhase]
    trivial
  | endRound _ _ _ =>
    constructor
    case calls => exact h.calls
    case blocked => exact h.blocked
    case numbered => exact h.numbered
    case going =>
      intro round hRound
      contradiction
  | excludeAgain _ => exact h.ofCall rfl rfl (fun _ => id) h.calls h.blocked
  | excludeNew hNew => exact h.excludeNew hNew
  | removedNone _ _ => exact h.finished rfl rfl rfl rfl rfl
  | removedSome hCall hPerm => exact h.removedSome hCall hPerm
  | sentLeft _ _ => exact h.finished rfl rfl rfl rfl rfl
  | droppedLeft _ _ => exact h.finished rfl rfl rfl rfl rfl
  | removedExcluded => contradiction
  | received _ => exact h.ofCall rfl rfl (fun _ => id) h.calls h.blocked

theorem effect_of {l : Ledger WifiRuntime} (hEffect : Ledger.Effect runtimeHostId s.ledger l)
    (hPresent : runtimes t.connectedRuntimes = l.present) (hBatch : t.unsent.map change = l.batch)
    (hLeaving : t.leaving = l.leaving) (hChanges : t.changes.map change = l.changes)
    (hSent : t.sent.map change = l.sent)
    : Ledger.Effect runtimeHostId s.ledger t.ledger := by
  have hEq : t.ledger = l := by
    unfold ledger
    rw [hPresent, hBatch, hLeaving, hChanges, hSent]
  rw [hEq]
  exact hEffect

theorem mem_batch {change' : Change WifiRuntime} (h : change' ∈ s.ledger.batch)
    (hRound : s.round = some round) {phase : RoundPhase} (hPhase : round.phase = phase)
    (hMissing : phase.missing = [])
    : ∃ event ∈ round.events, change event = change' := by
  unfold ledger at h
  simp only at h
  rw [unsent_eq hRound hPhase, hMissing, List.map_nil, List.append_nil, List.mem_map] at h
  exact h

theorem effect_pushed (h : Disciplined s) {devices : List WifiDiscoveredDevice} (hRound : s.round = some round)
    (hPhase : round.phase = .connecting runtime devices)
    (hAbsent : runtimeHostId runtime ∉ hosts s.connectedRuntimes)
    : Ledger.Effect runtimeHostId s.ledger
        { s.ledger with
          present := s.ledger.present ++ [runtime]
          batch := s.ledger.batch ++ [.enter runtime]
          changes := s.ledger.changes ++ [.enter runtime] } := by
  rcases h.going_of_phase hRound hPhase with ⟨hArrivals, hConnecting⟩
  apply Ledger.Effect.enter
  . rw [hosts_eq] at hAbsent
    exact hAbsent
  . intro change' hMem
    rcases mem_batch hMem hRound hPhase rfl with ⟨event, hEvent, hChange⟩
    rcases hArrivals event hEvent with ⟨other, hArrived, _⟩
    rw [hArrived] at hEvent
    rw [← hChange, hArrived]
    exact hConnecting.alone other hEvent
  . intro hMem
    apply hConnecting.fresh
    right
    exact mem_leaving.mp hMem

theorem effect_scanned (h : Disciplined s) {kept : List ConnectedWifiRuntime} {missing : List WifiRuntime}
    (hRound : s.round = some round) (hPhase : round.phase = .visiting [])
    (hPerm : (missing ++ runtimes kept).Perm (runtimes s.connectedRuntimes))
    (hUnseen : ∀ runtime ∈ missing, runtimeHostId runtime ∉ round.seenHostIds)
    : Ledger.Effect runtimeHostId s.ledger
        { s.ledger with
          present := runtimes kept
          batch := s.ledger.batch ++ missing.map .leave
          changes := s.ledger.changes ++ missing.map .leave } := by
  have hGoing := h.going_of_phase hRound hPhase
  apply Ledger.Effect.miss hPerm
  . intro change' hMem
    rcases mem_batch hMem hRound hPhase rfl with ⟨event, hEvent, hChange⟩
    rcases hGoing event hEvent with ⟨other, hArrived, _⟩
    rw [← hChange, hArrived]
    rfl
  . intro change' hMem runtime hMissing hHost
    rcases mem_batch hMem hRound hPhase rfl with ⟨event, hEvent, hChange⟩
    rcases hGoing event hEvent with ⟨other, hArrived, hSeen⟩
    rw [← hChange, hArrived] at hHost
    change runtimeHostId other = runtimeHostId runtime at hHost
    rw [hHost] at hSeen
    exact hUnseen runtime hMissing hSeen

theorem effect_sentEvent {event : RuntimeEvent} {events : List RuntimeEvent}
    (hok : s.keepsOrder .sendEvent = true) (hUnsent : s.unsent = event :: events)
    : Ledger.Effect runtimeHostId s.ledger
        { s.ledger with
          batch := events.map change
          sent := s.ledger.sent ++ [change event] } := by
  apply Ledger.Effect.send
  . unfold ledger
    simp only
    rw [hUnsent, List.map_cons]
  . intro other hOther entered hEntered hHost
    unfold keepsOrder at hok
    rw [hUnsent] at hok
    cases event with
    | arrived runtime =>
      injection hEntered with hEntered
      rw [← hEntered] at hHost ⊢
      simp only [decide_eq_true_eq] at hok
      exact hok other hOther hHost
    | left runtime => contradiction

theorem effect_removedSome (h : Disciplined s) {call : Nat} {rest : List ConnectedWifiRuntime}
    (hCall : s.excluding[call]? = some (.inserted (runtimeHostId runtime)))
    (hPerm : ([runtime] ++ runtimes rest).Perm (runtimes s.connectedRuntimes))
    : Ledger.Effect runtimeHostId s.ledger
        { s.ledger with
          present := runtimes rest
          leaving := (s.excluding.set call (.owing runtime)).filterMap Excluding.owing?
          changes := s.ledger.changes ++ [.leave runtime] } := by
  apply Ledger.Effect.leave hPerm
  . have hBefore := (perm_eraseIdx hCall).filterMap Excluding.owing?
    have hAfter := (perm_set hCall (.owing runtime)).filterMap Excluding.owing?
    apply hAfter.trans
    apply List.Perm.cons
    exact hBefore.symm
  . intro other hOther hHost
    have hOwing := mem_leaving.mp hOther
    have hInserted := List.mem_of_getElem? hCall
    -- two calls of one host at once would be the same call
    have hSame := List.inj_on_of_nodup_map h.calls hOwing hInserted hHost
    contradiction

theorem effect_sentLeft {call : Nat} (hok : s.keepsOrder (.sendLeft call) = true)
    (hCall : s.excluding[call]? = some (.owing runtime))
    : Ledger.Effect runtimeHostId s.ledger
        { s.ledger with
          leaving := (s.excluding.eraseIdx call).filterMap Excluding.owing?
          sent := s.ledger.sent ++ [.leave runtime] } := by
  unfold keepsOrder at hok
  simp only [hCall, Bool.and_eq_true, decide_eq_true_eq] at hok
  apply Ledger.Effect.report
  . exact (perm_eraseIdx hCall).filterMap Excluding.owing?
  . intro hMem
    apply hok.right
    unfold ledger at hMem
    rw [List.mem_map] at hMem
    rcases hMem with ⟨event, hEvent, hChange⟩
    cases event with
    | arrived other =>
      injection hChange with hChange
      rw [← hChange]
      exact hEvent
    | left other => contradiction

theorem leaving_of_inserted {call : Nat} {hostId : Identifier}
    (hCall : s.excluding[call]? = some (.inserted hostId))
    : (s.excluding.eraseIdx call).filterMap Excluding.owing? = s.leaving := by
  unfold leaving
  generalize s.excluding = calls at hCall
  induction calls generalizing call with
  | nil => contradiction
  | cons first rest ih =>
    cases call with
    | zero =>
      injection hCall with hCall
      rw [hCall]
      rfl
    | succ call =>
      rw [List.eraseIdx_cons_succ, List.filterMap_cons, List.filterMap_cons, ih hCall]

theorem effect (h : Disciplined s) (hok : s.keepsOrder label = true) (hStep : DiscoveryStep s label t)
    : Ledger.Effect runtimeHostId s.ledger t.ledger := by
  cases hStep with
  | startRound hRound =>
    refine effect_of .same rfl ?_ rfl rfl rfl
    simp [ledger, unsent, hRound, Round.unsent, RoundPhase.missing]
  | skip hRound hPhase hRuntimes _ =>
    refine effect_of .same hRuntimes ?_ rfl rfl rfl
    unfold ledger
    rw [unsent_eq hRound hPhase]
    rfl
  | tried hRound hPhase _ _ =>
    refine effect_of .same rfl ?_ rfl rfl rfl
    unfold ledger
    rw [unsent_eq hRound hPhase]
    rfl
  | late hRound hPhase =>
    refine effect_of .same rfl ?_ rfl rfl rfl
    unfold ledger
    rw [unsent_eq hRound hPhase]
    rfl
  | connectFailed hRound hPhase =>
    refine effect_of .same rfl ?_ rfl rfl rfl
    unfold ledger
    rw [unsent_eq hRound hPhase]
    rfl
  | pushed hRound hPhase hAbsent =>
    refine effect_of (h.effect_pushed hRound hPhase hAbsent) ?_ ?_ rfl ?_ rfl
    . exact runtimes_push _ _
    . simp [ledger, unsent, hRound, Round.unsent, hPhase, RoundPhase.missing, change]
    . simp [ledger, change]
  | scanned hRound hPhase hPerm hUnseen =>
    refine effect_of (h.effect_scanned hRound hPhase hPerm hUnseen) rfl ?_ rfl ?_ rfl
    . simp [ledger, unsent, hRound, Round.unsent, hPhase, RoundPhase.missing, change,
        Function.comp_def]
    . simp [ledger, change, Function.comp_def]
  | disconnected hRound hPhase =>
    refine effect_of .same rfl ?_ rfl rfl rfl
    simp [ledger, unsent, hRound, Round.unsent, hPhase, RoundPhase.missing]
  | sentEvent hRound hPhase hEvents _ =>
    have hUnsent : s.unsent = _ := unsent_eq hRound hPhase
    rw [hEvents] at hUnsent
    refine effect_of (effect_sentEvent hok hUnsent) rfl ?_ rfl rfl ?_
    . simp [unsent, Round.unsent, RoundPhase.missing, hPhase]
    . simp [ledger]
  | endRound hRound hPhase hEvents =>
    refine effect_of .same rfl ?_ rfl rfl rfl
    simp [ledger, unsent, hRound, Round.unsent, hPhase, hEvents, RoundPhase.missing]
  | excludeAgain _ => exact effect_of .same rfl rfl rfl rfl rfl
  | excludeNew _ =>
    refine effect_of .same rfl rfl ?_ rfl rfl
    simp [ledger, leaving, Excluding.owing?]
  | removedNone hCall _ => exact effect_of .same rfl rfl (leaving_of_inserted hCall) rfl rfl
  | removedSome hCall hPerm =>
    refine effect_of (h.effect_removedSome hCall hPerm) rfl rfl rfl ?_ rfl
    simp [ledger, change]
  | sentLeft hCall _ =>
    refine effect_of (effect_sentLeft hok hCall) rfl rfl rfl rfl ?_
    simp [ledger, change]
  | droppedLeft hCall hFull =>
    unfold keepsOrder at hok
    -- a full channel is ruled out
    simp [hCall, Channel.isFull, hFull] at hok
  | removedExcluded => contradiction
  | received _ => exact effect_of .same rfl rfl rfl rfl rfl

theorem initial (excludedHostIds : List Identifier) (devices : List (WifiDiscoveredDevice × Bool))
    : Disciplined (withExcludedHostIds tokens excludedHostIds devices) := by
  rcases withExcludedHostIds_wellFormed tokens excludedHostIds devices with ⟨pass, hPass, hEq⟩
  rw [hEq]
  constructor
  case calls => exact List.nodup_nil
  case blocked =>
    intro call hMem
    contradiction
  case numbered =>
    intro runtime hKnown
    rcases hKnown with hListed | hOwing
    . exact hPass.numbered runtime hListed
    . contradiction
  case going =>
    intro round hEq
    contradiction

end Disciplined

theorem DiscoveryStep.delivered (h : s.sent = s.received ++ s.runtimeEvents.queue)
    (hStep : DiscoveryStep s label t)
    : t.sent = t.received ++ t.runtimeEvents.queue := by
  cases hStep with
  | sentEvent _ _ _ hQueue =>
    simp only
    rw [hQueue, h, List.append_assoc]
  | sentLeft _ hQueue =>
    simp only [returned]
    rw [hQueue, h, List.append_assoc]
  | received hQueue =>
    simp only
    rw [h, hQueue, List.append_assoc, List.singleton_append]
  | _ => exact h

def quiescent (s : DiscoveryState) : Bool :=
  s.round.isNone && s.excluding.isEmpty && s.runtimeEvents.queue.isEmpty

/--
The received events lead from the initial hosts to the hosts of the connected runtimes, and the events of
each host alternate.
-/
structure Described (initial : Set Identifier) (s : DiscoveryState) : Prop where
  hosts : replay initial (hostChanges s.received) = {hostId | hostId ∈ hosts s.connectedRuntimes}
  strict : Strict initial (hostChanges s.received)
  alternate : ∀ hostId,
    (ofKey hostId (hostChanges s.received)).IsChain fun before after => before.isEnter ≠ after.isEnter

theorem described_of_ordered {initial : Set Identifier}
    (h : Ledger.Ordered runtimeHostId initial s.ledger)
    (hDelivered : s.sent = s.received ++ s.runtimeEvents.queue) (hQuiescent : s.quiescent = true)
    : Described initial s := by
  unfold quiescent at hQuiescent
  simp only [Bool.and_eq_true, Option.isNone_iff_eq_none, List.isEmpty_iff] at hQuiescent
  rcases hQuiescent with ⟨⟨hRound, hExcluding⟩, hReceived⟩
  have hBatch : s.ledger.batch = [] := by
    simp [ledger, unsent, hRound]
  have hLeaving : s.ledger.leaving = [] := by
    simp [ledger, leaving, hExcluding]
  have hSent : s.ledger.sent.map (Change.map runtimeHostId) = hostChanges s.received := by
    rw [hReceived, List.append_nil] at hDelivered
    unfold ledger hostChanges
    rw [hDelivered]
  rcases h.sent hBatch hLeaving with ⟨hStrict, hPresent⟩
  rw [hSent] at hStrict hPresent
  constructor
  case hosts =>
    ext hostId
    rw [hPresent, Set.mem_ofPred_eq, hosts_eq]
    rfl
  case strict => exact hStrict
  case alternate =>
    intro hostId
    exact hStrict.isChain

theorem run_described (tokens : List Message.Token) (excludedHostIds : List Identifier)
    (devices : List (WifiDiscoveredDevice × Bool)) (labels : List DiscoveryLabel)
    (s : DiscoveryState)
    (hRun : Run (step (collectTokens tokens)) (fun s label => s.keepsOrder label = true)
      (withExcludedHostIds tokens excludedHostIds devices) labels s)
    (hQuiescent : s.quiescent = true)
    : Described
        {hostId | hostId
          ∈ hosts (withExcludedHostIds tokens excludedHostIds devices).connectedRuntimes}
        s := by
  rcases withExcludedHostIds_wellFormed tokens excludedHostIds devices with ⟨pass, hPass, hEq⟩
  have hInv : Disciplined s
      ∧ Ledger.Ordered runtimeHostId {hostId | hostId ∈ hosts pass.connectedRuntimes} s.ledger
      ∧ s.sent = s.received ++ s.runtimeEvents.queue := by
    apply hRun.invariant (motive := fun s => Disciplined s
      ∧ Ledger.Ordered runtimeHostId {hostId | hostId ∈ hosts pass.connectedRuntimes} s.ledger
      ∧ s.sent = s.received ++ s.runtimeEvents.queue)
    . refine ⟨Disciplined.initial excludedHostIds devices, ?_, ?_⟩
      . have hStart := hPass.distinct
        rw [hEq]
        rw [hosts_eq] at hStart ⊢
        exact Ledger.Ordered.start hStart
      . rw [hEq]
        rfl
    . intro s label t h hok hStep
      rcases h with ⟨hDisciplined, hOrdered, hDelivered⟩
      have hCases := step_cases hStep
      refine ⟨hDisciplined.step hok hCases, ?_, hCases.delivered hDelivered⟩
      exact hOrdered.effect (hDisciplined.effect hok hCases)
  rw [hEq]
  exact described_of_ordered hInv.right.left hInv.right.right hQuiescent

theorem run_described_excluded
    : ∃ s : DiscoveryState,
        (hosts s.connectedRuntimes = [2] ∧ s.received.length = 2)
          ∧
        Described {hostId | hostId ∈ ([2] : List Identifier)} s := by
  have hExec : ((execIf (step (collectTokens [tokenOf 1, tokenOf 2])) keepsOrder
      (withExcludedHostIds [tokenOf 1, tokenOf 2] [] [(eligibleDevice 2, true)])
      [.startRound [eligibleDevice 1], .visit, .connected, .exclude 1, .removeConnected 0, .scan,
        .sendEvent, .sendLeft 0, .endRound, .receive, .receive]).map
          fun s => (hosts s.connectedRuntimes, s.received.length, s.quiescent))
      = some ([2], 2, true) := by
    decide
  rcases Run.exists_of_execIf hExec with ⟨s, hRun, hState⟩
  simp only [Prod.mk.injEq] at hState
  rcases hState with ⟨hHosts, hReceived, hQuiescent⟩
  exact ⟨s, ⟨hHosts, hReceived⟩, run_described _ _ _ _ s hRun hQuiescent⟩

/-
A call sends the departure of a runtime whose arrival the round has yet to send.
-/
theorem not_run_described
    : ¬ ∀ (tokens : List Message.Token) (excludedHostIds : List Identifier)
        (devices : List (WifiDiscoveredDevice × Bool)) (labels : List DiscoveryLabel)
        (s : DiscoveryState),
        Run (step (collectTokens tokens)) (fun s label => s.inScope label = true)
          (withExcludedHostIds tokens excludedHostIds devices) labels s →
            s.quiescent = true →
              Described
                {hostId | hostId
                  ∈ hosts (withExcludedHostIds tokens excludedHostIds devices).connectedRuntimes}
                s := by
  intro h
  have hExec : ((execIf (step (collectTokens [tokenOf 1])) inScope
      (withExcludedHostIds [tokenOf 1] [] [])
      [.startRound [eligibleDevice 1], .visit, .connected, .exclude 1, .removeConnected 0,
        .sendLeft 0, .scan, .sendEvent, .endRound, .receive, .receive]).map
          fun s => (hosts s.connectedRuntimes, hostChanges s.received, s.quiescent))
      = some ([], [.leave 1, .enter 1], true) := by
    decide
  rcases Run.exists_of_execIf hExec with ⟨s, hRun, hState⟩
  simp only [Prod.mk.injEq] at hState
  rcases hState with ⟨hHosts, hReceived, hQuiescent⟩
  have hSame := (h _ _ _ _ s hRun hQuiescent).hosts
  rw [hHosts, hReceived] at hSame
  have hMem := Set.ext_iff.mp hSame 1
  simp [replay, Change.apply] at hMem

end DiscoveryState

end Wifi
end Enody
