import Enody.Host.Impl
import Enody.Runtime.Lemmas.Session
import Mathlib.Data.List.Nodup

/-!
This module contains what hangs together in a host: fixtures, their sources and the emitters of these. The loops
of the remote handles find exactly the children that a host has, unless a call fails.
-/

namespace Enody
namespace Message

def Command.isQuery : Command → Bool
  | .host .info => true
  | .host .fixtureCount => true
  | .host (.fixtureInfo _) => true
  | .fixture .sourceCount => true
  | .fixture (.sourceInfo _) => true
  | .source .emitterCount => true
  | .source (.emitterInfo _) => true
  | .source .state => true
  | _ => false

end Message

namespace Remote

open Message Enody.Runtime Fallible

structure SourceTree where
  info : SourceInfo
  emitters : List EmitterInfo
  few : emitters.length < 2 ^ 32

structure FixtureTree where
  info : FixtureInfo
  sources : List SourceTree
  few : sources.length < 2 ^ 32

structure HostTree where
  info : HostInfo
  fixtures : List FixtureTree
  few : fixtures.length < 2 ^ 32
  fixturesDiffer : (fixtures.map fun fixture => fixture.info.identifier).Nodup
  sourcesDiffer : ((fixtures.flatMap FixtureTree.sources).map fun source => source.info.identifier).Nodup

namespace HostTree

def sources (tree : HostTree) : List SourceTree := tree.fixtures.flatMap FixtureTree.sources

def Answers (tree : HostTree) (ask : Ask) (event : Event .std) : Prop :=
  match ask.command with
  | .host .info => event = .host (.info tree.info)
  | .host .fixtureCount => event = .host (.fixtureCount (.ofNat tree.fixtures.length))
  | .host (.fixtureInfo i) =>
    ∃ fixture, tree.fixtures[i.toNat]? = some fixture ∧ event = .host (.fixtureInfo fixture.info)
  | .fixture .sourceCount =>
    ∃ fixture ∈ tree.fixtures,
      ask.resource = some fixture.info.identifier
        ∧ event = .fixture (.sourceCount (.ofNat fixture.sources.length))
  | .fixture (.sourceInfo i) =>
    ∃ fixture ∈ tree.fixtures,
      ask.resource = some fixture.info.identifier
        ∧ ∃ source, fixture.sources[i.toNat]? = some source ∧ event = .fixture (.sourceInfo source.info)
  | .source .emitterCount =>
    ∃ source ∈ tree.sources,
      ask.resource = some source.info.identifier
        ∧ event = .source (.emitterCount (.ofNat source.emitters.length))
  | .source (.emitterInfo i) =>
    ∃ source ∈ tree.sources,
      ask.resource = some source.info.identifier
        ∧ ∃ emitter, source.emitters[i.toNat]? = some emitter ∧ event = .source (.emitterInfo emitter)
  | _ => True

theorem fixture_unique (tree : HostTree) {fixture other : FixtureTree} (hFixture : fixture ∈ tree.fixtures)
    (hOther : other ∈ tree.fixtures) (h : fixture.info.identifier = other.info.identifier)
    : fixture = other :=
  List.inj_on_of_nodup_map tree.fixturesDiffer hFixture hOther h

theorem source_unique (tree : HostTree) {source other : SourceTree} (hSource : source ∈ tree.sources)
    (hOther : other ∈ tree.sources) (h : source.info.identifier = other.info.identifier)
    : source = other :=
  List.inj_on_of_nodup_map tree.sourcesDiffer hSource hOther h

theorem mem_sources (tree : HostTree) {fixture : FixtureTree} {source : SourceTree}
    (hFixture : fixture ∈ tree.fixtures) (hSource : source ∈ fixture.sources)
    : source ∈ tree.sources := List.mem_flatMap.mpr ⟨fixture, hFixture, hSource⟩

end HostTree

/--
Behind every runtime is a host that answers right, if it answers at all, and does not change by being asked. Calls
may fail at any time.
-/
structure Truthful {σ : Type} (devices : Devices σ) (inv : σ → Prop) (trees : Nat → HostTree) : Prop where
  keeps : ∀ s ask, inv s → ask.command.isQuery = true → inv (devices s ask).2
  answers : ∀ s ask reply, inv s → (devices s ask).1 = .ok reply →
    (trees ask.runtime).Answers ask reply.event

namespace HostTree

def fixture? (tree : HostTree) (resource : Option Identifier) : Option FixtureTree :=
  tree.fixtures.find? fun fixture => resource == some fixture.info.identifier

def source? (tree : HostTree) (resource : Option Identifier) : Option SourceTree :=
  tree.sources.find? fun source => resource == some source.info.identifier

theorem source?_of_mem (tree : HostTree) {source : SourceTree} (hSource : source ∈ tree.sources)
    : tree.source? (some source.info.identifier) = some source := by
  cases hFound : tree.source? (some source.info.identifier) with
  | none =>
    have hNone := List.find?_eq_none.mp hFound source hSource
    simp at hNone
  | some other =>
    have hOther := List.find?_some hFound
    rw [beq_iff_eq, Option.some.injEq] at hOther
    rw [tree.source_unique hSource (List.mem_of_find?_eq_some hFound) hOther]

def event? (tree : HostTree) (states : Identifier → SourceState) (ask : Ask) : Option (Event .std) :=
  match ask.command with
  | .host .info => some (.host (.info tree.info))
  | .host .fixtureCount => some (.host (.fixtureCount (.ofNat tree.fixtures.length)))
  | .host (.fixtureInfo i) =>
    tree.fixtures[i.toNat]?.map fun fixture => .host (.fixtureInfo fixture.info)
  | .fixture .sourceCount =>
    (tree.fixture? ask.resource).map fun fixture => .fixture (.sourceCount (.ofNat fixture.sources.length))
  | .fixture (.sourceInfo i) =>
    (tree.fixture? ask.resource).bind fun fixture =>
      fixture.sources[i.toNat]?.map fun source => .fixture (.sourceInfo source.info)
  | .fixture (.display config flux) => some (.fixture (.display config flux))
  | .source .emitterCount =>
    (tree.source? ask.resource).map fun source => .source (.emitterCount (.ofNat source.emitters.length))
  | .source (.emitterInfo i) =>
    (tree.source? ask.resource).bind fun source =>
      source.emitters[i.toNat]?.map fun emitter => .source (.emitterInfo emitter)
  | .source .state =>
    (tree.source? ask.resource).map fun source => .source (.state (states source.info.identifier))
  | .emitter (.fluxSet flux) => some (.emitter (.fluxSet flux))
  | _ => none

def serve {σ : Type} (trees : Nat → HostTree) (states : Nat → Identifier → SourceState) : Devices σ :=
  fun s ask =>
    match (trees ask.runtime).event? (states ask.runtime) ask with
    | some answer => (.ok ⟨0, none, ask.resource, answer⟩, s)
    | none => (.error .argument, s)

theorem answers_of_event? {tree : HostTree} {states : Identifier → SourceState} {ask : Ask}
    {event : Event .std} (h : tree.event? states ask = some event)
    : tree.Answers ask event := by
  unfold event? at h
  unfold Answers
  generalize ask.command = command at h ⊢
  split at h
  . exact (Option.some.inj h).symm
  . exact (Option.some.inj h).symm
  . rcases Option.map_eq_some_iff.mp h with ⟨fixture, hFixture, hEvent⟩
    exact ⟨fixture, hFixture, hEvent.symm⟩
  . rcases Option.map_eq_some_iff.mp h with ⟨fixture, hFixture, hEvent⟩
    exact ⟨fixture, List.mem_of_find?_eq_some hFixture, by simpa using List.find?_some hFixture, hEvent.symm⟩
  . rcases Option.bind_eq_some_iff.mp h with ⟨fixture, hFixture, h⟩
    rcases Option.map_eq_some_iff.mp h with ⟨source, hSource, hEvent⟩
    exact ⟨fixture, List.mem_of_find?_eq_some hFixture, by simpa using List.find?_some hFixture, source,
      hSource, hEvent.symm⟩
  . trivial
  . rcases Option.map_eq_some_iff.mp h with ⟨source, hSource, hEvent⟩
    exact ⟨source, List.mem_of_find?_eq_some hSource, by simpa using List.find?_some hSource, hEvent.symm⟩
  . rcases Option.bind_eq_some_iff.mp h with ⟨source, hSource, h⟩
    rcases Option.map_eq_some_iff.mp h with ⟨emitter, hEmitter, hEvent⟩
    exact ⟨source, List.mem_of_find?_eq_some hSource, by simpa using List.find?_some hSource, emitter,
      hEmitter, hEvent.symm⟩
  . trivial
  . trivial
  . contradiction

theorem serve_truthful {σ : Type} (trees : Nat → HostTree) (states : Nat → Identifier → SourceState)
    : Truthful (serve trees states (σ := σ)) (fun _ => True) trees where
  keeps _ _ _ _ := trivial
  answers s ask reply _ hReply := by
    unfold serve at hReply
    cases hEvent : (trees ask.runtime).event? (states ask.runtime) ask with
    | none =>
      rw [hEvent] at hReply
      contradiction
    | some answer =>
      rw [hEvent] at hReply
      cases hReply
      exact answers_of_event? hEvent

def twoFixtures : HostTree where
  info := ⟨⟨1, 2, 3⟩, 10⟩
  fixtures := [
    ⟨⟨20⟩, [⟨⟨30⟩, [⟨40⟩, ⟨41⟩], by decide⟩], by decide⟩,
    ⟨⟨21⟩, [⟨⟨31⟩, [⟨42⟩], by decide⟩], by decide⟩
  ]
  few := by decide
  fixturesDiffer := by decide
  sourcesDiffer := by decide

end HostTree

def unanswered {σ : Type} (silent : Ask → Bool) (devices : Devices σ) : Devices σ := fun s ask =>
  if silent ask then
    (.error .timeout, s)
  else
    devices s ask

theorem answered_of_unanswered {σ : Type} {silent : Ask → Bool} {devices : Devices σ} {s : σ} {ask : Ask}
    {reply : EventMessage .std} (h : (unanswered silent devices s ask).1 = .ok reply)
    : unanswered silent devices s ask = devices s ask := by
  unfold unanswered at h ⊢
  cases hSilent : silent ask with
  | true =>
    rw [hSilent] at h
    contradiction
  | false => rfl

namespace Truthful

variable {σ : Type} {devices : Devices σ} {inv : σ → Prop} {trees : Nat → HostTree} {runtime : Nat}

theorem yields_query {α : Type} {exchange : Exchange α} {a : α} (h : Truthful devices inv trees)
    (hQuery : exchange.command.isQuery = true) (hUnchecked : exchange.checksResource = false)
    (hAnswer : ∀ event, (trees runtime).Answers (exchange.ask runtime) event → exchange.answer event = some a)
    : Yields devices inv (exchange.session runtime) a := by
  apply yields_session
  . intro s hInv
    exact h.keeps s _ hInv hQuery
  . intro s reply hInv hReply
    apply Exchange.result_of_answer (by simp [hUnchecked])
    exact hAnswer _ (h.answers s _ reply hInv hReply)

theorem yields_children {Info : Type} {count : Exchange UInt32} {info : UInt32 → Exchange Info}
    {children : List Info} (h : Truthful devices inv trees) (hFew : children.length < 2 ^ 32)
    (hCountQuery : count.command.isQuery = true ∧ count.checksResource = false)
    (hInfoQuery : ∀ i, (info i).command.isQuery = true ∧ (info i).checksResource = false)
    (hCount : ∀ event, (trees runtime).Answers (count.ask runtime) event →
      count.answer event = some (.ofNat children.length))
    (hInfo : ∀ (i : UInt32) (child : Info) event, children[i.toNat]? = some child →
      (trees runtime).Answers ((info i).ask runtime) event → (info i).answer event = some child)
    : Yields devices inv (discoverAll count info runtime) children := by
  apply yields_discoverAll hFew
  . exact h.yields_query hCountQuery.1 hCountQuery.2 hCount
  . intro i child hChild
    apply h.yields_query (hInfoQuery _).1 (hInfoQuery _).2
    intro event hEvent
    apply hInfo _ child event _ hEvent
    have hLt : i < children.length := (List.getElem?_eq_some_iff.mp hChild).1
    rw [UInt32.toNat_ofNat', Nat.mod_eq_of_lt (Nat.lt_trans hLt hFew)]
    exact hChild

theorem unanswered (h : Truthful devices inv trees) (silent : Ask → Bool)
    : Truthful (unanswered silent devices) inv trees where
  keeps s ask hInv hQuery := by
    unfold Remote.unanswered
    split
    . exact hInv
    . exact h.keeps s ask hInv hQuery
  answers s ask reply hInv hReply := by
    rw [answered_of_unanswered hReply] at hReply
    exact h.answers s ask reply hInv hReply

theorem yields_fromRuntime (h : Truthful devices inv trees)
    : Yields devices inv (RemoteHost.fromRuntime runtime) ⟨(trees runtime).info, runtime⟩ := by
  unfold RemoteHost.fromRuntime
  refine Yields.bind (a := (trees runtime).info) ?_ (.pure _)
  unfold RemoteRuntime.fetchHostInfo
  rw [execute_answered]
  apply Yields.ask
  . intro s hInv
    exact h.keeps s _ hInv rfl
  . intro s reply hInv hReply
    have hEvent : reply.event = .host (.info (trees runtime).info) := h.answers s _ reply hInv hReply
    simp only [bind, Except.bind, hEvent]
  . intro error
    rfl

theorem yields_fixtures (h : Truthful devices inv trees)
    : Yields devices inv (RemoteHost.fixtures ⟨(trees runtime).info, runtime⟩)
        ((trees runtime).fixtures.map fun fixture => ⟨fixture.info, runtime⟩) := by
  unfold RemoteHost.fixtures
  refine Yields.bind (a := (trees runtime).fixtures.map FixtureTree.info) ?_ ?_
  . apply h.yields_children _ ⟨rfl, rfl⟩ fun _ => ⟨rfl, rfl⟩
    . intro event hEvent
      cases hEvent
      rw [List.length_map]
      rfl
    . intro i child event hChild hEvent
      rcases hEvent with ⟨fixture, hFixture, hEvent⟩
      rw [List.getElem?_map, hFixture] at hChild
      cases hEvent
      exact hChild
    . rw [List.length_map]
      exact (trees runtime).few
  . rw [List.map_map]
    exact .pure _

theorem yields_sources (h : Truthful devices inv trees) {fixture : FixtureTree}
    (hFixture : fixture ∈ (trees runtime).fixtures)
    : Yields devices inv (RemoteFixture.sources ⟨fixture.info, runtime⟩)
        (fixture.sources.map fun source => ⟨source.info, runtime⟩) := by
  unfold RemoteFixture.sources
  refine Yields.bind (a := fixture.sources.map SourceTree.info) ?_ ?_
  . apply h.yields_children _ ⟨rfl, rfl⟩ fun _ => ⟨rfl, rfl⟩
    . rintro event ⟨other, hOther, hResource, hEvent⟩
      cases (trees runtime).fixture_unique hFixture hOther (Option.some.inj hResource)
      cases hEvent
      rw [List.length_map]
      rfl
    . rintro i child event hChild ⟨other, hOther, hResource, source, hSource, hEvent⟩
      cases (trees runtime).fixture_unique hFixture hOther (Option.some.inj hResource)
      rw [List.getElem?_map, hSource] at hChild
      cases hEvent
      exact hChild
    . rw [List.length_map]
      exact fixture.few
  . rw [List.map_map]
    exact .pure _

theorem yields_emitters (h : Truthful devices inv trees) {source : SourceTree}
    (hSource : source ∈ (trees runtime).sources)
    : Yields devices inv (RemoteSource.emitters ⟨source.info, runtime⟩)
        (source.emitters.map fun emitter => ⟨emitter, runtime⟩) := by
  unfold RemoteSource.emitters
  refine Yields.bind (a := source.emitters) ?_ (.pure _)
  apply h.yields_children source.few ⟨rfl, rfl⟩ fun _ => ⟨rfl, rfl⟩
  . rintro event ⟨other, hOther, hResource, hEvent⟩
    cases (trees runtime).source_unique hSource hOther (Option.some.inj hResource)
    cases hEvent
    rfl
  . rintro i child event hChild ⟨other, hOther, hResource, emitter, hEmitter, hEvent⟩
    cases (trees runtime).source_unique hSource hOther (Option.some.inj hResource)
    rw [hEmitter] at hChild
    cases hEvent
    exact hChild

end Truthful

end Remote
end Enody
