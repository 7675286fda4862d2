import Mathlib.Control.Lawful

/-!
This module contains scripts: programs that make one call after the other and go on with what a call yields.
A server answers the calls and has a state of its own, about which nothing is assumed. The weakest precondition
of a script covers the state in front of every call, since a script can be killed there, and the result with
the state at the end.
-/

namespace Enody

/--
`ρ` is the type of what a call yields.
-/
inductive Script (ι : Type) (ρ : ι → Type) (α : Type) where
  | done (a : α)
  | call (request : ι) (next : ρ request → Script ι ρ α)

namespace Script

variable {ι : Type} {ρ : ι → Type} {α β σ : Type}

def bind : Script ι ρ α → (α → Script ι ρ β) → Script ι ρ β
  | done a, next => next a
  | call request following, next => .call request fun response => (following response).bind next

instance : Monad (Script ι ρ) where
  pure := done
  bind := bind

theorem bind_done (script : Script ι ρ α) : script.bind done = script := by
  induction script with
  | done a => rfl
  | call request following ih =>
    simp only [bind]
    congr 1
    funext response
    exact ih response

theorem bind_bind {γ : Type} (script : Script ι ρ α) (next : α → Script ι ρ β) (last : β → Script ι ρ γ)
    : (script.bind next).bind last = script.bind fun a => (next a).bind last := by
  induction script with
  | done a => rfl
  | call request following ih =>
    simp only [bind]
    congr 1
    funext response
    exact ih response

instance : LawfulMonad (Script ι ρ) :=
  LawfulMonad.mk' _ bind_done (fun _ _ => rfl) bind_bind

def ask (request : ι) : Script ι ρ (ρ request) := call request done

abbrev Server (ι : Type) (ρ : ι → Type) (σ : Type) := σ → (request : ι) → ρ request × σ

def run (server : Server ι ρ σ) : Script ι ρ α → σ → α × σ
  | done a, s => (a, s)
  | call request next, s =>
    let (response, s) := server s request
    (next response).run server s

def waits (server : Server ι ρ σ) : Script ι ρ α → σ → List σ
  | done _, _ => []
  | call request next, s =>
    let (response, t) := server s request
    s :: (next response).waits server t

variable {server : Server ι ρ σ} {script : Script ι ρ α} {next : α → Script ι ρ β} {s : σ}

theorem run_bind
    : (script >>= next).run server s
        =
      (next (script.run server s).1).run server (script.run server s).2 := by
  induction script generalizing s with
  | done a => rfl
  | call request following ih => exact ih _

/-
The condition on the state in front of every call, and the one on the result.
-/
def wp (server : Server ι ρ σ) (always : σ → Prop) : Script ι ρ α → (α → σ → Prop) → σ → Prop
  | done a, post, s => post a s
  | call request next, post, s =>
    always s ∧ (next (server s request).1).wp server always post (server s request).2

theorem wp_iff {always : σ → Prop} {post : α → σ → Prop}
    : script.wp server always post s
        ↔
      (∀ t ∈ script.waits server s, always t)
        ∧ post (script.run server s).1 (script.run server s).2 := by
  induction script generalizing s with
  | done a => simp [wp, waits, run]
  | call request following ih => simp only [wp, waits, run, List.forall_mem_cons, ih, and_assoc]

variable {always : σ → Prop} {post post' : α → σ → Prop}

theorem wp_mono (h : script.wp server always post s) (hPost : ∀ a t, post a t → post' a t)
    : script.wp server always post' s := by
  rw [wp_iff] at h ⊢
  exact ⟨h.left, hPost _ _ h.right⟩

theorem wp_bind {post : β → σ → Prop}
    : (script >>= next).wp server always post s
        ↔
      script.wp server always (fun a t => (next a).wp server always post t) s := by
  induction script generalizing s with
  | done a => rfl
  | call request following ih => exact and_congr_right fun _ => ih _

section Asks

def Asks (p : ι → Prop) : Script ι ρ α → Prop
  | done _ => True
  | call request next => p request ∧ ∀ response, (next response).Asks p

variable {p : ι → Prop}

theorem Asks.bind (h : script.Asks p) (hNext : ∀ a, (next a).Asks p) : (script >>= next).Asks p := by
  induction script with
  | done a => exact hNext a
  | call request following ih => exact ⟨h.left, fun response => ih response (h.right response)⟩

/--
What all calls of this kind preserve holds throughout.
-/
theorem Asks.wp {motive : σ → Prop} (h : script.Asks p)
    (hStep : ∀ s request, p request → motive s → motive (server s request).2) (hInit : motive s)
    : script.wp server motive (fun _ t => motive t) s := by
  induction script generalizing s with
  | done a => exact hInit
  | call request following ih =>
    exact ⟨hInit, ih _ (h.right _) (hStep s request h.left hInit)⟩

end Asks

section Logged

abbrev Log (ι : Type) (ρ : ι → Type) := List ((request : ι) × ρ request)

def Server.logged (server : Server ι ρ σ) : Server ι ρ (σ × Log ι ρ) := fun s request =>
  let (response, t) := server s.1 request
  (response, t, s.2 ++ [⟨request, response⟩])

theorem run_logged (log : Log ι ρ)
    : (script.run server.logged (s, log)).1 = (script.run server s).1
        ∧
      (script.run server.logged (s, log)).2.1 = (script.run server s).2 := by
  induction script generalizing s log with
  | done a => exact ⟨rfl, rfl⟩
  | call request following ih => exact ih _ _

end Logged

end Script

abbrev Fallible (ι : Type) (ρ : ι → Type) (ε α : Type) := ExceptT ε (Script ι ρ) α

namespace Fallible

open Script

variable {ι : Type} {ρ : ι → Type} {ε α β σ : Type}

def handled (attempt : Fallible ι ρ ε α) : Fallible ι ρ ε (Except ε α) :=
  ExceptT.mk (attempt.run >>= fun result => done (.ok result))

def ask (request : ι) : Fallible ι ρ ε (ρ request) :=
  ExceptT.mk (Script.ask request >>= fun response => done (.ok response))

def ofExcept (result : Except ε α) : Fallible ι ρ ε α := ExceptT.mk (pure result)

def attempt {Y : ι → Type} (request : ι) : Fallible ι (fun i => Except ε (Y i)) ε (Y request) := do
  let response ← ask request
  ofExcept response

theorem run_bind {server : Server ι ρ σ} {attempt : Fallible ι ρ ε α} {next : α → Fallible ι ρ ε β}
    {s : σ}
    : (attempt >>= next).run.run server s
        =
      match attempt.run.run server s with
      | (.ok a, t) => (next a).run.run server t
      | (.error error, t) => (.error error, t) := by
  rw [ExceptT.run_bind, Script.run_bind]
  rcases attempt.run.run server s with ⟨_ | _, _⟩ <;> rfl

theorem run_ofExcept {server : Server ι ρ σ} (result : Except ε α) (s : σ)
    : (ofExcept result : Fallible ι ρ ε α).run.run server s = (result, s) := rfl

theorem run_attempt {Y : ι → Type} {server : Server ι (fun i => Except ε (Y i)) σ} (request : ι) (s : σ)
    : (attempt request : Fallible ι (fun i => Except ε (Y i)) ε (Y request)).run.run server s
        =
      server s request := rfl

def wp (server : Server ι ρ σ) (always : σ → Prop) (attempt : Fallible ι ρ ε α) (post : α → σ → Prop)
    (failed : ε → σ → Prop) (s : σ)
    : Prop :=
  Script.wp server always attempt.run
    (fun result t =>
      match result with
      | .ok a => post a t
      | .error error => failed error t)
    s

variable {server : Server ι ρ σ} {always : σ → Prop} {attempt : Fallible ι ρ ε α} {s : σ}
  {next : α → Fallible ι ρ ε β} {post post' : α → σ → Prop} {failed failed' : ε → σ → Prop}

theorem wp_iff
    : wp server always attempt post failed s
        ↔
      (∀ t ∈ attempt.run.waits server s, always t)
        ∧
      (∀ a, (attempt.run.run server s).1 = .ok a → post a (attempt.run.run server s).2)
        ∧
      ∀ error, (attempt.run.run server s).1 = .error error → failed error (attempt.run.run server s).2 := by
  unfold wp
  rw [Script.wp_iff]
  apply and_congr_right
  intro _
  cases (attempt.run.run server s).1 <;> simp

theorem wp_mono (h : wp server always attempt post failed s) (hPost : ∀ a t, post a t → post' a t)
    (hFailed : ∀ error t, failed error t → failed' error t)
    : wp server always attempt post' failed' s := by
  apply Script.wp_mono h
  intro result t hResult
  cases result with
  | ok a => exact hPost a t hResult
  | error error => exact hFailed error t hResult

theorem wp_pure {a : α} : wp server always (pure a) post failed s ↔ post a s := Iff.rfl

theorem wp_ofExcept {result : Except ε α}
    : wp server always (ofExcept result) post failed s
        ↔
      match result with
      | .ok a => post a s
      | .error error => failed error s := Iff.rfl

theorem wp_bind {post : β → σ → Prop}
    : wp server always (attempt >>= next) post failed s
        ↔
      wp server always attempt (fun a t => wp server always (next a) post failed t) failed s := by
  unfold wp
  rw [ExceptT.run_bind, Script.wp_bind]
  constructor
  . intro h
    apply Script.wp_mono h
    intro result t hResult
    cases result <;> exact hResult
  . intro h
    apply Script.wp_mono h
    intro result t hResult
    cases result <;> exact hResult

theorem wp_map {f : α → β} {post : β → σ → Prop}
    : wp server always (f <$> attempt) post failed s
        ↔
      wp server always attempt (fun a t => post (f a) t) failed s := by
  rw [← bind_pure_comp, wp_bind]
  rfl

theorem wp_handled {post : Except ε α → σ → Prop}
    : wp server always attempt.handled post failed s ↔ Script.wp server always attempt.run post s :=
  Script.wp_bind

theorem wp_ask {request : ι} {post : ρ request → σ → Prop}
    : wp server always (Fallible.ask request) post failed s
        ↔
      always s ∧ post (server s request).1 (server s request).2 := Iff.rfl

section Asks

variable {p : ι → Prop}

def Asks (p : ι → Prop) (attempt : Fallible ι ρ ε α) : Prop := Script.Asks p attempt.run

theorem Asks.pure (a : α) : Asks p (pure a : Fallible ι ρ ε α) := trivial

theorem Asks.ofExcept (result : Except ε α) : Asks p (ofExcept result : Fallible ι ρ ε α) := trivial

theorem Asks.ask {request : ι} (h : p request) : Asks p (Fallible.ask request : Fallible ι ρ ε (ρ request)) :=
  ⟨h, fun _ => trivial⟩

theorem Asks.bind (h : attempt.Asks p) (hNext : ∀ a, (next a).Asks p) : Asks p (attempt >>= next) := by
  unfold Asks
  rw [ExceptT.run_bind]
  apply Script.Asks.bind h
  intro result
  cases result with
  | ok a => exact hNext a
  | error error => trivial

theorem Asks.wp {motive : σ → Prop} (h : attempt.Asks p)
    (hStep : ∀ s request, p request → motive s → motive (server s request).2) (hInit : motive s)
    : Fallible.wp server motive attempt (fun _ t => motive t) (fun _ t => motive t) s := by
  apply Script.wp_mono (Script.Asks.wp h hStep hInit)
  intro result t hMotive
  cases result <;> exact hMotive

theorem Asks.handled (h : attempt.Asks p) : attempt.handled.Asks p := Script.Asks.bind h fun _ => trivial

end Asks

section Loops

variable {γ : Type}

theorem Asks.foldlM {p : ι → Prop} {body : γ → β → Fallible ι ρ ε γ} (items : List β)
    (h : ∀ c, ∀ item ∈ items, Asks p (body c item)) (init : γ)
    : Asks p (items.foldlM body init) := by
  induction items generalizing init with
  | nil => exact .pure init
  | cons item items ih =>
    rw [List.foldlM_cons]
    apply Asks.bind (h init item List.mem_cons_self)
    intro c
    exact ih (fun c item hItem => h c item (List.mem_cons_of_mem _ hItem)) c

theorem Asks.mapM {p : ι → Prop} {body : β → Fallible ι ρ ε γ} (items : List β)
    (h : ∀ item ∈ items, Asks p (body item))
    : Asks p (items.mapM body) := by
  rw [List.mapM_eq_reverse_foldlM_cons, ← bind_pure_comp]
  refine Asks.bind (Asks.foldlM items (fun c item hItem => ?_) []) fun _ => .pure _
  rw [← bind_pure_comp]
  exact Asks.bind (h item hItem) fun _ => .pure _

/--
A loop with an accumulator. What holds in front of a round may speak about the items of the rounds before.
-/
theorem wp_foldlM {body : γ → β → Fallible ι ρ ε γ} {items : List β} {init : γ}
    (motive : List β → γ → σ → Prop) (hInit : motive [] init s)
    (hRound : ∀ before item after c t, items = before ++ item :: after → motive before c t →
      wp server always (body c item) (fun c t => motive (before ++ [item]) c t) failed t)
    : wp server always (items.foldlM body init) (motive items) failed s := by
  suffices hRest : ∀ rest before c t, items = before ++ rest → motive before c t →
      wp server always (rest.foldlM body c) (motive items) failed t from hRest items [] init s rfl hInit
  intro rest
  induction rest with
  | nil =>
    intro before c t hSplit hMotive
    rw [List.append_nil] at hSplit
    rw [List.foldlM_nil, wp_pure, hSplit]
    exact hMotive
  | cons item rest ih =>
    intro before c t hSplit hMotive
    rw [List.foldlM_cons, wp_bind]
    apply wp_mono (hRound before item rest c t hSplit hMotive) _ fun _ _ h => h
    intro c t hNext
    apply ih (before ++ [item]) c t _ hNext
    rw [hSplit, List.append_assoc, List.singleton_append]

/--
A loop that collects one result for each item.
-/
theorem wp_mapM {body : β → Fallible ι ρ ε γ} {items : List β}
    (motive : List β → List γ → σ → Prop) (hInit : motive [] [] s)
    (hRound : ∀ before item after cs t, items = before ++ item :: after → motive before cs t →
      wp server always (body item) (fun c t => motive (before ++ [item]) (cs ++ [c]) t) failed t)
    : wp server always (items.mapM body) (motive items) failed s := by
  rw [List.mapM_eq_reverse_foldlM_cons, wp_map]
  refine wp_foldlM (fun before (cs : List γ) t => motive before cs.reverse t) (by exact hInit) ?_
  intro before item after cs t hSplit hMotive
  rw [wp_map]
  apply wp_mono (hRound before item after cs.reverse t hSplit hMotive) _ fun _ _ h => h
  intro c t hNext
  rw [List.reverse_cons]
  exact hNext

end Loops

end Fallible
end Enody
