import Enody.Script.Basic
import Mathlib.Data.List.Forall2

/-!
This module contains scripts whose calls may fail. Most scripts have one right result, which they return unless a
call fails: `Yields` says so of a script that ends at the first failure, `YieldsIfClean` of a script that goes
on after some of them.
-/

namespace Enody
namespace Fallible

open Script

variable {ι : Type} {ε R α β σ : Type}

abbrev FaultyLog (ι ε R : Type) := Log ι fun _ => Except ε R

abbrev FaultyServer (ι ε R σ : Type) := Server ι (fun _ => Except ε R) σ

abbrev Faulty (ι ε R α : Type) := Fallible ι (fun _ => Except ε R) ε α

def Clean (calls : FaultyLog ι ε R) : Prop := ∀ call ∈ calls, ∃ r, call.2 = .ok r

def FailedBy (error : ε) (calls : FaultyLog ι ε R) : Prop :=
  ∃ before request, calls = before ++ [⟨request, .error error⟩] ∧ Clean before

theorem Clean.nil : Clean ([] : FaultyLog ι ε R) := by
  intro call hCall
  contradiction

theorem Clean.of_all {calls : FaultyLog ι ε R} (h : calls.all (fun call => call.2.isOk) = true) : Clean calls := by
  intro call hCall
  have hOk := List.all_eq_true.mp h call hCall
  cases hResult : call.2 with
  | ok r => exact ⟨r, rfl⟩
  | error error =>
    rw [hResult] at hOk
    contradiction

theorem clean_append {before after : FaultyLog ι ε R} : Clean (before ++ after) ↔ Clean before ∧ Clean after :=
  List.forall_mem_append

theorem Clean.of_prefix {before calls : FaultyLog ι ε R} (h : Clean calls) (hPrefix : before <+: calls)
    : Clean before := fun call hCall => h call (hPrefix.subset hCall)

theorem FailedBy.not_clean {error : ε} {calls : FaultyLog ι ε R} (h : FailedBy error calls)
    : ¬ Clean calls := by
  rcases h with ⟨before, request, hCalls, _⟩
  intro hClean
  rw [hCalls, clean_append] at hClean
  rcases hClean.right ⟨request, .error error⟩ (by simp) with ⟨r, hOk⟩
  contradiction

theorem FailedBy.of_clean {error : ε} {before calls : FaultyLog ι ε R} (h : FailedBy error calls)
    (hBefore : Clean before)
    : FailedBy error (before ++ calls) := by
  rcases h with ⟨middle, request, hCalls, hMiddle⟩
  refine ⟨before ++ middle, request, ?_, clean_append.mpr ⟨hBefore, hMiddle⟩⟩
  rw [hCalls, List.append_assoc]

variable {server : FaultyServer ι ε R σ} {inv : σ → Prop} {attempt : Faulty ι ε R α} {a : α}
  {next : α → Faulty ι ε R β} {b : β}

/-
The script returns `a` unless a call fails, and then it fails with the error of this call. All states are among
those of `inv`.
-/
def Yields (server : FaultyServer ι ε R σ) (inv : σ → Prop) (attempt : Faulty ι ε R α) (a : α) : Prop :=
  ∀ s log, inv s →
    wp server.logged (fun t => inv t.1) attempt
      (fun b t => inv t.1 ∧ b = a ∧ ∃ calls, t.2 = log ++ calls ∧ Clean calls)
      (fun error t => inv t.1 ∧ ∃ calls, t.2 = log ++ calls ∧ FailedBy error calls) (s, log)

namespace Yields

theorem pure (a : α) : Yields server inv (pure a : Faulty ι ε R α) a := by
  intro s log hInv
  exact ⟨hInv, rfl, [], (List.append_nil log).symm, .nil⟩

theorem bind (h : Yields server inv attempt a) (hNext : Yields server inv (next a) b)
    : Yields server inv (attempt >>= next) b := by
  intro s log hInv
  rw [wp_bind]
  apply wp_mono (h s log hInv) _ fun _ _ hFailed => hFailed
  rintro c ⟨t, log'⟩ ⟨hInv', hEq, calls, hCalls, hClean⟩
  simp only at hCalls
  subst hEq hCalls
  apply wp_mono (hNext t (log ++ calls) hInv')
  . rintro d u ⟨hInv'', hEq, more, hMore, hClean'⟩
    refine ⟨hInv'', hEq, calls ++ more, ?_, clean_append.mpr ⟨hClean, hClean'⟩⟩
    rw [hMore, List.append_assoc]
  . rintro error u ⟨hInv'', more, hMore, hFailed⟩
    refine ⟨hInv'', calls ++ more, ?_, hFailed.of_clean hClean⟩
    rw [hMore, List.append_assoc]

theorem ask_bind {request : ι} {next : Except ε R → Faulty ι ε R α}
    (hInv : ∀ s, inv s → inv (server s request).2)
    (hOk : ∀ s r, inv s → (server s request).1 = .ok r → Yields server inv (next (.ok r)) a)
    (hError : ∀ error, next (.error error) = ofExcept (.error error))
    : Yields server inv (Fallible.ask request >>= next) a := by
  intro s log h
  rw [wp_bind, wp_ask]
  refine ⟨h, ?_⟩
  simp only [Server.logged]
  cases hCall : (server s request).1 with
  | ok r =>
    let answered : FaultyLog ι ε R := [⟨request, .ok r⟩]
    have hCalls : Clean answered := by
      intro call hMem
      rw [List.mem_singleton.mp hMem]
      exact ⟨r, rfl⟩
    apply wp_mono (hOk s r h hCall _ (log ++ answered) (hInv s h))
    . rintro b t ⟨hInv', hEq, calls, hLog, hClean⟩
      refine ⟨hInv', hEq, answered ++ calls, ?_, clean_append.mpr ⟨hCalls, hClean⟩⟩
      rw [hLog, List.append_assoc]
    . rintro error t ⟨hInv', calls, hLog, hFailed⟩
      refine ⟨hInv', answered ++ calls, ?_, hFailed.of_clean hCalls⟩
      rw [hLog, List.append_assoc]
  | error error =>
    rw [hError, wp_ofExcept]
    exact ⟨hInv s h, [⟨request, .error error⟩], rfl, [], request, rfl, .nil⟩

theorem ask {request : ι} {result : Except ε R → Except ε α}
    (hInv : ∀ s, inv s → inv (server s request).2)
    (hOk : ∀ s r, inv s → (server s request).1 = .ok r → result (.ok r) = .ok a)
    (hError : ∀ error, result (.error error) = .error error)
    : Yields server inv (Fallible.ask request >>= fun response => ofExcept (result response)) a := by
  apply ask_bind hInv
  . intro s r h hCall
    rw [hOk s r h hCall]
    exact .pure a
  . intro error
    rw [hError]

theorem mapM {γ : Type} {body : β → Faulty ι ε R γ} {items : List β} {values : List γ}
    (h : List.Forall₂ (fun item value => Yields server inv (body item) value) items values)
    : Yields server inv (items.mapM body) values := by
  induction h with
  | nil => exact .pure []
  | cons hItem _ ih =>
    rw [List.mapM_cons]
    apply Yields.bind hItem
    apply Yields.bind ih
    exact .pure _

theorem of_run (h : Yields server inv attempt a) {s : σ} (hInv : inv s)
    : (attempt.run.run server s).1 = .ok a ∧ Clean (attempt.run.run server.logged (s, [])).2.2
        ∨
      ∃ error, (attempt.run.run server s).1 = .error error
        ∧ FailedBy error (attempt.run.run server.logged (s, [])).2.2 := by
  rcases Fallible.wp_iff.mp (h s [] hInv) with ⟨_, hOk, hError⟩
  have hResult : (attempt.run.run server.logged (s, [])).1 = (attempt.run.run server s).1 := (run_logged []).left
  rw [← hResult]
  cases hRun : (attempt.run.run server.logged (s, [])).1 with
  | ok c =>
    rcases hOk c hRun with ⟨_, hEq, calls, hCalls, hClean⟩
    rw [hCalls]
    exact .inl ⟨by rw [hEq], hClean⟩
  | error error =>
    rcases hError error hRun with ⟨_, calls, hCalls, hFailed⟩
    rw [hCalls]
    exact .inr ⟨error, rfl, hFailed⟩

end Yields

/-
The script returns `a` unless a call fails.
-/
def YieldsIfClean (server : FaultyServer ι ε R σ) (attempt : Faulty ι ε R α) (a : α) : Prop :=
  ∀ s log,
    wp server.logged (fun _ => True) attempt (fun b t => log <+: t.2 ∧ (Clean t.2 → b = a))
      (fun _ t => log <+: t.2 ∧ ¬ Clean t.2) (s, log)

theorem wp_log (script : Script ι (fun _ => Except ε R) α) (s : σ × FaultyLog ι ε R)
    : script.wp server.logged (fun _ => True) (fun _ t => s.2 <+: t.2) s := by
  induction script generalizing s with
  | done a => exact List.prefix_refl _
  | call request following ih =>
    refine ⟨trivial, ?_⟩
    apply Script.wp_mono (ih _ _)
    intro a t hMore
    exact (List.prefix_append _ _).trans hMore

namespace YieldsIfClean

theorem pure (a : α) : YieldsIfClean server (pure a : Faulty ι ε R α) a := by
  intro s log
  exact ⟨List.prefix_refl _, fun _ => rfl⟩

theorem of_yields (h : Yields server (fun _ => True) attempt a) : YieldsIfClean server attempt a := by
  intro s log
  apply wp_mono (h s log trivial)
  . rintro b t ⟨_, hEq, calls, hCalls, _⟩
    exact ⟨hCalls ▸ List.prefix_append _ _, fun _ => hEq⟩
  . rintro error t ⟨_, calls, hCalls, hFailed⟩
    refine ⟨hCalls ▸ List.prefix_append _ _, fun hClean => hFailed.not_clean ?_⟩
    rw [hCalls, clean_append] at hClean
    exact hClean.right

theorem handled (h : YieldsIfClean server attempt a) : YieldsIfClean server attempt.handled (.ok a) := by
  intro s log
  rw [wp_handled]
  apply Script.wp_mono (h s log)
  rintro result t hResult
  cases result with
  | ok b =>
    rcases hResult with ⟨hLog, hEq⟩
    exact ⟨hLog, fun hClean => by rw [hEq hClean]⟩
  | error error =>
    rcases hResult with ⟨hLog, hUnclean⟩
    exact ⟨hLog, fun hClean => absurd hClean hUnclean⟩

theorem bind (h : YieldsIfClean server attempt a) (hNext : YieldsIfClean server (next a) b)
    : YieldsIfClean server (attempt >>= next) b := by
  intro s log
  rw [wp_bind]
  apply wp_mono (h s log) _ fun _ _ hFailed => hFailed
  rintro c ⟨t, log'⟩ ⟨hLog, hEq⟩
  by_cases hClean : Clean log'
  . have hSame := hEq hClean
    subst hSame
    apply wp_mono (hNext t log')
    . rintro d u ⟨hMore, hResult⟩
      exact ⟨hLog.trans hMore, hResult⟩
    . rintro error u ⟨hMore, hUnclean⟩
      exact ⟨hLog.trans hMore, hUnclean⟩
  . -- a call has failed, and nothing takes it out of the log
    apply Script.wp_mono (wp_log (next c).run (t, log'))
    intro result u hMore
    have hUnclean : ¬ Clean u.2 := fun h => hClean (h.of_prefix hMore)
    cases result with
    | ok d => exact ⟨hLog.trans hMore, fun h => absurd h hUnclean⟩
    | error error => exact ⟨hLog.trans hMore, hUnclean⟩

theorem foldlM_append {γ : Type} {body : List γ → β → Faulty ι ε R (List γ)} {f : β → List γ}
    (items : List β)
    (h : ∀ cs, ∀ item ∈ items, YieldsIfClean server (body cs item) (cs ++ f item)) (init : List γ)
    : YieldsIfClean server (items.foldlM body init) (init ++ items.flatMap f) := by
  induction items generalizing init with
  | nil =>
    rw [List.flatMap_nil, List.append_nil]
    exact .pure init
  | cons item items ih =>
    rw [List.foldlM_cons, List.flatMap_cons, ← List.append_assoc]
    apply YieldsIfClean.bind (h init item List.mem_cons_self)
    exact ih (fun cs item hItem => h cs item (List.mem_cons_of_mem _ hItem)) _

theorem of_run (h : YieldsIfClean server attempt a) {s : σ}
    (hClean : Clean (attempt.run.run server.logged (s, [])).2.2)
    : (attempt.run.run server s).1 = .ok a := by
  rcases Fallible.wp_iff.mp (h s []) with ⟨_, hOk, hError⟩
  have hResult : (attempt.run.run server.logged (s, [])).1 = (attempt.run.run server s).1 := (run_logged []).left
  rw [← hResult]
  cases hRun : (attempt.run.run server.logged (s, [])).1 with
  | ok b => rw [(hOk b hRun).2 hClean]
  | error error => exact absurd hClean (hError error hRun).2

end YieldsIfClean

/-
Whatever calls fail, what the script returns is good. It fails with the error of a call.
-/
def Returns (server : FaultyServer ι ε R σ) (inv : σ → Prop) (attempt : Faulty ι ε R α) (good : α → Prop)
    : Prop :=
  ∀ s log, inv s →
    wp server.logged (fun t => inv t.1) attempt (fun a t => inv t.1 ∧ good a)
      (fun error t => inv t.1 ∧ ∃ request, ⟨request, .error error⟩ ∈ t.2) (s, log)

namespace Returns

variable {good : α → Prop} {good' : β → Prop}

theorem pure (h : good a) : Returns server inv (pure a : Faulty ι ε R α) good := fun _ _ hInv => ⟨hInv, h⟩

theorem of_yields (h : Yields server inv attempt a) : Returns server inv attempt fun b => b = a := by
  intro s log hInv
  apply wp_mono (h s log hInv)
  . rintro b t ⟨hInv', hEq, _⟩
    exact ⟨hInv', hEq⟩
  . rintro error t ⟨hInv', calls, hCalls, before, request, hFailed, _⟩
    refine ⟨hInv', request, ?_⟩
    rw [hCalls, hFailed]
    simp

theorem bind (h : Returns server inv attempt good) (hNext : ∀ a, good a → Returns server inv (next a) good')
    : Returns server inv (attempt >>= next) good' := by
  intro s log hInv
  rw [wp_bind]
  apply wp_mono (h s log hInv) _ fun _ _ hFailed => hFailed
  rintro a ⟨t, log'⟩ ⟨hInv', hGood⟩
  exact hNext a hGood t log' hInv'

theorem handled (h : Returns server inv attempt good)
    : Returns server inv attempt.handled fun result => ∀ a, result = .ok a → good a := by
  intro s log hInv
  rw [wp_handled]
  apply Script.wp_mono (h s log hInv)
  rintro result t hResult
  cases result with
  | ok a =>
    refine ⟨hResult.1, fun b hEq => ?_⟩
    injection hEq with hEq
    rw [← hEq]
    exact hResult.2
  | error error =>
    refine ⟨hResult.1, fun b hEq => ?_⟩
    contradiction

theorem foldlM {γ : Type} {body : γ → β → Faulty ι ε R γ} {items : List β} {init : γ}
    (good : List β → γ → Prop) (hInit : good [] init)
    (hRound : ∀ before item c, item ∈ items → good before c →
      Returns server inv (body c item) (good (before ++ [item])))
    : Returns server inv (items.foldlM body init) (good items) := by
  intro s log hInv
  refine wp_foldlM (fun before c (t : σ × FaultyLog ι ε R) => inv t.1 ∧ good before c) ⟨hInv, hInit⟩ ?_
  rintro before item after c ⟨t, log'⟩ hItems ⟨hInv', hGood⟩
  apply hRound before item c _ hGood t log' hInv'
  rw [hItems]
  exact List.mem_append_right _ List.mem_cons_self

theorem foldlM_pruned {γ : Type} {body : List γ → β → Faulty ι ε R (List γ)} {related : γ → β → Prop}
    (items : List β)
    (h : ∀ cs, ∀ item ∈ items,
      Returns server inv (body cs item) fun ds => ds = cs ∨ ∃ c, related c item ∧ ds = cs ++ [c])
    : Returns server inv (items.foldlM body []) (List.SublistForall₂ related · items) := by
  refine foldlM (fun before (cs : List γ) => List.SublistForall₂ related cs before) .nil ?_
  intro before item cs hItem hPruned s log hInv
  rw [List.sublistForall₂_iff] at hPruned
  rcases hPruned with ⟨kept, hKept, hSublist⟩
  apply wp_mono (h cs item hItem s log hInv) _ fun _ _ hFailed => hFailed
  rintro ds t ⟨hInv', hDs⟩
  refine ⟨hInv', List.sublistForall₂_iff.mpr ?_⟩
  rcases hDs with hSame | ⟨c, hRelated, hMore⟩
  . rw [hSame]
    exact ⟨kept, hKept, hSublist.trans (List.sublist_append_left before [item])⟩
  . rw [hMore]
    exact ⟨kept ++ [item], List.rel_append hKept (.cons hRelated .nil), hSublist.append_right [item]⟩

theorem of_run (h : Returns server inv attempt good) {s : σ} (hInv : inv s)
    : (∀ a, (attempt.run.run server s).1 = .ok a → good a)
        ∧
      ∀ error, (attempt.run.run server s).1 = .error error →
        ∃ request, ⟨request, .error error⟩ ∈ (attempt.run.run server.logged (s, [])).2.2 := by
  rcases Fallible.wp_iff.mp (h s [] hInv) with ⟨_, hOk, hError⟩
  have hResult : (attempt.run.run server.logged (s, [])).1 = (attempt.run.run server s).1 := (run_logged []).left
  rw [hResult] at hOk hError
  exact ⟨fun a hRun => (hOk a hRun).2, fun error hRun => (hError error hRun).2⟩

end Returns

end Fallible
end Enody
