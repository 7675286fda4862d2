import Enody.Runtime.Impl.Session
import Enody.Runtime.Lemmas.Exchange
import Enody.Script.Faulty

/-!
This module contains what sessions of one operation do: with the calls that they make, with a reply, and with a
loop over the children of a resource.
-/

namespace Enody
namespace Runtime

open Message Fallible

variable {σ : Type} {devices : Devices σ} {inv : σ → Prop} {p : Ask → Prop} {runtime : Nat} {s : σ}

theorem execute_answered {α : Type} (ask : Ask) (answer : Event .std → Option α)
    : (Session.execute ask >>= answered answer)
        =
      (Fallible.ask ask >>= fun (response : CommandResult) =>
        Fallible.ofExcept (response >>= fun (message : EventMessage .std) =>
          match answer message.event with
          | some a => .ok a
          | none => .error .unexpectedResponse)) := by
  unfold Session.execute
  rw [bind_assoc]
  congr 1
  funext response
  cases response with
  | error error => rfl
  | ok message =>
    show answered answer message = Fallible.ofExcept
      (match answer message.event with
      | some a => .ok a
      | none => .error .unexpectedResponse)
    unfold answered
    cases answer message.event <;> rfl

theorem yields_session {α : Type} {exchange : Exchange α} {a : α}
    (hKeeps : ∀ s, inv s → inv (devices s (exchange.ask runtime)).2)
    (hOk : ∀ s reply, inv s → (devices s (exchange.ask runtime)).1 = .ok reply →
      exchange.result (.ok reply) = .ok a)
    : Yields devices inv (exchange.session runtime) a :=
  Yields.ask hKeeps hOk fun _ => rfl

theorem yields_discoverAll {Info : Type} {count : Exchange UInt32} {info : UInt32 → Exchange Info}
    {children : List Info} (hFew : children.length < 2 ^ 32)
    (hCount : Yields devices inv (count.session runtime) (.ofNat children.length))
    (hInfo : ∀ (i : Nat) (child : Info), children[i]? = some child →
      Yields devices inv ((info (.ofNat i)).session runtime) child)
    : Yields devices inv (discoverAll count info runtime) children := by
  unfold discoverAll
  apply Yields.bind hCount
  have hNat : (UInt32.ofNat children.length).toNat = children.length := by
    rw [UInt32.toNat_ofNat']
    exact Nat.mod_eq_of_lt hFew
  rw [hNat]
  apply Yields.mapM
  rw [List.forall₂_iff_get]
  refine ⟨List.length_range, fun i hRange hChild => ?_⟩
  rw [List.get_eq_getElem, List.getElem_range]
  exact hInfo i _ (List.getElem?_eq_getElem hChild)

end Runtime
end Enody
