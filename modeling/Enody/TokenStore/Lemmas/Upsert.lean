import Enody.TokenStore.Impl
import Enody.Wifi.Impl.Device

/-!
This module contains which token of a store a `WifiEnvironment` uses. The store replaces the first token of
a host, the environment uses the last one, so they agree about a host that has at most one.
-/

namespace Enody
namespace TokenStore

open Wifi (collectTokens)

variable {token : Message.Token} {hostId : Identifier}

def tokensOf (tokens : List Message.Token) (hostId : Identifier) : List Message.Token :=
  tokens.filter fun token => token.hostId == hostId

theorem collectTokens_eq (tokens : List Message.Token) (hostId : Identifier)
    : collectTokens tokens hostId = (tokensOf tokens hostId).getLast? := by
  unfold collectTokens tokensOf
  rw [← List.head?_filter, List.filter_reverse, List.head?_reverse]

theorem tokensOf_upsert_of_ne (tokens : List Message.Token) (hOther : hostId ≠ token.hostId)
    : tokensOf (upsert.go token tokens) hostId = tokensOf tokens hostId := by
  have hToken : (token.hostId == hostId) = false := by
    rw [beq_eq_false_iff_ne]
    exact hOther.symm
  induction tokens with
  | nil => simp [upsert.go, tokensOf, hToken]
  | cons existing tokens ih =>
    unfold upsert.go
    split
    . next hSame =>
      simp only [tokensOf, List.filter_cons, hSame, hToken, Bool.false_eq_true, ↓reduceIte]
    . unfold tokensOf at ih ⊢
      rw [List.filter_cons, List.filter_cons, ih]

theorem tokensOf_upsert_self (tokens : List Message.Token) (token : Message.Token)
    : tokensOf (upsert.go token tokens) token.hostId
        =
      token :: (tokensOf tokens token.hostId).tail := by
  induction tokens with
  | nil => simp [upsert.go, tokensOf]
  | cons existing tokens ih =>
    unfold upsert.go
    split
    . next hSame => simp [tokensOf, hSame]
    . next hOther =>
      unfold tokensOf at ih ⊢
      rw [List.filter_cons_of_neg (by simpa using hOther), ih,
        List.filter_cons_of_neg (by simpa using hOther)]

/--
The environment uses the token that was stored last, and for the other hosts the same one as before.
-/
def Used (store : TokenStore) (token : Message.Token) : Prop :=
  ∀ hostId, collectTokens (store.upsert token).intoTokens hostId
    = if hostId = token.hostId then some token else collectTokens store.intoTokens hostId

/--
A second token of the host outlives the one that is stored, unless it is the same.
-/
theorem upsert_used_iff (store : TokenStore) (token : Message.Token)
    : Used store token
        ↔
      (tokensOf store.intoTokens token.hostId).length ≤ 1
        ∨ (tokensOf store.intoTokens token.hostId).getLast? = some token := by
  have hSelf : collectTokens (store.upsert token).intoTokens token.hostId
      = (token :: (tokensOf store.intoTokens token.hostId).tail).getLast? := by
    rw [collectTokens_eq, ← tokensOf_upsert_self]
    rfl
  have hLast : (token :: (tokensOf store.intoTokens token.hostId).tail).getLast? = some token
      ↔ (tokensOf store.intoTokens token.hostId).length ≤ 1
        ∨ (tokensOf store.intoTokens token.hostId).getLast? = some token := by
    rcases tokensOf store.intoTokens token.hostId with _ | ⟨first, _ | ⟨second, rest⟩⟩
    . simp
    . simp
    . simp [List.getLast?_cons_cons]
  rw [← hLast, ← hSelf]
  constructor
  . intro hUsed
    have hHost := hUsed token.hostId
    rw [if_pos rfl] at hHost
    exact hHost
  . intro hHost hostId
    split
    . next hSame =>
      rw [hSame]
      exact hHost
    . next hOther =>
      rw [collectTokens_eq, collectTokens_eq]
      exact congrArg List.getLast? (tokensOf_upsert_of_ne store.intoTokens hOther)

section Duplicate

def keyOf (data : UInt8) : Message.Token where
  hostId := 7
  keyId := ⟨"key", by decide⟩
  data := ⟨[data], Nat.succ_le_succ (Nat.zero_le 31)⟩

/-
A file with two tokens of one host: the second one stays in use.
-/
theorem not_upsert_used
    : ¬ ∀ (store : TokenStore) (token : Message.Token), Used store token := by
  intro hAll
  have hUsed := hAll ⟨[keyOf 1, keyOf 2]⟩ (keyOf 3) 7
  contradiction

end Duplicate

end TokenStore
end Enody
