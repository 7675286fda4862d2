import Enody.Cli.Impl.WifiToken

/-!
This module contains what pairing over WiFi does with a token: it is saved only after a connection with it has been
opened, asked for its host and closed again, and nothing is saved otherwise. Every connection that is opened for
this is closed before anything else happens.
-/

namespace Enody
namespace Cli

open Message Wifi Fallible

abbrev TokenLog := Script.Log TokenCall TokenCall.Response

def verifiedCalls (n : Nat) (connection : WifiConnection) (host : HostInfo) : TokenLog :=
  [⟨.connect n connection, .ok ()⟩, ⟨.host n, .ok host⟩, ⟨.disconnect n, .ok ()⟩]

inductive FailedAttempt (n : Nat) (connection : WifiConnection) : TokenLog → Error .std → Prop where
  | connect {error : Error .std} : FailedAttempt n connection [⟨.connect n connection, .error error⟩] error
  | host {error : Error .std} (disconnected : Except (Error .std) Unit) :
      FailedAttempt n connection
        [⟨.connect n connection, .ok ()⟩, ⟨.host n, .error error⟩, ⟨.disconnect n, disconnected⟩] error
  | disconnect (host : HostInfo) {error : Error .std} :
      FailedAttempt n connection
        [⟨.connect n connection, .ok ()⟩, ⟨.host n, .ok host⟩, ⟨.disconnect n, .error error⟩] error

/--
The first `n` attempts, each with the delay behind it.
-/
inductive FailedAttempts (connection : WifiConnection) : Nat → TokenLog → Prop where
  | nil : FailedAttempts connection 0 []
  | snoc {n : Nat} {log calls : TokenLog} {error : Error .std} (slept : Except (Error .std) Unit) :
      FailedAttempts connection n log → FailedAttempt (n + 1) connection calls error →
        FailedAttempts connection (n + 1) (log ++ calls ++ [⟨.sleep, slept⟩])

/--
A connection that has been opened is asked for its host and closed, and nothing happens in between.
-/
inductive Tidy : TokenLog → Prop where
  | nil : Tidy []
  | other {call : (call : TokenCall) × call.Response} {log : TokenLog} :
      (∀ n connection, call.1 ≠ .connect n connection) → Tidy log → Tidy (call :: log)
  | refused {n : Nat} {connection : WifiConnection} {error : Error .std} {log : TokenLog} :
      Tidy log → Tidy (⟨.connect n connection, .error error⟩ :: log)
  | session {n : Nat} {connection : WifiConnection} {host : Except (Error .std) HostInfo}
      {disconnected : Except (Error .std) Unit} {log : TokenLog} :
      Tidy log →
        Tidy (⟨.connect n connection, .ok ()⟩ :: ⟨.host n, host⟩ :: ⟨.disconnect n, disconnected⟩ :: log)

theorem Tidy.append {log more : TokenLog} (h : Tidy log) (hMore : Tidy more) : Tidy (log ++ more) := by
  induction h with
  | nil => exact hMore
  | other hCall _ ih => exact .other hCall ih
  | refused _ ih => exact .refused ih
  | session _ ih => exact .session ih

theorem Tidy.single {call : TokenCall} (response : call.Response)
    (h : ∀ n connection, call ≠ .connect n connection)
    : Tidy [⟨call, response⟩] := .other h .nil

def SavesNothing (log : TokenLog) : Prop := ∀ call ∈ log, ∀ token, call.1 ≠ .saveToken token

def isConnect : TokenCall → Bool
  | .connect _ _ => true
  | _ => false

def connects (log : TokenLog) : Nat := log.countP fun call => isConnect call.1

/--
Calls that leave nothing open and nothing saved, with at most `n` connections among them.
-/
structure Leaves (n : Nat) (log : TokenLog) : Prop where
  tidy : Tidy log
  savesNothing : SavesNothing log
  few : connects log ≤ n

theorem Leaves.append {n m : Nat} {log more : TokenLog} (h : Leaves n log) (hMore : Leaves m more)
    : Leaves (n + m) (log ++ more) where
  tidy := h.tidy.append hMore.tidy
  savesNothing := List.forall_mem_append.mpr ⟨h.savesNothing, hMore.savesNothing⟩
  few := by
    unfold connects
    rw [List.countP_append]
    exact Nat.add_le_add h.few hMore.few

theorem Leaves.single {call : TokenCall} (response : call.Response)
    (hConnect : ∀ n connection, call ≠ .connect n connection) (hSave : ∀ token, call ≠ .saveToken token)
    : Leaves 0 [⟨call, response⟩] where
  tidy := .single response hConnect
  savesNothing := List.forall_mem_singleton.mpr hSave
  few := by
    cases call <;> simp_all [connects, isConnect]

section Attempts

variable {n : Nat} {connection : WifiConnection} {log : TokenLog} {error : Error .std}

theorem FailedAttempt.leaves (h : FailedAttempt n connection log error) : Leaves 1 log := by
  cases h with
  | connect => exact ⟨.refused .nil, by simp [SavesNothing], by simp [connects, isConnect]⟩
  | host => exact ⟨.session .nil, by simp [SavesNothing], by simp [connects, isConnect]⟩
  | disconnect => exact ⟨.session .nil, by simp [SavesNothing], by simp [connects, isConnect]⟩

theorem FailedAttempts.leaves (h : FailedAttempts connection n log) : Leaves n log := by
  induction h with
  | nil => exact ⟨.nil, by simp [SavesNothing], Nat.le_refl 0⟩
  | snoc _ _ hCalls ih => exact (ih.append hCalls.leaves).append (.single _ (by simp) (by simp))

end Attempts

section Verify

variable {σ : Type} {server : Script.Server TokenCall TokenCall.Response σ} {s : σ} {log : TokenLog}

def Verified (token : Message.Token) (log : TokenLog) : Prop :=
  ∃ before device connection k attempts host,
    log = before ++ [⟨.generateToken device, .ok token⟩] ++ attempts ++ verifiedCalls (k + 1) connection host
      ∧
    device.isTokenGenerationCandidate = true
      ∧
    WifiConnection.fromDiscoveredDevice token device.toWifiDiscoveredDevice = .ok connection
      ∧
    k < wifiTokenVerifyAttempts
      ∧
    FailedAttempts connection k attempts

/-
How the command may end: without saving anything, or with a token that has been verified and saved last.
-/
def EndsSaved (log : TokenLog) (result : Except (Error .std) Unit) : Prop :=
  (SavesNothing log ∧ result ≠ .ok ())
    ∨
  ∃ before token saved,
    log = before ++ [⟨.saveToken token, saved⟩]
      ∧
    SavesNothing before
      ∧
    Verified token before
      ∧
    (result = .ok () ↔ ∃ path, saved = .ok path)

structure Ends (log : TokenLog) (result : Except (Error .std) Unit) : Prop where
  tidy : Tidy log
  few : connects log ≤ wifiTokenVerifyAttempts
  saved : EndsSaved log result

theorem Leaves.ends {n : Nat} {log : TokenLog} (h : Leaves n log) (hFew : n ≤ wifiTokenVerifyAttempts)
    (error : Error .std)
    : Ends log (.error error) where
  tidy := h.tidy
  few := Nat.le_trans h.few hFew
  saved := .inl ⟨h.savesNothing, by simp⟩

end Verify

end Cli
end Enody
