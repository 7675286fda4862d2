import Enody.Runtime.Impl.Exchange
import Enody.Script.Basic
import Enody.Wifi.Impl.Frame

/-!
This module contains sessions: what a program does with remote runtimes, one `execute_command` after the other.
A call of `execute_command` is one call of the session, and the devices behind the runtimes are its server. The
operations of `RemoteRuntime` itself are sessions.
-/

namespace Enody

/-
`heapless::String::try_from`
-/
def HString.tryFrom {capacity : Nat} (text : String) : Option (HString capacity) :=
  if h : text.utf8ByteSize ≤ capacity then some ⟨text, h⟩ else none

theorem HString.val_of_tryFrom {capacity : Nat} {text : String} {string : HString capacity}
    (h : tryFrom text = some string)
    : string.val = text := by
  unfold tryFrom at h
  split at h
  . injection h with h
    rw [← h]
  . contradiction

theorem HVec.items_of_fromSlice {α : Type} {capacity : Nat} {slice : List α} {vec : HVec α capacity}
    (h : fromSlice slice = some vec)
    : vec.items = slice := by
  unfold fromSlice at h
  split at h
  . injection h with h
    rw [← h]
  . contradiction

namespace Runtime

open Message

/--
A call of `execute_command_with_timeout_until`. `runtime` says which of the runtimes it is made on. The defaults
are those of `execute_command`.
-/
structure Ask where
  runtime : Nat
  resource : Option Identifier
  command : Command
  timeout : Duration := commandTimeout
  isTerminal : Identifier → IsTerminal := fun _ _ _ => true

abbrev Session (α : Type) := Fallible Ask (fun _ => CommandResult) (Error .std) α

abbrev Devices (σ : Type) := Script.Server Ask (fun _ => CommandResult) σ

namespace Session

def execute (ask : Ask) : Session (EventMessage .std) := do
  let result ← Fallible.ask ask
  Fallible.ofExcept result

end Session

namespace Exchange

variable {α : Type}

def ask (exchange : Exchange α) (runtime : Nat) : Ask where
  runtime := runtime
  resource := some exchange.resource
  command := exchange.command
  timeout := exchange.timeout
  isTerminal := exchange.isTerminal

def session (exchange : Exchange α) (runtime : Nat) : Session α := do
  let result ← Fallible.ask (exchange.ask runtime)
  Fallible.ofExcept (exchange.result result)

end Exchange

def discoverAll {Info : Type} (count : Exchange UInt32) (info : UInt32 → Exchange Info) (runtime : Nat)
    : Session (List Info) := do
  let count ← count.session runtime
  (List.range count.toNat).mapM fun i => (info (UInt32.ofNat i)).session runtime

/-
`ok_or` and `map_err`
-/
def orThrow {α : Type} (error : Error .std) : Option α → Session α
  | some a => pure a
  | none => throw error

def answered {α : Type} (answer : Event .std → Option α) (eventMessage : EventMessage .std) : Session α :=
  match answer eventMessage.event with
  | some a => pure a
  | none => throw .unexpectedResponse

namespace RemoteRuntime

/-
`execute_command` without a resource.
-/
def rootAsk (runtime : Nat) (command : Command) : Ask where
  runtime := runtime
  resource := none
  command := command

def fetchHostInfo (runtime : Nat) : Session HostInfo := do
  let eventMessage ← Session.execute (rootAsk runtime (.host .info))
  answered
    (fun
      | .host (.info hostInfo) => some hostInfo
      | _ => none)
    eventMessage

section Settings

variable {Value : Type} (postcard : Wifi.Postcard Value) (runtime : Nat)

def settingGet (key : String) : Session Value := do
  let key ← orThrow .argument (HString.tryFrom key)
  let message ← Session.execute (rootAsk runtime (.runtime (.settingGet key)))
  match message.event with
  | .runtime (.settingGet _ .missing) => throw .insufficientData
  | .runtime (.settingGet _ .private) => throw .permission
  | .runtime (.settingGet _ (.public bytes)) => orThrow .serialization (postcard.fromBytes bytes.items)
  | _ => throw .unexpectedResponse

def settingSet (key : String) (value : Value) : Session Unit := do
  let key ← orThrow .argument (HString.tryFrom key)
  let bytes ← orThrow .serialization (postcard.toAllocvec value)
  let settingValue ← orThrow .serialization (HVec.fromSlice bytes)
  let message ← Session.execute (rootAsk runtime (.runtime (.settingSet key settingValue)))
  answered
    (fun
      | .runtime (.settingSet _) => some ()
      | _ => none)
    message

def settingDelete (key : String) : Session Unit := do
  let key ← orThrow .argument (HString.tryFrom key)
  let message ← Session.execute (rootAsk runtime (.runtime (.settingDelete key)))
  answered
    (fun
      | .runtime (.settingDelete _) => some ()
      | _ => none)
    message

end Settings

end RemoteRuntime

end Runtime
end Enody
