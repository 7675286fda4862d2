import Enody.Retry.Basic
import Enody.Text

/-!
This module contains the prompts of `main.rs` that ask for a network and for a device. `flush` is what
flushing standard output yields, one time after the other. Printing itself succeeds, and the tables that are
printed before the first prompt are left out.
-/

namespace Enody
namespace Cli

open Message Wifi

/--
`stdin` are the bytes that have not been read, `prompts` counts the calls of `prompt_line`, `printed` is what
has been printed.
-/
structure Console where
  stdin : List UInt8
  prompts : Nat
  printed : List String

def Console.print (console : Console) (text : String) : Console :=
  { console with printed := console.printed ++ [text] }

def Console.println (console : Console) (text : String) : Console := console.print (text ++ "\n")

/-
The bytes up to the first end of line, and the bytes behind it. At the end of the input there are none.
-/
def takeLine : List UInt8 → List UInt8
  | [] => []
  | byte :: bytes => if byte = 0x0A then [byte] else byte :: takeLine bytes

def dropLine : List UInt8 → List UInt8
  | [] => []
  | byte :: bytes => if byte = 0x0A then bytes else dropLine bytes

def decodeLine (bytes : List UInt8) : Except String String :=
  match String.fromUTF8? ⟨bytes.toArray⟩ with
  | some line => .ok line
  | none => .error "stream did not contain valid UTF-8"

/-
Line feeds and carriage returns are popped as long as the text ends with one.
-/
def stripLineEnd (input : String) : String :=
  String.ofList (input.toList.reverse.dropWhile fun c => c == '\n' || c == '\r').reverse

section Prompts

variable (flush : Nat → Except String Unit)

def promptLine (prompt : String) (console : Console) : Except (Error .std) String × Console :=
  let asked := { console.print prompt with prompts := console.prompts + 1 }
  match flush console.prompts with
  | .error detail => (.error (.debugText detail), asked)
  | .ok () =>
    let answered := { asked with stdin := dropLine console.stdin }
    match decodeLine (takeLine console.stdin) with
    | .error detail => (.error (.debugText detail), answered)
    | .ok input => (.ok (stripLineEnd input), answered)

/--
What a loop makes of a line: it prints a message and asks again, or it ends.
-/
inductive Choice (A : Type) where
  | again (message : String)
  | chosen (a : A)

def ask {A : Type} (prompt : String) (choose : String → Choice A)
    : Retry.Round Console (Except (Error .std) A) :=
  fun console =>
    match promptLine flush prompt console with
    | (.error error, console) => (some (.error error), console)
    | (.ok input, console) =>
      match choose input with
      | .again message => (none, console.println message)
      | .chosen a => (some (.ok a), console)

/-
The item with the number that is typed. Numbers start with one.
-/
def selectedItem {A : Type} (items : List A) (input : String) : Option A :=
  match parseUsize input with
  | none => none
  | some selected => if 1 ≤ selected ∧ selected ≤ items.length then items[selected - 1]? else none

def chooseManualSsid (ssid : String) : Choice String :=
  if ssid.isEmpty then .again "SSID cannot be empty." else .chosen ssid

def promptManualSsid (fuel : Nat) (console : Console) : Option (Except (Error .std) String × Console) :=
  Retry.run (ask flush "SSID: " chooseManualSsid) fuel console

/--
The line ends the loop over the networks with an SSID, or the SSID is typed: after an empty line, or because
the network hides it.
-/
inductive PickedNetwork where
  | ssid (ssid : String)
  | typed
  | hidden

def chooseNetwork (networks : List Network) (input : String) : Choice PickedNetwork :=
  let input := trim input
  if input.isEmpty then
    .chosen .typed
  else
    match selectedItem networks input with
    | none =>
      .again ("Enter a number from 1 to " ++ networks.length.repr ++ " or press Enter to type an SSID.")
    | some (.wifi network) =>
      match network.ssid with
      | some ssid => .chosen (.ssid ssid.val)
      | none => .chosen .hidden

def pickNetwork (networks : List Network) : Retry.Round Console (Except (Error .std) PickedNetwork) :=
  ask flush "Pick a network number (Enter to type SSID): " (chooseNetwork networks)

def finishWifiSsid (picked : Except (Error .std) PickedNetwork × Console) (fuel : Nat)
    : Option (Except (Error .std) String × Console) :=
  match picked with
  | (.error error, console) => some (.error error, console)
  | (.ok (.ssid ssid), console) => some (.ok ssid, console)
  | (.ok .typed, console) => promptManualSsid flush fuel console
  | (.ok .hidden, console) =>
    promptManualSsid flush fuel (console.println "Selected network has a hidden SSID.")

def promptWifiSsid (networks : List Network) (fuel : Nat) (console : Console)
    : Option (Except (Error .std) String × Console) :=
  if networks.isEmpty then
    promptManualSsid flush fuel console
  else
    (Retry.run (pickNetwork flush networks) fuel console).bind fun picked =>
      finishWifiSsid flush picked fuel

def chooseDevice (devices : List MdnsDevice) (input : String) : Choice MdnsDevice :=
  match selectedItem devices (trim input) with
  | some device => .chosen device
  | none => .again ("Enter a number from 1 to " ++ devices.length.repr ++ ".")

def promptWifiTokenGenerationDevice (devices : List MdnsDevice) (fuel : Nat) (console : Console)
    : Option (Except (Error .std) MdnsDevice × Console) :=
  Retry.run (ask flush "Pick an EP01 number: " (chooseDevice devices)) fuel console

end Prompts

end Cli
end Enody
