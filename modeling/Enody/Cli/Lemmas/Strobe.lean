import Enody.Cli.Lemmas.Scan

/-!
This module contains the commands that `strobe` sends. The results of its displays are ignored, so the commands do
not depend on them, and the last command to every fixture turns it off.
-/

namespace Enody
namespace Cli

open Message Remote Enody.Runtime Fallible

variable {σ : Type} {devices : Devices σ} {s : σ}

def sent (log : FaultyLog Ask (Error .std) (EventMessage .std)) : List Ask := log.map Sigma.fst

def Sends (devices : Devices σ) (session : Session PUnit) (asks : List Ask) : Prop :=
  ∀ s log, wp devices.logged (fun _ => True) session (fun _ t => sent t.2 = sent log ++ asks)
    (fun _ _ => False) (s, log)

theorem Sends.bind {first second : Session PUnit} {asks more : List Ask} (h : Sends devices first asks)
    (hMore : Sends devices second more)
    : Sends devices (first >>= fun _ => second) (asks ++ more) := by
  intro s log
  rw [wp_bind]
  apply wp_mono (h s log) _ fun _ _ hFailed => hFailed
  rintro _ ⟨t, log'⟩ hSent
  apply wp_mono (hMore t log') _ fun _ _ hFailed => hFailed
  intro _ u hBoth
  rw [hBoth, hSent, List.append_assoc]

end Cli
end Enody
