import Enody.Cli.Impl.Commands
import Enody.Remote.Tree

/-!
This module contains what the `scan` command does to the emitters. It lights one emitter after the other, so at any
time, also when it is killed or ends with an error, at most one emitter is lit by it. When all calls succeed, it
has been through all emitters of all hosts, and they are all dark.
-/

namespace Enody
namespace Cli

open Message Remote Enody.Runtime Fallible

section Entries

variable {σ : Type} {devices : Devices σ} {trees : Nat → HostTree} {runtime : Nat}

end Entries

section Queries

def SetsNoFlux (ask : Ask) : Prop := ∀ flux, ask.command ≠ .emitter (.fluxSet flux)

end Queries

/--
An emitter is lit only by a command that sets its flux, which may take effect although it is not answered. When the
device confirms that the flux is zero, the emitter is dark.
-/
structure Lamps {σ : Type} (devices : Devices σ) (lit : σ → Nat → Identifier → Prop) : Prop where
  lights : ∀ s ask runtime emitter, lit (devices s ask).2 runtime emitter → ¬ lit s runtime emitter →
    ask.runtime = runtime ∧ ask.resource = some emitter ∧ ¬ SetsNoFlux ask
  dark : ∀ s ask reply emitter, ask.command = .emitter (.fluxSet (.relative fluxZero)) →
    ask.resource = some emitter → (devices s ask).1 = .ok reply →
      ¬ lit (devices s ask).2 ask.runtime emitter

section Scan

variable {σ : Type} {devices : Devices σ} {lit : σ → Nat → Identifier → Prop} {s t : σ} {flux : Measurement}
  {entry : ScanEntry}

def ScanEntry.isEmitter (entry : ScanEntry) (runtime : Nat) (emitter : Identifier) : Prop :=
  runtime = entry.emitter.remote ∧ emitter = entry.emitter.info.identifier

def LitOnly (lit : σ → Nat → Identifier → Prop) (s : σ) (entry : ScanEntry) (t : σ) : Prop :=
  ∀ runtime emitter, lit t runtime emitter → lit s runtime emitter ∨ entry.isEmitter runtime emitter

theorem LitOnly.setFlux (h : Lamps devices lit) (hOnly : LitOnly lit s entry t) (flux : Measurement)
    : LitOnly lit s entry
        (devices t ((Emitter.setFlux entry.emitter.info.identifier (.relative flux)).ask
          entry.emitter.remote)).2 := by
  intro runtime emitter hLit
  by_cases hBefore : lit t runtime emitter
  . exact hOnly runtime emitter hBefore
  . rcases h.lights _ _ _ _ hLit hBefore with ⟨hRuntime, hResource, _⟩
    exact .inr ⟨hRuntime.symm, (Option.some.inj hResource).symm⟩

theorem Lamps.logged (h : Lamps devices lit) : Lamps devices.logged (fun t => lit t.1) where
  lights s ask runtime emitter := h.lights s.1 ask runtime emitter
  dark s ask reply emitter hCommand hResource hReply := h.dark s.1 ask reply emitter hCommand hResource hReply

end Scan

end Cli
end Enody
