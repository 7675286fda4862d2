import Enody.Runtime.Lemmas.Session
import Enody.Store.Uncertain
import Enody.Wifi.Impl.Codec

/-!
This module contains the settings of a device as a program sees them. A call may fail after the device has
changed a setting, so the settings are a store of which some writes are not confirmed: `setting_get` yields
what the last confirmed write of the key has stored, or one of the unconfirmed writes since then.
-/

namespace Enody
namespace Runtime

open Message Fallible Store RemoteRuntime

/--
The device keeps its settings. It changes a setting only by the commands that do so, and a change that it confirms
has taken place.
-/
structure KeepsSettings {σ : Type} (devices : Devices σ) (runtime : Nat)
    (stored : σ → SettingKey → StoredSetting)
    : Prop where
  got : ∀ s key reply, (devices s (rootAsk runtime (.runtime (.settingGet key)))).1 = .ok reply →
    ∃ other, reply.event = .runtime (.settingGet other (stored s key))
  kept : ∀ s key, stored (devices s (rootAsk runtime (.runtime (.settingGet key)))).2 = stored s
  mayBeSet : ∀ s key value,
    stored (devices s (rootAsk runtime (.runtime (.settingSet key value)))).2 = stored s
      ∨
    stored (devices s (rootAsk runtime (.runtime (.settingSet key value)))).2
      = Function.update (stored s) key (.public value)
  set : ∀ s key value reply other,
    (devices s (rootAsk runtime (.runtime (.settingSet key value)))).1 = .ok reply →
      reply.event = .runtime (.settingSet other) →
        stored (devices s (rootAsk runtime (.runtime (.settingSet key value)))).2
          = Function.update (stored s) key (.public value)
  mayBeDeleted : ∀ s key,
    stored (devices s (rootAsk runtime (.runtime (.settingDelete key)))).2 = stored s
      ∨
    stored (devices s (rootAsk runtime (.runtime (.settingDelete key)))).2
      = Function.update (stored s) key .missing
  deleted : ∀ s key reply other,
    (devices s (rootAsk runtime (.runtime (.settingDelete key)))).1 = .ok reply →
      reply.event = .runtime (.settingDelete other) →
        stored (devices s (rootAsk runtime (.runtime (.settingDelete key)))).2
          = Function.update (stored s) key .missing

inductive SettingOp (Value : Type) where
  | get (key : String)
  | set (key : String) (value : Value)
  | delete (key : String)

namespace SettingOp

variable {Value : Type} (postcard : Wifi.Postcard Value)

def perform (runtime : Nat) : SettingOp Value → Session (Option Value)
  | get key => some <$> settingGet postcard runtime key
  | set key value => do
    settingSet postcard runtime key value
    return none
  | delete key => do
    settingDelete runtime key
    return none

def access : SettingOp Value → Except (Error .std) (Access SettingKey StoredSetting)
  | get key =>
    match HString.tryFrom key with
    | none => .error .argument
    | some key => .ok (.read key)
  | set key value =>
    match HString.tryFrom key with
    | none => .error .argument
    | some key =>
      match (postcard.toAllocvec value).bind HVec.fromSlice with
      | none => .error .serialization
      | some settingValue => .ok (.write key (.public settingValue))
  | delete key =>
    match HString.tryFrom key with
    | none => .error .argument
    | some key => .ok (.write key .missing)

def accepted (op : SettingOp Value) : Bool :=
  match op.access postcard with
  | .ok _ => true
  | .error _ => false

def recorded (op : SettingOp Value) (result : Except (Error .std) (Option Value))
    : List (Access SettingKey StoredSetting × Outcome StoredSetting) :=
  match op.access postcard, result with
  | .error _, _ => []
  | .ok (.read key), _ => [(.read key, .failed)]
  | .ok (.write key value), .ok _ => [(.write key value, .written)]
  | .ok (.write key value), .error _ => [(.write key value, .failed)]

def performAll (runtime : Nat) (ops : List (SettingOp Value))
    : Session (List (Except (Error .std) (Option Value))) :=
  ops.mapM fun op => Fallible.handled (op.perform postcard runtime)

def Results : List (SettingOp Value) → List (Except (Error .std) (Option Value)) → Prop :=
  List.Forall₂ fun op result => ∀ value, result = .ok value → op.accepted postcard = true

def writes (key : String) : SettingOp Value → Bool
  | get _ => false
  | set other _ => other == key
  | delete other => other == key

def performAllAndGet (runtime : Nat) (ops : List (SettingOp Value)) (key : String)
    : Session (List (Except (Error .std) (Option Value)) × Value) := do
  let results ← performAll postcard runtime ops
  let value ← settingGet postcard runtime key
  return (results, value)

def history (ops : List (SettingOp Value)) (results : List (Except (Error .std) (Option Value)))
    : List (Access SettingKey StoredSetting × Outcome StoredSetting) :=
  (ops.zip results).flatMap fun (op, result) => op.recorded postcard result

variable {postcard}

theorem history_append {ops more : List (SettingOp Value)}
    {results others : List (Except (Error .std) (Option Value))} (h : ops.length = results.length)
    : history postcard (ops ++ more) (results ++ others)
        =
      history postcard ops results ++ history postcard more others := by
  unfold history
  rw [List.zip_append h, List.flatMap_append]

theorem history_singleton (op : SettingOp Value) (result : Except (Error .std) (Option Value))
    : history postcard [op] [result] = op.recorded postcard result := List.append_nil _

theorem recorded_ne {op : SettingOp Value} {key : String} {stringKey : SettingKey}
    (hOp : op.writes key = false) (hKey : HString.tryFrom key = some stringKey)
    (result : Except (Error .std) (Option Value))
    : ∀ access ∈ op.recorded postcard result, ∀ setting, access.1 ≠ .write stringKey setting := by
  have hDiffer : ∀ other (otherKey : SettingKey), HString.tryFrom other = some otherKey → other ≠ key →
      otherKey ≠ stringKey := by
    intro other otherKey hOther hNe hEq
    rw [hEq] at hOther
    exact hNe ((HString.val_of_tryFrom hOther).symm.trans (HString.val_of_tryFrom hKey))
  unfold recorded
  cases op with
  | get other =>
    simp only [access]
    cases (HString.tryFrom other : Option SettingKey) <;> simp
  | set other value =>
    simp only [access]
    cases hOther : (HString.tryFrom other : Option SettingKey) with
    | none => simp
    | some otherKey =>
      have hNe := hDiffer other otherKey hOther (by simpa [writes] using hOp)
      cases (postcard.toAllocvec value).bind HVec.fromSlice with
      | none => simp
      | some settingValue => cases result <;> simp [hNe]
  | delete other =>
    simp only [access]
    cases hOther : (HString.tryFrom other : Option SettingKey) with
    | none => simp
    | some otherKey =>
      have hNe := hDiffer other otherKey hOther (by simpa [writes] using hOp)
      cases result <;> simp [hNe]

theorem history_ne {ops : List (SettingOp Value)} {key : String} {stringKey : SettingKey}
    (hOps : ∀ op ∈ ops, op.writes key = false) (hKey : HString.tryFrom key = some stringKey)
    (results : List (Except (Error .std) (Option Value)))
    : ∀ access ∈ history postcard ops results, ∀ setting, access.1 ≠ .write stringKey setting := by
  intro access hAccess
  rcases List.mem_flatMap.mp hAccess with ⟨⟨op, result⟩, hZip, hRecorded⟩
  exact recorded_ne (hOps op (List.of_mem_zip hZip).1) hKey result access hRecorded

end SettingOp

section Settings

variable {σ Value : Type} {devices : Devices σ} {runtime : Nat} {stored : σ → SettingKey → StoredSetting}
  {postcard : Wifi.Postcard Value} {s : σ}

theorem wp_execute {ask : Ask} {always : σ → Prop} {post : EventMessage .std → σ → Prop}
    {failed : Error .std → σ → Prop}
    : wp devices always (Session.execute ask) post failed s
        ↔
      always s ∧
        match (devices s ask).1 with
        | .ok reply => post reply (devices s ask).2
        | .error error => failed error (devices s ask).2 := by
  unfold Session.execute
  rw [wp_bind, wp_ask]
  cases (devices s ask).1 <;> rfl

theorem wp_settingGet (h : KeepsSettings devices runtime stored) (key : String)
    : wp devices (fun _ => True) (settingGet postcard runtime key)
        (fun value t => stored t = stored s ∧
          ∃ stringKey bytes, HString.tryFrom key = some stringKey ∧ stored s stringKey = .public bytes
            ∧ postcard.fromBytes bytes.items = some value)
        (fun _ t => stored t = stored s) s := by
  unfold settingGet
  cases hKey : (HString.tryFrom key : Option SettingKey) with
  | none => exact rfl
  | some stringKey =>
    show wp devices (fun _ => True) (Session.execute _ >>= _) _ _ s
    rw [wp_bind, wp_execute]
    refine ⟨trivial, ?_⟩
    have hKept := h.kept s stringKey
    cases hReply : (devices s (rootAsk runtime (.runtime (.settingGet stringKey)))).1 with
    | error error => exact hKept
    | ok reply =>
      rcases h.got s stringKey reply hReply with ⟨other, hEvent⟩
      simp only [hEvent]
      cases hStored : stored s stringKey with
      | missing => exact hKept
      | «private» => exact hKept
      | «public» bytes =>
        simp only
        cases hValue : postcard.fromBytes bytes.items with
        | none => exact hKept
        | some value => exact ⟨hKept, stringKey, bytes, rfl, hStored, hValue⟩

theorem wp_accepted {α : Type} {session : Session α} {post : α → σ → Prop} {failed : Error .std → σ → Prop}
    (h : wp devices (fun _ => True) session post failed s)
    : wp devices (fun _ => True) session (fun a t => true = true ∧ post a t) failed s :=
  wp_mono h (fun _ _ hPost => ⟨rfl, hPost⟩) fun _ _ hFailed => hFailed

theorem wp_change {command : RuntimeCommand} {answer : Event .std → Option Unit} {key : SettingKey}
    {setting : StoredSetting}
    (hMayBe : stored (devices s (rootAsk runtime (.runtime command))).2 = stored s
        ∨
      stored (devices s (rootAsk runtime (.runtime command))).2 = Function.update (stored s) key setting)
    (hDone : ∀ reply, (devices s (rootAsk runtime (.runtime command))).1 = .ok reply →
      (answer reply.event).isSome = true →
        stored (devices s (rootAsk runtime (.runtime command))).2
          = Function.update (stored s) key setting)
    : wp devices (fun _ => True)
        (do
          let message ← Session.execute (rootAsk runtime (.runtime command))
          answered answer message)
        (fun _ t => Run (stored s) [(.write key setting, .written)] (stored t))
        (fun _ t => Run (stored s) [(.write key setting, .failed)] (stored t)) s := by
  have hFailed : Run (stored s) [(.write key setting, .failed)]
      (stored (devices s (rootAsk runtime (.runtime command))).2) := by
    rcases hMayBe with hKept | hWritten
    . rw [hKept]
      exact .single .writeFailed
    . rw [hWritten]
      exact .single .writeLost
  rw [wp_bind, wp_execute]
  refine ⟨trivial, ?_⟩
  cases hReply : (devices s (rootAsk runtime (.runtime command))).1 with
  | error error => exact hFailed
  | ok reply =>
    simp only [answered]
    cases hAnswer : answer reply.event with
    | none => exact hFailed
    | some answer =>
      rw [wp_pure, hDone reply hReply (by rw [hAnswer]; rfl)]
      exact .single .written

theorem wp_perform (h : KeepsSettings devices runtime stored) (op : SettingOp Value)
    : wp devices (fun _ => True) (op.perform postcard runtime)
        (fun value t => op.accepted postcard = true
          ∧ Run (stored s) (op.recorded postcard (.ok value)) (stored t))
        (fun error t => Run (stored s) (op.recorded postcard (.error error)) (stored t)) s := by
  cases op with
  | get key =>
    have hRecorded : ∀ t result, stored t = stored s →
        Run (stored s) ((SettingOp.get key).recorded postcard result) (stored t) := by
      intro t result hKept
      rw [hKept]
      simp only [SettingOp.recorded, SettingOp.access]
      cases (HString.tryFrom key : Option SettingKey) with
      | none => exact .nil
      | some stringKey => exact .single .readFailed
    show wp devices (fun _ => True) (some <$> settingGet postcard runtime key) _ _ s
    rw [wp_map]
    apply wp_mono (wp_settingGet h key)
    . rintro value t ⟨hKept, stringKey, bytes, hKey, _⟩
      refine ⟨?_, hRecorded t _ hKept⟩
      simp [SettingOp.accepted, SettingOp.access, hKey]
    . exact fun error t hKept => hRecorded t _ hKept
  | set key value =>
    show wp devices (fun _ => True) (settingSet postcard runtime key value >>= fun _ => pure none) _ _ s
    rw [wp_bind]
    simp only [wp_pure, settingSet, SettingOp.accepted, SettingOp.recorded, SettingOp.access]
    cases (HString.tryFrom key : Option SettingKey) with
    | none => exact .nil
    | some stringKey =>
      cases hBytes : postcard.toAllocvec value with
      | none => exact .nil
      | some bytes =>
        simp only [Option.bind_some, orThrow, pure_bind]
        cases hValue : (HVec.fromSlice bytes : Option SettingValue) with
        | none => exact .nil
        | some settingValue =>
          apply wp_accepted
          apply wp_change (h.mayBeSet s stringKey settingValue)
          intro reply hReply hAnswer
          split at hAnswer
          . next other hEvent => exact h.set s stringKey settingValue reply other hReply hEvent
          . contradiction
  | delete key =>
    show wp devices (fun _ => True) (settingDelete runtime key >>= fun _ => pure none) _ _ s
    rw [wp_bind]
    simp only [wp_pure, settingDelete, SettingOp.accepted, SettingOp.recorded, SettingOp.access]
    cases (HString.tryFrom key : Option SettingKey) with
    | none => exact .nil
    | some stringKey =>
      apply wp_accepted
      apply wp_change (h.mayBeDeleted s stringKey)
      intro reply hReply hAnswer
      split at hAnswer
      . next other hEvent => exact h.deleted s stringKey reply other hReply hEvent
      . contradiction

theorem wp_performAll (h : KeepsSettings devices runtime stored) (ops : List (SettingOp Value))
    : wp devices (fun _ => True) (SettingOp.performAll postcard runtime ops)
        (fun results t => SettingOp.Results postcard ops results
          ∧ Run (stored s) (SettingOp.history postcard ops results) (stored t))
        (fun _ _ => False) s := by
  apply wp_mapM
    (fun (before : List (SettingOp Value)) results t => SettingOp.Results postcard before results
      ∧ Run (stored s) (SettingOp.history postcard before results) (stored t))
  . exact ⟨.nil, .nil⟩
  . rintro before op after results t _ ⟨hResults, hRun⟩
    rw [wp_handled]
    apply Script.wp_mono (wp_perform h op)
    intro result u hResult
    have hLength := hResults.length_eq
    have hOne : (∀ value, result = .ok value → op.accepted postcard = true)
        ∧ Run (stored t) (op.recorded postcard result) (stored u) := by
      cases result with
      | ok value => exact ⟨fun _ _ => hResult.1, hResult.2⟩
      | error error => exact ⟨by simp, hResult⟩
    refine ⟨List.rel_append hResults (.cons hOne.1 .nil), ?_⟩
    have hOne := hOne.2
    rw [SettingOp.history_append hLength, SettingOp.history_singleton]
    exact hRun.append hOne

theorem wp_performAllAndGet (h : KeepsSettings devices runtime stored) (ops : List (SettingOp Value))
    (key : String)
    : wp devices (fun _ => True) (SettingOp.performAllAndGet postcard runtime ops key)
        (fun result _ => SettingOp.Results postcard ops result.1 ∧
          ∃ stringKey bytes,
            HString.tryFrom key = some stringKey
              ∧
            .public bytes
                ∈ candidates stringKey (stored s stringKey) (SettingOp.history postcard ops result.1)
              ∧
            postcard.fromBytes bytes.items = some result.2)
        (fun _ _ => True) s := by
  unfold SettingOp.performAllAndGet
  rw [wp_bind]
  apply wp_mono (wp_performAll h ops) _ fun _ _ _ => trivial
  rintro results t ⟨hLength, hHistory⟩
  rw [wp_bind]
  apply wp_mono (wp_settingGet h key) _ fun _ _ _ => trivial
  rintro value u ⟨_, stringKey, bytes, hKey, hStored, hValue⟩
  refine ⟨hLength, stringKey, bytes, hKey, ?_, hValue⟩
  rw [← hStored]
  exact hHistory.mem_candidates stringKey

/--
A program sets, deletes and reads settings in any order, and goes on after failures. When it then gets a
value, the value is what the last confirmed write of the key has stored, or one of the writes since then
that were not confirmed.
-/
theorem setting_get_latest (h : KeepsSettings devices runtime stored) (ops : List (SettingOp Value))
    (key : String) {results : List (Except (Error .std) (Option Value))} {value : Value}
    (hRun : ((SettingOp.performAllAndGet postcard runtime ops key).run.run devices s).1
      = .ok (results, value))
    : ∃ stringKey bytes,
        HString.tryFrom key = some stringKey
          ∧
        .public bytes
            ∈ candidates stringKey (stored s stringKey) (SettingOp.history postcard ops results)
          ∧
        postcard.fromBytes bytes.items = some value := by
  exact ((Fallible.wp_iff.mp (wp_performAllAndGet h ops key)).2.1 (results, value) hRun).2

/--
A value that has been set is read back as long as its key is not written again, whatever happens to other keys
and whichever calls fail.
-/
theorem setting_read_back (h : KeepsSettings devices runtime stored)
    (hCodec : ∀ value bytes, postcard.toAllocvec value = some bytes → postcard.fromBytes bytes = some value)
    (before after : List (SettingOp Value)) (key : String) {value last : Value}
    {results : List (Except (Error .std) (Option Value))}
    (hRun : ((SettingOp.performAllAndGet postcard runtime (before ++ .set key value :: after) key).run.run
      devices s).1 = .ok (results, last))
    (hSet : results[before.length]? = some (.ok none))
    (hOthers : ∀ op ∈ after, op.writes key = false)
    : last = value := by
  rcases (Fallible.wp_iff.mp (wp_performAllAndGet h _ key)).2.1 (results, last) hRun
    with ⟨hResults, stringKey, bytes, hKey, hCandidate, hValue⟩
  rcases List.getElem?_eq_some_iff.mp hSet with ⟨hLt, hOk⟩
  have hSplit : results = results.take before.length ++ .ok none :: results.drop (before.length + 1) := by
    rw [← hOk, ← List.drop_eq_getElem_cons, List.take_append_drop]
  have hLength : before.length = (results.take before.length).length := by
    rw [List.length_take]
    omega
  -- the value has been accepted, and it is the one that is recorded
  have hAccepted := hResults.get (i := before.length) (by simp) hLt
  simp only [List.get_eq_getElem, List.getElem_append_right (Nat.le_refl _), Nat.sub_self,
    List.getElem_cons_zero, hOk] at hAccepted
  have hSetting := hAccepted none rfl
  simp only [SettingOp.accepted, SettingOp.access, hKey] at hSetting
  cases hBytes : (postcard.toAllocvec value).bind HVec.fromSlice with
  | none =>
    rw [hBytes] at hSetting
    contradiction
  | some settingValue =>
    have hRecorded : (SettingOp.set key value).recorded postcard (.ok none)
        = [(.write stringKey (.public settingValue), .written)] := by
      simp only [SettingOp.recorded, SettingOp.access, hKey, hBytes]
    simp only at hCandidate
    rw [hSplit, SettingOp.history_append hLength, ← List.singleton_append,
      ← List.singleton_append (l := results.drop _), SettingOp.history_append (by rfl),
      SettingOp.history_singleton, hRecorded, List.singleton_append] at hCandidate
    rw [candidates_of_written (SettingOp.history_ne hOthers hKey _), List.mem_singleton] at hCandidate
    injection hCandidate with hBytesEq
    subst hBytesEq
    rcases Option.bind_eq_some_iff.mp hBytes with ⟨encoded, hEncoded, hSlice⟩
    rw [HVec.items_of_fromSlice hSlice, hCodec value encoded hEncoded] at hValue
    exact (Option.some.inj hValue).symm

end Settings

/-
A device that answers every command at once, and fails for the settings of one key.
-/
def settingDevices : Devices (SettingKey → StoredSetting) := fun stored ask =>
  let reply (event : RuntimeEvent) : CommandResult := .ok ⟨0, none, none, .runtime event⟩
  match ask.command with
  | .runtime (.settingGet key) => (reply (.settingGet key (stored key)), stored)
  | .runtime (.settingSet key value) =>
    if key.val = "lost" then
      (.error .timeout, Function.update stored key (.public value))
    else
      (reply (.settingSet key), Function.update stored key (.public value))
  | .runtime (.settingDelete key) => (reply (.settingDelete key), Function.update stored key .missing)
  | _ => (.error .unsupported, stored)

theorem settingDevices_keepsSettings (runtime : Nat) : KeepsSettings settingDevices runtime id where
  got stored key reply hReply := by
    cases hReply
    exact ⟨key, rfl⟩
  kept _ _ := rfl
  mayBeSet stored key value := by
    refine .inr ?_
    unfold settingDevices
    simp only [rootAsk]
    split <;> rfl
  set stored key value reply other _ _ := by
    unfold settingDevices
    simp only [rootAsk]
    split <;> rfl
  mayBeDeleted _ _ := .inr rfl
  deleted _ _ _ _ _ _ := rfl

def bytePostcard : Wifi.Postcard UInt8 := Wifi.postcardOf Serde.Codec.u8

theorem bytePostcard_reads (value : UInt8) (bytes : List UInt8)
    (h : bytePostcard.toAllocvec value = some bytes)
    : bytePostcard.fromBytes bytes = some value := by
  injection h with h
  rw [← h]
  exact (Serde.Codec.u8.reads value).fromBytes_eq

def byteOps : List (SettingOp UInt8) :=
  [.set "lost" 1, .delete "gain", .set "gain" 7, .get "lost", .set "lost" 2]

/-
What has been written without a confirmation is read.
-/
theorem byteOps_get_latest
    : ∃ results value stringKey bytes,
        ((SettingOp.performAllAndGet bytePostcard 0 byteOps "lost").run.run settingDevices
          fun _ => .missing).1 = .ok (results, value)
          ∧
        HString.tryFrom "lost" = some stringKey
          ∧
        .public bytes ∈ candidates stringKey .missing (SettingOp.history bytePostcard byteOps results) := by
  have hRun : ∃ results value,
      ((SettingOp.performAllAndGet bytePostcard 0 byteOps "lost").run.run settingDevices
        fun _ => .missing).1 = .ok (results, value) := ⟨_, _, rfl⟩
  rcases hRun with ⟨results, value, hRun⟩
  rcases setting_get_latest (settingDevices_keepsSettings 0) byteOps "lost" hRun
    with ⟨stringKey, bytes, hKey, hCandidate, _⟩
  exact ⟨results, value, stringKey, bytes, hRun, hKey, hCandidate⟩

theorem byteOps_read_back
    : ∃ results last,
        ((SettingOp.performAllAndGet bytePostcard 0 byteOps "gain").run.run settingDevices
          fun _ => .missing).1 = .ok (results, last)
          ∧
        last = 7 := by
  have hRun : ∃ results last,
      ((SettingOp.performAllAndGet bytePostcard 0 byteOps "gain").run.run settingDevices
        fun _ => .missing).1 = .ok (results, last) ∧ results[2]? = some (.ok none) := ⟨_, _, rfl, rfl⟩
  rcases hRun with ⟨results, last, hRun, hSet⟩
  refine ⟨results, last, hRun, ?_⟩
  exact setting_read_back (settingDevices_keepsSettings 0) bytePostcard_reads
    [.set "lost" 1, .delete "gain"] [.get "lost", .set "lost" 2] "gain" hRun hSet (by decide)

end Runtime
end Enody
