import Enody.TokenStore.Lemmas.Upsert
import Enody.Transition.Run

/-!
This module contains what `save_token` leaves in the file, wherever it fails or is interrupted. The file is
emptied before it is written, so from the opening to the last byte it has neither the old tokens nor the
new ones.
-/

namespace Enody
namespace TokenStore

open Serde Transition

variable {json : SerdeJson} {env : EnvVars} {old : TokenStore} {token : Message.Token}

/--
The assumptions on serde_json: it reads what it has written, and a text that it has written is an object, so
what comes before its last brace is not a complete JSON value.
-/
structure SerdeJson.Documented (json : SerdeJson) : Prop where
  roundTrip : ∀ store text, json.toStringPretty store = .ok text → json.fromStr text = .ok store
  incomplete : ∀ store text (count : Nat) cut, json.toStringPretty store = .ok text →
    count < (utf8 text).length → String.fromUTF8? ⟨((utf8 text).take count).toArray⟩ = some cut →
    ∃ detail, json.fromStr cut = .error detail

theorem SerdeJson.Documented.load (hDoc : json.Documented) {store : TokenStore} {text : String}
    (hText : json.toStringPretty store = .ok text)
    : loadFromPath json (some (utf8 text)) = .ok store := by
  unfold loadFromPath
  simp only [fromUTF8?_utf8, hDoc.roundTrip store text hText]

theorem SerdeJson.Documented.load_cut (hDoc : json.Documented) {store : TokenStore} {text : String}
    (hText : json.toStringPretty store = .ok text) {count : Nat} (hCut : count < (utf8 text).length)
    : ∃ error, loadFromPath json (some ((utf8 text).take count)) = .error error := by
  unfold loadFromPath
  cases hDecode : String.fromUTF8? ⟨((utf8 text).take count).toArray⟩ with
  | none =>
    simp only [hDecode]
    exact ⟨_, rfl⟩
  | some cut =>
    rcases hDoc.incomplete store text count cut hText hCut hDecode with ⟨detail, hError⟩
    simp only [hDecode, hError]
    exact ⟨_, rfl⟩

def SaveLabel.written : SaveLabel → Nat
  | .write count => count
  | _ => 0

def SaveLabel.opens : SaveLabel → Bool
  | .openFile => true
  | _ => false

def written : List SaveLabel → Nat
  | [] => 0
  | label :: labels => label.written + written labels

def newContents (json : SerdeJson) (old : TokenStore) (token : Message.Token) : List UInt8 :=
  match json.toStringPretty (old.upsert token) with
  | .ok text => utf8 text
  | .error _ => []

namespace SaveState

/--
The file loads, to the old tokens or to those with the new one, and to the old ones after an error.
-/
structure Keeps (json : SerdeJson) (old : TokenStore) (token : Message.Token) (s : SaveState) : Prop where
  loads : loadFromPath json s.file = .ok old ∨ loadFromPath json s.file = .ok (old.upsert token)
  failed : ∀ error, s.phase = .returned (.error error) → loadFromPath json s.file = .ok old

/--
Either the file is untouched, or it has the first `written` bytes of the new contents.
-/
structure Untouched (file : Option (List UInt8)) (labels : List SaveLabel) (s : SaveState) : Prop where
  content : s.file = file
  notOpened : labels.any SaveLabel.opens = false
  nothing : written labels = 0

structure Opened (json : SerdeJson) (old : TokenStore) (token : Message.Token) (labels : List SaveLabel)
    (s : SaveState) : Prop where
  serializes : ∃ text, json.toStringPretty (old.upsert token) = .ok text
  content : s.file = some ((newContents json old token).take (written labels))
  le : written labels ≤ (newContents json old token).length
  opened : labels.any SaveLabel.opens = true

def PhaseOk (json : SerdeJson) (file : Option (List UInt8)) (old : TokenStore) (token : Message.Token)
    (labels : List SaveLabel) (s : SaveState) : Prop :=
  match s.phase with
  | .loading => s.Untouched file labels
  | .serializing _ store => s.Untouched file labels ∧ store = old.upsert token
  | .creatingDir _ contents =>
    s.Untouched file labels ∧ ∃ text, json.toStringPretty (old.upsert token) = .ok text
      ∧ contents = utf8 text
  | .opening _ contents =>
    s.Untouched file labels ∧ ∃ text, json.toStringPretty (old.upsert token) = .ok text
      ∧ contents = utf8 text
  | .writing _ remaining =>
    s.Opened json old token labels ∧ remaining = (newContents json old token).drop (written labels)
  | .returned (.ok _) =>
    s.Opened json old token labels ∧ written labels = (newContents json old token).length
  | .returned (.error _) =>
    s.Untouched file labels
      ∨ s.Opened json old token labels ∧ written labels < (newContents json old token).length

variable {file : Option (List UInt8)} {labels : List SaveLabel} {s t : SaveState} {label : SaveLabel}

@[simp]
theorem written_append (labels : List SaveLabel) (label : SaveLabel)
    : written (labels ++ [label]) = written labels + label.written := by
  induction labels with
  | nil => simp [written]
  | cons first labels ih =>
    rw [List.cons_append, written, ih, written]
    omega

theorem Untouched.snoc (h : s.Untouched file labels) (hFile : t.file = s.file)
    (hOpens : label.opens = false) (hWritten : label.written = 0)
    : t.Untouched file (labels ++ [label]) where
  content := hFile.trans h.content
  notOpened := by
    rw [List.any_append, h.notOpened]
    simp [hOpens]
  nothing := by
    rw [written_append, h.nothing, hWritten]

theorem Opened.snoc (h : s.Opened json old token labels) (hFile : t.file = s.file)
    (hWritten : label.written = 0)
    : t.Opened json old token (labels ++ [label]) where
  serializes := h.serializes
  content := by
    rw [written_append, hWritten, hFile]
    exact h.content
  le := by
    rw [written_append, hWritten]
    exact h.le
  opened := by
    rw [List.any_append, h.opened]
    rfl

theorem newContents_eq {text : String} (hText : json.toStringPretty (old.upsert token) = .ok text)
    : newContents json old token = utf8 text := by
  unfold newContents
  rw [hText]

theorem load_phaseOk (hLoads : loadFromPath json file = .ok old)
    (h : PhaseOk json file old token labels s) (hStep : s.load json env token = some t)
    : PhaseOk json file old token (labels ++ [.load]) t := by
  unfold SaveState.load at hStep
  split at hStep
  . next hPhase =>
    simp only [PhaseOk, hPhase] at h
    split at hStep
    . injection hStep with hStep
      subst hStep
      exact .inl (h.snoc rfl rfl rfl)
    . rw [h.content, hLoads] at hStep
      injection hStep with hStep
      subst hStep
      exact ⟨h.snoc h.content.symm rfl rfl, rfl⟩
  . contradiction

theorem loadError_phaseOk {detail : String} (h : PhaseOk json file old token labels s)
    (hStep : s.loadError env detail = some t)
    : PhaseOk json file old token (labels ++ [.loadError detail]) t := by
  unfold SaveState.loadError at hStep
  split at hStep
  . next hPhase =>
    simp only [PhaseOk, hPhase] at h
    split at hStep
    . injection hStep with hStep
      subst hStep
      exact .inl (h.snoc rfl rfl rfl)
    . injection hStep with hStep
      subst hStep
      exact .inl (h.snoc rfl rfl rfl)
  . contradiction

theorem serialize_phaseOk (h : PhaseOk json file old token labels s)
    (hStep : s.serialize json = some t)
    : PhaseOk json file old token (labels ++ [.serialize]) t := by
  unfold SaveState.serialize at hStep
  split at hStep
  . next path store hPhase =>
    simp only [PhaseOk, hPhase] at h
    split at hStep
    . injection hStep with hStep
      subst hStep
      exact .inl (h.left.snoc rfl rfl rfl)
    . next text hText =>
      injection hStep with hStep
      subst hStep
      rw [h.right] at hText
      exact ⟨h.left.snoc rfl rfl rfl, text, hText, rfl⟩
  . contradiction

theorem createDir_phaseOk (h : PhaseOk json file old token labels s) (hStep : s.createDir = some t)
    : PhaseOk json file old token (labels ++ [.createDir]) t := by
  unfold SaveState.createDir at hStep
  split at hStep
  . next path contents hPhase =>
    simp only [PhaseOk, hPhase] at h
    injection hStep with hStep
    subst hStep
    exact ⟨h.left.snoc rfl rfl rfl, h.right⟩
  . contradiction

theorem createDirError_phaseOk {detail : String} (h : PhaseOk json file old token labels s)
    (hStep : s.createDirError detail = some t)
    : PhaseOk json file old token (labels ++ [.createDirError detail]) t := by
  unfold SaveState.createDirError at hStep
  split at hStep
  . next path contents hPhase =>
    simp only [PhaseOk, hPhase] at h
    injection hStep with hStep
    subst hStep
    exact .inl (h.left.snoc rfl rfl rfl)
  . contradiction

theorem openError_phaseOk {detail : String} (h : PhaseOk json file old token labels s)
    (hStep : s.openError detail = some t)
    : PhaseOk json file old token (labels ++ [.openError detail]) t := by
  unfold SaveState.openError at hStep
  split at hStep
  . next path contents hPhase =>
    simp only [PhaseOk, hPhase] at h
    injection hStep with hStep
    subst hStep
    exact .inl (h.left.snoc rfl rfl rfl)
  . contradiction

theorem openFile_phaseOk (h : PhaseOk json file old token labels s) (hStep : s.openFile = some t)
    : PhaseOk json file old token (labels ++ [.openFile]) t := by
  unfold SaveState.openFile at hStep
  split at hStep
  . next path contents hPhase =>
    simp only [PhaseOk, hPhase] at h
    rcases h with ⟨hUntouched, text, hText, hContents⟩
    injection hStep with hStep
    subst hStep
    have hZero : written (labels ++ [.openFile]) = 0 := by
      rw [written_append, hUntouched.nothing]
      rfl
    refine ⟨⟨⟨text, hText⟩, ?_, ?_, ?_⟩, ?_⟩
    . rw [hZero, List.take_zero]
    . rw [hZero]
      exact Nat.zero_le _
    . rw [List.any_append]
      simp [SaveLabel.opens]
    . rw [hZero, List.drop_zero, newContents_eq hText, hContents]
  . contradiction

theorem write_phaseOk {count : Nat} (h : PhaseOk json file old token labels s)
    (hStep : s.write count = some t)
    : PhaseOk json file old token (labels ++ [.write count]) t := by
  unfold SaveState.write at hStep
  split at hStep
  . next path remaining hPhase =>
    simp only [PhaseOk, hPhase] at h
    rcases h with ⟨hOpened, hRemaining⟩
    split at hStep
    . next hCount =>
      injection hStep with hStep
      subst hStep
      rw [hRemaining, List.length_drop] at hCount
      have hWritten : written (labels ++ [.write count]) = written labels + count :=
        written_append labels (.write count)
      have hLe := hOpened.le
      refine ⟨⟨hOpened.serializes, ?_, ?_, ?_⟩, ?_⟩
      . rw [hWritten, hOpened.content, hRemaining, Option.getD_some, List.take_add]
      . rw [hWritten]
        omega
      . rw [List.any_append, hOpened.opened]
        rfl
      . rw [hWritten, hRemaining, List.drop_drop]
    . contradiction
  . contradiction

theorem writeError_phaseOk {detail : String} (h : PhaseOk json file old token labels s)
    (hStep : s.writeError detail = some t)
    : PhaseOk json file old token (labels ++ [.writeError detail]) t := by
  unfold SaveState.writeError at hStep
  split at hStep
  . next path byte rest hPhase =>
    simp only [PhaseOk, hPhase] at h
    rcases h with ⟨hOpened, hRemaining⟩
    injection hStep with hStep
    subst hStep
    -- a byte remains, so the contents are not complete
    have hLength := congrArg List.length hRemaining
    rw [List.length_cons, List.length_drop] at hLength
    refine .inr ⟨hOpened.snoc rfl rfl, ?_⟩
    rw [written_append]
    simp only [SaveLabel.written]
    omega
  . contradiction

theorem finish_phaseOk (h : PhaseOk json file old token labels s) (hStep : s.finish = some t)
    : PhaseOk json file old token (labels ++ [.finish]) t := by
  unfold SaveState.finish at hStep
  split at hStep
  . next path hPhase =>
    simp only [PhaseOk, hPhase] at h
    rcases h with ⟨hOpened, hRemaining⟩
    injection hStep with hStep
    subst hStep
    have hLe := hOpened.le
    have hLength := congrArg List.length hRemaining
    rw [List.length_nil, List.length_drop] at hLength
    refine ⟨hOpened.snoc rfl rfl, ?_⟩
    rw [written_append]
    simp only [SaveLabel.written]
    omega
  . contradiction

theorem step_phaseOk (hLoads : loadFromPath json file = .ok old)
    (h : PhaseOk json file old token labels s) (hStep : s.step json env token label = some t)
    : PhaseOk json file old token (labels ++ [label]) t := by
  cases label with
  | load => exact load_phaseOk hLoads h hStep
  | loadError => exact loadError_phaseOk h hStep
  | serialize => exact serialize_phaseOk h hStep
  | createDir => exact createDir_phaseOk h hStep
  | createDirError => exact createDirError_phaseOk h hStep
  | openFile => exact openFile_phaseOk h hStep
  | openError => exact openError_phaseOk h hStep
  | write => exact write_phaseOk h hStep
  | writeError => exact writeError_phaseOk h hStep
  | finish => exact finish_phaseOk h hStep

theorem PhaseOk.untouched_or_opened (h : PhaseOk json file old token labels s)
    : s.Untouched file labels
        ∨
      s.Opened json old token labels
        ∧
      ∀ error, s.phase = .returned (.error error) →
        written labels < (newContents json old token).length := by
  cases hPhase : s.phase with
  | loading =>
    simp only [PhaseOk, hPhase] at h
    exact .inl h
  | serializing =>
    simp only [PhaseOk, hPhase] at h
    exact .inl h.left
  | creatingDir =>
    simp only [PhaseOk, hPhase] at h
    exact .inl h.left
  | opening =>
    simp only [PhaseOk, hPhase] at h
    exact .inl h.left
  | writing =>
    simp only [PhaseOk, hPhase] at h
    exact .inr ⟨h.left, by simp⟩
  | returned result =>
    cases result with
    | ok =>
      simp only [PhaseOk, hPhase] at h
      exact .inr ⟨h.left, by simp⟩
    | error error =>
      simp only [PhaseOk, hPhase] at h
      rcases h with hUntouched | ⟨hOpened, hLt⟩
      . exact .inl hUntouched
      . exact .inr ⟨hOpened, fun _ _ => hLt⟩

section Exec

variable {path' : PathBuf} {text : String}

theorem exec_opened (hPath : path env = .ok path') (hLoads : loadFromPath json file = .ok old)
    (hText : json.toStringPretty (old.upsert token) = .ok text)
    : exec (step json env token) (initial file) [.load, .serialize, .createDir, .openFile]
        = some ⟨some [], .writing path' (utf8 text)⟩ := by
  simp [exec, execIf, step, initial, SaveState.load, SaveState.serialize, SaveState.createDir,
    SaveState.openFile, hPath, hLoads, hText]

theorem exec_saved (hPath : path env = .ok path') (hLoads : loadFromPath json file = .ok old)
    (hText : json.toStringPretty (old.upsert token) = .ok text) (hLength : 0 < (utf8 text).length)
    : exec (step json env token) (initial file)
        [.load, .serialize, .createDir, .openFile, .write (utf8 text).length, .finish]
        = some ⟨some (utf8 text), .returned (.ok path')⟩ := by
  simp [exec, execIf, step, initial, SaveState.load, SaveState.serialize, SaveState.createDir,
    SaveState.openFile, SaveState.write, SaveState.finish, hPath, hLoads, hText, hLength]

end Exec

end SaveState

/--
Wherever `save_token` is stopped, the tokens survive if and only if the file has not been opened or has
taken all bytes of the new contents.
-/
theorem run_keeps_iff (json : SerdeJson) (hDoc : json.Documented) (env : EnvVars)
    (file : Option (List UInt8)) (old : TokenStore) (token : Message.Token)
    (hLoads : loadFromPath json file = .ok old) (labels : List SaveLabel) (s : SaveState)
    (hRun : Run (SaveState.step json env token) anyStep (.initial file) labels s)
    : s.Keeps json old token
        ↔
      (labels.any SaveLabel.opens = true →
        (newContents json old token).length ≤ written labels) := by
  have hPhase : SaveState.PhaseOk json file old token labels s := by
    apply hRun.invariant_of_labels
    . exact ⟨rfl, rfl, rfl⟩
    . intro labels s label t h _ hStep
      exact SaveState.step_phaseOk hLoads h hStep
  rcases hPhase.untouched_or_opened with hUntouched | ⟨hOpened, hFailed⟩
  . have hOld : loadFromPath json s.file = .ok old := by
      rw [hUntouched.content]
      exact hLoads
    have hNot := hUntouched.notOpened
    constructor
    . intro _ hOpens
      rw [hNot] at hOpens
      contradiction
    . intro _
      exact ⟨.inl hOld, fun _ _ => hOld⟩
  . rcases hOpened.serializes with ⟨text, hText⟩
    have hContent := hOpened.content
    rw [SaveState.newContents_eq hText] at hContent hFailed ⊢
    constructor
    . intro hKeeps _
      apply Nat.le_of_not_lt
      intro hLt
      rcases hDoc.load_cut hText hLt with ⟨error, hError⟩
      rw [← hContent] at hError
      have hLoad := hKeeps.loads
      rw [hError] at hLoad
      rcases hLoad with hLoad | hLoad
      . contradiction
      . contradiction
    . intro hWhole
      have hLe := hWhole hOpened.opened
      rw [List.take_of_length_le hLe] at hContent
      constructor
      . rw [hContent]
        exact .inr (hDoc.load hText)
      . intro error hReturned
        have hLt := hFailed error hReturned
        omega

section OneHost

@[irreducible]
def oldText : String :=
  "\x7b\n  \"tokens\": [\n    \x7b\n      \"host_id\": \"00000000-0000-0000-0000-000000000007\",\n"
    ++ "      \"key_id\": \"key\",\n      \"data\": [\n        1\n      ]\n    \x7d\n  ]\n\x7d"

@[irreducible]
def newText : String :=
  "\x7b\n  \"tokens\": [\n    \x7b\n      \"host_id\": \"00000000-0000-0000-0000-000000000007\",\n"
    ++ "      \"key_id\": \"key\",\n      \"data\": [\n        3\n      ]\n    \x7d\n  ]\n\x7d"

/-
serde_json on two stores with one token: it reads and writes these two texts.
-/
def oneHostJson : SerdeJson where
  toStringPretty := fun store =>
    if store = ⟨[keyOf 1]⟩ then .ok oldText
    else if store = ⟨[keyOf 3]⟩ then .ok newText
    else .error "unexpected store"
  fromStr := fun text =>
    if text = oldText then .ok ⟨[keyOf 1]⟩
    else if text = newText then .ok ⟨[keyOf 3]⟩
    else .error "EOF while parsing a value"

theorem newText_ne : newText ≠ oldText := by decide +kernel

theorem size_oldText : oldText.utf8ByteSize = 147 := by decide +kernel

theorem size_newText : newText.utf8ByteSize = 147 := by decide +kernel

theorem toStringPretty_old : oneHostJson.toStringPretty ⟨[keyOf 1]⟩ = .ok oldText := by
  simp [oneHostJson]

theorem toStringPretty_new : oneHostJson.toStringPretty ⟨[keyOf 3]⟩ = .ok newText := by
  have hNe : (⟨[keyOf 3]⟩ : TokenStore) ≠ ⟨[keyOf 1]⟩ := by decide
  simp [oneHostJson, hNe]

theorem toStringPretty_oneHostJson {store : TokenStore} {text : String}
    (h : oneHostJson.toStringPretty store = .ok text)
    : (store = ⟨[keyOf 1]⟩ ∧ text = oldText) ∨ (store = ⟨[keyOf 3]⟩ ∧ text = newText) := by
  simp only [oneHostJson] at h
  split at h
  . next hStore =>
    injection h with h
    exact .inl ⟨hStore, h.symm⟩
  . split at h
    . next hStore =>
      injection h with h
      exact .inr ⟨hStore, h.symm⟩
    . contradiction

theorem oneHostJson_documented : oneHostJson.Documented where
  roundTrip := by
    intro store text hText
    rcases toStringPretty_oneHostJson hText with ⟨hStore, hEq⟩ | ⟨hStore, hEq⟩
    . subst hStore hEq
      exact if_pos rfl
    . subst hStore hEq
      simp only [oneHostJson, newText_ne, ↓reduceIte]
  incomplete := by
    intro store text count cut hText hCut hDecode
    have hSize : text.utf8ByteSize = 147 := by
      rcases toStringPretty_oneHostJson hText with ⟨_, hEq⟩ | ⟨_, hEq⟩
      . rw [hEq, size_oldText]
      . rw [hEq, size_newText]
    have hShort : cut.utf8ByteSize = count := by
      rw [length_utf8] at hCut
      unfold String.fromUTF8? at hDecode
      split at hDecode
      . injection hDecode with hDecode
        rw [← length_utf8, ← hDecode]
        have hBytes : utf8 (String.fromUTF8 ⟨((utf8 text).take count).toArray⟩ (by assumption))
            = (utf8 text).take count := rfl
        rw [hBytes, List.length_take, length_utf8]
        omega
      . contradiction
    rw [length_utf8, hSize] at hCut
    have hOld : cut ≠ oldText := by
      intro hEq
      rw [hEq, size_oldText] at hShort
      omega
    have hNew : cut ≠ newText := by
      intro hEq
      rw [hEq, size_newText] at hShort
      omega
    refine ⟨"EOF while parsing a value", ?_⟩
    simp only [oneHostJson, hOld, hNew, ↓reduceIte]

def homeVars : EnvVars := ⟨none, some "/home/user", none, none⟩

theorem path_homeVars : path homeVars = .ok ["/home/user", ".enody", "tokens.json"] := rfl

theorem upsert_keyOf : (⟨[keyOf 1]⟩ : TokenStore).upsert (keyOf 3) = ⟨[keyOf 3]⟩ := by decide

theorem run_keeps_oneHost
    : ∃ s : SaveState, s.file = some (utf8 newText) ∧ s.Keeps oneHostJson ⟨[keyOf 1]⟩ (keyOf 3) := by
  have hLoads := oneHostJson_documented.load toStringPretty_old
  have hText : oneHostJson.toStringPretty (upsert ⟨[keyOf 1]⟩ (keyOf 3)) = .ok newText := by
    rw [upsert_keyOf, toStringPretty_new]
  have hLength : (utf8 newText).length = 147 := by rw [length_utf8, size_newText]
  have hExec := SaveState.exec_saved path_homeVars hLoads hText (by omega)
  refine ⟨_, rfl, (run_keeps_iff oneHostJson oneHostJson_documented homeVars _ _ (keyOf 3) hLoads _ _
    (Run.of_exec hExec)).mpr ?_⟩
  intro _
  rw [SaveState.newContents_eq hText]
  simp [written, SaveLabel.written]

/-
The process is killed after it has opened the file.
-/
theorem not_run_keeps
    : ¬ ∀ (json : SerdeJson) (env : EnvVars) (file : Option (List UInt8)) (old : TokenStore)
        (token : Message.Token) (labels : List SaveLabel) (s : SaveState), json.Documented →
        loadFromPath json file = .ok old →
        Run (SaveState.step json env token) anyStep (.initial file) labels s →
        s.Keeps json old token := by
  intro hAll
  have hLoads := oneHostJson_documented.load toStringPretty_old
  have hText : oneHostJson.toStringPretty (upsert ⟨[keyOf 1]⟩ (keyOf 3)) = .ok newText := by
    rw [upsert_keyOf, toStringPretty_new]
  have hExec := SaveState.exec_opened path_homeVars hLoads hText
  have hKeeps := hAll _ _ _ _ _ _ _ oneHostJson_documented hLoads (Run.of_exec hExec)
  have hCut : 0 < (utf8 oldText).length := by
    rw [length_utf8, size_oldText]
    omega
  rcases oneHostJson_documented.load_cut toStringPretty_old hCut with ⟨error, hError⟩
  rw [List.take_zero] at hError
  have hLoad := hKeeps.loads
  rw [hError] at hLoad
  rcases hLoad with hLoad | hLoad
  . contradiction
  . contradiction

end OneHost

end TokenStore
end Enody
