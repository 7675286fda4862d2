import Enody.Serde.Deserializer
import Enody.Message

/-!
This module contains `token_store.rs`: the tokens of a host, the JSON file that keeps them, and
`save_token` as a transition system, step by step between two calls of the system. The labels say what the
system answers. An interruption leaves the file as it is in the state reached.

The crate serde_json is a parameter. The directory of the file exists or not, only whether its creation
succeeds matters.
-/

namespace Enody

structure TokenStore where
  tokens : List Message.Token
  deriving DecidableEq

namespace TokenStore

/-
`TokenStore::default`
-/
def empty : TokenStore := ⟨[]⟩

def intoTokens (store : TokenStore) : List Message.Token := store.tokens

/--
Inserts or replaces a token by host identifier.
-/
def upsert (store : TokenStore) (token : Message.Token) : TokenStore :=
  ⟨go store.tokens⟩
where
  -- The first entry of the host is replaced.
  go : List Message.Token → List Message.Token
    | [] => [token]
    | existing :: tokens =>
      if existing.hostId = token.hostId then
        token :: tokens
      else
        existing :: go tokens

/--
`to_string_pretty` and `from_str` of serde_json at the type of the store, with the texts of their errors.
-/
structure SerdeJson where
  toStringPretty : TokenStore → Except String String
  fromStr : String → Except String TokenStore

structure EnvVars where
  xdgConfigHome : Option String
  home : Option String
  userprofile : Option String
  appdata : Option String

abbrev PathBuf := List String

/-
`env::var_os` with an empty value counting as none.
-/
def varOs (value : Option String) : Option String :=
  value.filter fun text => !text.isEmpty

def configDir (env : EnvVars) : Except (Error .std) PathBuf :=
  match varOs env.xdgConfigHome with
  | some configHome => .ok [configHome, "enody"]
  | none =>
    match varOs env.home with
    | some home => .ok [home, ".enody"]
    | none =>
      match varOs env.userprofile with
      | some userprofile => .ok [userprofile, ".enody"]
      | none =>
        match varOs env.appdata with
        | some appdata => .ok [appdata, "enody"]
        | none =>
          .error (.debugText "XDG_CONFIG_HOME, HOME, APPDATA, or USERPROFILE is required")

def path (env : EnvVars) : Except (Error .std) PathBuf :=
  match configDir env with
  | .error error => .error error
  | .ok configDir => .ok (configDir ++ ["tokens.json"])

/-
`file` is what the file at the path contains, `none` when there is no such file.
-/
def loadFromPath (json : SerdeJson) (file : Option (List UInt8)) : Except (Error .std) TokenStore :=
  match file with
  | none => .ok empty
  | some bytes =>
    match String.fromUTF8? ⟨bytes.toArray⟩ with
    | none => .error (.debugText "stream did not contain valid UTF-8")
    | some contents =>
      match json.fromStr contents with
      | .error detail => .error (.debugText detail)
      | .ok store => .ok store

inductive SavePhase where
  | loading
  | serializing (path : PathBuf) (store : TokenStore)
  | creatingDir (path : PathBuf) (contents : List UInt8)
  | opening (path : PathBuf) (contents : List UInt8)
  | writing (path : PathBuf) (remaining : List UInt8)
  | returned (result : Except (Error .std) PathBuf)

structure SaveState where
  file : Option (List UInt8)
  phase : SavePhase

inductive SaveLabel where
  | load
  | loadError (detail : String)
  | serialize
  | createDir
  | createDirError (detail : String)
  | openFile
  | openError (detail : String)
  | write (count : Nat)
  | writeError (detail : String)
  | finish

namespace SaveState

def initial (file : Option (List UInt8)) : SaveState := ⟨file, .loading⟩

def fails (s : SaveState) (error : Error .std) : SaveState :=
  { s with phase := .returned (.error error) }

def load (json : SerdeJson) (env : EnvVars) (token : Message.Token) (s : SaveState)
    : Option SaveState :=
  match s.phase with
  | .loading =>
    match TokenStore.path env with
    | .error error => some (s.fails error)
    | .ok path =>
      match loadFromPath json s.file with
      | .error error => some (s.fails error)
      | .ok store => some { s with phase := .serializing path (store.upsert token) }
  | _ => none

def loadError (env : EnvVars) (s : SaveState) (detail : String) : Option SaveState :=
  match s.phase with
  | .loading =>
    match TokenStore.path env with
    | .error error => some (s.fails error)
    | .ok _ => some (s.fails (.debugText detail))
  | _ => none

def serialize (json : SerdeJson) (s : SaveState) : Option SaveState :=
  match s.phase with
  | .serializing path store =>
    match json.toStringPretty store with
    | .error detail => some (s.fails (.debugText detail))
    | .ok contents => some { s with phase := .creatingDir path (Serde.utf8 contents) }
  | _ => none

def createDir (s : SaveState) : Option SaveState :=
  match s.phase with
  | .creatingDir path contents => some { s with phase := .opening path contents }
  | _ => none

def createDirError (s : SaveState) (detail : String) : Option SaveState :=
  match s.phase with
  | .creatingDir _ _ => some (s.fails (.debugText detail))
  | _ => none

/-
`create(true).truncate(true)`: the file is there and empty.
-/
def openFile (s : SaveState) : Option SaveState :=
  match s.phase with
  | .opening path contents => some ⟨some [], .writing path contents⟩
  | _ => none

def openError (s : SaveState) (detail : String) : Option SaveState :=
  match s.phase with
  | .opening _ _ => some (s.fails (.debugText detail))
  | _ => none

/-
One turn of `write_all`: the file takes the first `count` of the remaining bytes.
-/
def write (s : SaveState) (count : Nat) : Option SaveState :=
  match s.phase with
  | .writing path remaining =>
    if 0 < count ∧ count ≤ remaining.length then
      some ⟨some (s.file.getD [] ++ remaining.take count), .writing path (remaining.drop count)⟩
    else
      none
  | _ => none

/-
`write_all` returns at once when nothing remains.
-/
def writeError (s : SaveState) (detail : String) : Option SaveState :=
  match s.phase with
  | .writing _ (_ :: _) => some (s.fails (.debugText detail))
  | _ => none

def finish (s : SaveState) : Option SaveState :=
  match s.phase with
  | .writing path [] => some { s with phase := .returned (.ok path) }
  | _ => none

/-
`save_token`
-/
def step (json : SerdeJson) (env : EnvVars) (token : Message.Token) (s : SaveState)
    : SaveLabel → Option SaveState
  | .load => s.load json env token
  | .loadError detail => s.loadError env detail
  | .serialize => s.serialize json
  | .createDir => s.createDir
  | .createDirError detail => s.createDirError detail
  | .openFile => s.openFile
  | .openError detail => s.openError detail
  | .write count => s.write count
  | .writeError detail => s.writeError detail
  | .finish => s.finish

end SaveState

end TokenStore
end Enody
