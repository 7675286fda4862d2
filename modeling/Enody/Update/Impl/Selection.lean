import Enody.Message.Version
import Enody.Text
import Enody.Update.Impl
import Mathlib.Data.List.Sort

/-!
This module contains the choice of a firmware version of `update.rs`: the menu of `select_firmware_version`
and what it makes of the line that is typed, and `update_available`.
-/

namespace Enody
namespace Update

open Message (Version)

/--
What the terminal does: whether standard output can be flushed, and what `read_line` yields. At the end of the
input this is the empty line.
-/
structure Stdio where
  flush : Except String Unit
  readLine : Except String String

def indexedVersions (versions : List FirmwareVersion) : List (Nat × Version) :=
  versions.zipIdx.filterMap fun (fv, i) =>
    match Version.fromStr fv.version with
    | .error _ => none
    | .ok version => some (i, version)

/-
`sort_by`, newest first. Equal versions keep their order.
-/
def newestFirst (indexed : List (Nat × Version)) : List (Nat × Version) :=
  indexed.insertionSort fun a b => (Version.cmp b.2 a.2).isLE

def versionMarkers (recommendedVersion currentVersion ver : Version) : String :=
  let markers :=
    (if ver = recommendedVersion then ["recommended"] else [])
      ++ (if ver = currentVersion then ["current"] else [])
  if markers.isEmpty then "" else " (" ++ ", ".intercalate markers ++ ")"

/-
The lines of the menu. The indices are those of the manifest.
-/
def versionMenu (versions : List FirmwareVersion) (recommendedVersion currentVersion : Version)
    (indexed : List (Nat × Version))
    : List String :=
  indexed.zipIdx.map fun ((origIdx, ver), displayIdx) =>
    "  " ++ (displayIdx + 1).repr ++ ". "
      ++ ((versions[origIdx]?).map FirmwareVersion.version).getD ""
      ++ versionMarkers recommendedVersion currentVersion ver

def selectionPrompt (count : Nat) : String :=
  "Select version"
    ++ (if count > 1 then " [1-" ++ count.repr ++ ", default: 1]" else " [default: 1]") ++ ": "

theorem index_lt_of_inRange {selection length : Nat} (h : ¬ (selection < 1 ∨ selection > length))
    : selection - 1 < length := by
  omega

/-
What is typed: the empty line selects the first entry of the menu.
-/
def chosenVersion (indexed : List (Nat × Version)) (line : String) : Except (Error .std) Nat :=
  let trimmed := trim line
  match if trimmed.isEmpty then some 1 else parseUsize trimmed with
  | none =>
    .error (.debugText ("Invalid selection '" ++ trimmed ++ "'. Expected a number between 1 and "
      ++ indexed.length.repr ++ "."))
  | some selection =>
    if h : selection < 1 ∨ selection > indexed.length then
      .error (.debugText ("Selection " ++ selection.repr ++ " is out of range. Expected 1..="
        ++ indexed.length.repr ++ "."))
    else
      .ok (indexed.get ⟨selection - 1, index_lt_of_inRange h⟩).1

def selectFirmwareVersion (stdio : Stdio) (versions : List FirmwareVersion) (currentVersion : Version)
    : List String × Except (Error .std) Nat :=
  if versions.isEmpty then
    ([], .error (.debugText "No firmware versions available."))
  else
    match newestFirst (indexedVersions versions) with
    | [] => ([], .error (.debugText "No firmware versions with valid semver found."))
    | (recommendedIdx, recommendedVersion) :: rest =>
      let indexed := (recommendedIdx, recommendedVersion) :: rest
      let printed := "Available firmware versions:"
        :: versionMenu versions recommendedVersion currentVersion indexed ++ [selectionPrompt indexed.length]
      match stdio.flush with
      | .error detail => (printed, .error (.debugText ("Failed to flush stdout: " ++ detail)))
      | .ok () =>
        match stdio.readLine with
        | .error detail =>
          (printed, .error (.debugText ("Failed to read version selection: " ++ detail)))
        | .ok line => (printed, chosenVersion indexed line)

def hasNewer (versions : List FirmwareVersion) (current : Version) : Bool :=
  versions.any fun fv =>
    match Version.fromStr fv.version with
    | .error _ => false
    | .ok version => Version.cmp version current == .gt

def updateAvailable (crates : Crates) (http : Nat → HttpOutcome) (info : Message.HostInfo)
    (s : UpdateState)
    : UpdateState × Except (Error .std) Bool :=
  match fetchFirmwareManifest crates http info.identifier s with
  | (s, .error error) => (s, .error error)
  | (s, .ok versions) => (s, .ok (hasNewer versions info.version))

end Update
end Enody
