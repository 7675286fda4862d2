import Enody.Update.Impl.Selection
import Enody.Message.Lemmas.VersionText

/-!
This module contains which entries of a manifest `select_firmware_version` returns, and that `update_available`
agrees with the entry that is selected by default.
-/

namespace Enody
namespace Update

open Message (Version)

def ParsesTo (versions : List FirmwareVersion) (idx : Nat) (version : Version) : Prop :=
  ∃ fv, versions[idx]? = some fv ∧ Version.fromStr fv.version = .ok version

theorem ParsesTo.unique {versions : List FirmwareVersion} {idx : Nat} {version other : Version}
    (hVersion : ParsesTo versions idx version) (hOther : ParsesTo versions idx other)
    : version = other := by
  rcases hVersion with ⟨fv, hEntry, hVersion⟩
  rcases hOther with ⟨fv', hEntry', hOther⟩
  rw [hEntry] at hEntry'
  cases hEntry'
  rw [hVersion] at hOther
  cases hOther
  rfl

def displayOrder (versions : List FirmwareVersion) : List Nat :=
  (newestFirst (indexedVersions versions)).map Prod.fst

def selected (versions : List FirmwareVersion) (currentVersion : Version) (line : String) : Option Nat :=
  (selectFirmwareVersion ⟨.ok (), .ok line⟩ versions currentVersion).2.toOption

/--
The order of the menu, the versions that are returned and the availability of an update agree.
-/
structure SelectionAgrees (versions : List FirmwareVersion) (currentVersion : Version) : Prop where
  byDefault : ∀ line, trim line = "" → (∃ idx version, ParsesTo versions idx version) →
    ∃ idx version, selected versions currentVersion line = some idx ∧ ParsesTo versions idx version
      ∧ ∀ other otherVersion, ParsesTo versions other otherVersion →
        (Version.cmp otherVersion version).isLE = true
  everyLine : ∀ line, trim line ≠ "" → selected versions currentVersion line =
    (parseUsize (trim line)).bind fun selection =>
      if 1 ≤ selection then (displayOrder versions)[selection - 1]? else none
  everyNumber : ∀ selection, 1 ≤ selection → selection < 2 ^ 64 →
    selected versions currentVersion selection.repr = (displayOrder versions)[selection - 1]?
  exactlyOnce : (displayOrder versions).Nodup
    ∧ ∀ idx, idx ∈ displayOrder versions ↔ ∃ version, ParsesTo versions idx version
  nonIncreasing : (displayOrder versions).Pairwise fun idx next =>
    ∀ version nextVersion, ParsesTo versions idx version → ParsesTo versions next nextVersion →
      (Version.cmp nextVersion version).isLE = true
  onlyParsed : ∀ stdio idx, (selectFirmwareVersion stdio versions currentVersion).2 = .ok idx →
    ∃ version, ParsesTo versions idx version
  available : ∀ crates http info s, info.version = currentVersion →
    (fetchFirmwareManifest crates http info.identifier s).2 = .ok versions →
    ((updateAvailable crates http info s).2 = .ok true
        ↔
      ∃ idx version, selected versions currentVersion "" = some idx ∧ ParsesTo versions idx version
        ∧ Version.cmp version currentVersion = .gt)

section Order

def newer (a b : Nat × Version) : Prop := (Version.cmp b.2 a.2).isLE = true

instance : DecidableRel newer := fun a b => inferInstanceAs (Decidable ((Version.cmp b.2 a.2).isLE = true))

theorem newer_iff {a b : Nat × Version} : newer a b ↔ b.2.rank ≤ a.2.rank := Version.isLE_cmp_iff

instance : Std.Total newer where
  total a b := by
    rw [newer_iff, newer_iff]
    omega

instance : IsTrans (Nat × Version) newer where
  trans a b c := by
    rw [newer_iff, newer_iff, newer_iff]
    omega

theorem mem_indexedVersions {versions : List FirmwareVersion} {idx : Nat} {version : Version}
    : (idx, version) ∈ indexedVersions versions ↔ ParsesTo versions idx version := by
  unfold indexedVersions ParsesTo
  rw [List.mem_filterMap]
  constructor
  . rintro ⟨⟨fv, i⟩, hMem, hParse⟩
    rw [List.mem_zipIdx_iff_getElem?] at hMem
    cases hVersion : Version.fromStr fv.version with
    | error detail => simp [hVersion] at hParse
    | ok version' =>
      simp only [hVersion, Option.some.injEq, Prod.mk.injEq] at hParse
      rcases hParse with ⟨hIdx, hSame⟩
      subst hIdx
      subst hSame
      exact ⟨fv, hMem, hVersion⟩
  . rintro ⟨fv, hEntry, hVersion⟩
    refine ⟨(fv, idx), List.mem_zipIdx_iff_getElem?.mpr hEntry, ?_⟩
    simp [hVersion]

theorem pairwise_indexedVersions (versions : List FirmwareVersion)
    : (indexedVersions versions).Pairwise fun a b => a.1 < b.1 := by
  have hIndices : versions.zipIdx.Pairwise fun a b => a.2 < b.2 := by
    have hRange := List.pairwise_lt_range' (s := 0) (n := versions.length) 1
    rw [← List.zipIdx_map_snd, List.pairwise_map] at hRange
    exact hRange
  unfold indexedVersions
  rw [List.pairwise_filterMap]
  apply hIndices.imp
  rintro ⟨fv, i⟩ ⟨fv', i'⟩ hLt a hA b hB
  cases hVersion : Version.fromStr fv.version with
  | error detail => simp [hVersion] at hA
  | ok version =>
    cases hVersion' : Version.fromStr fv'.version with
    | error detail => simp [hVersion'] at hB
    | ok version' =>
      simp only [hVersion, Option.some.injEq] at hA
      simp only [hVersion', Option.some.injEq] at hB
      subst hA
      subst hB
      exact hLt

theorem perm_newestFirst (indexed : List (Nat × Version)) : (newestFirst indexed).Perm indexed :=
  List.perm_insertionSort _ _

theorem pairwise_newestFirst (indexed : List (Nat × Version)) : (newestFirst indexed).Pairwise newer :=
  List.pairwise_insertionSort newer indexed

theorem mem_newestFirst {versions : List FirmwareVersion} {idx : Nat} {version : Version}
    : (idx, version) ∈ newestFirst (indexedVersions versions) ↔ ParsesTo versions idx version := by
  rw [(perm_newestFirst _).mem_iff, mem_indexedVersions]

theorem mem_displayOrder {versions : List FirmwareVersion} {idx : Nat}
    : idx ∈ displayOrder versions ↔ ∃ version, ParsesTo versions idx version := by
  simp [displayOrder, mem_newestFirst]

theorem nodup_displayOrder (versions : List FirmwareVersion) : (displayOrder versions).Nodup := by
  have hIndexed : ((indexedVersions versions).map Prod.fst).Nodup := by
    unfold List.Nodup
    rw [List.pairwise_map]
    apply (pairwise_indexedVersions versions).imp
    intro a b hLt
    exact Nat.ne_of_lt hLt
  exact ((perm_newestFirst _).map Prod.fst).nodup_iff.mpr hIndexed

theorem pairwise_displayOrder (versions : List FirmwareVersion)
    : (displayOrder versions).Pairwise fun idx next =>
        ∀ version nextVersion, ParsesTo versions idx version → ParsesTo versions next nextVersion →
          (Version.cmp nextVersion version).isLE = true := by
  unfold displayOrder
  rw [List.pairwise_map]
  apply List.Pairwise.imp_of_mem ?_ (pairwise_newestFirst _)
  intro a b hA hB hNewer version nextVersion hVersion hNext
  rw [hVersion.unique (mem_newestFirst.mp hA), hNext.unique (mem_newestFirst.mp hB)]
  exact hNewer

end Order

section Line

theorem toOption_chosenVersion (indexed : List (Nat × Version)) (line : String)
    : (chosenVersion indexed line).toOption
        =
      (if trim line = "" then some 1 else parseUsize (trim line)).bind fun selection =>
        if 1 ≤ selection then (indexed.map Prod.fst)[selection - 1]? else none := by
  unfold chosenVersion
  simp only [String.isEmpty_iff]
  generalize (if trim line = "" then some 1 else parseUsize (trim line)) = typed
  cases typed with
  | none => rfl
  | some selection =>
    simp only [Option.bind_some]
    split
    next hRange =>
      rcases hRange with hLow | hHigh
      . rw [if_neg (by omega)]
        rfl
      . split
        . rw [List.getElem?_eq_none (by rw [List.length_map]; omega)]
          rfl
        . rfl
    next hRange =>
      have hIdx : selection - 1 < indexed.length := by omega
      rw [if_pos (by omega), List.getElem?_map, List.getElem?_eq_getElem hIdx]
      rfl

theorem selected_eq (versions : List FirmwareVersion) (currentVersion : Version) (line : String)
    : selected versions currentVersion line
        =
      (chosenVersion (newestFirst (indexedVersions versions)) line).toOption := by
  have hEmpty : (chosenVersion [] line).toOption = none := by
    rw [toOption_chosenVersion]
    cases (if trim line = "" then some 1 else parseUsize (trim line)) <;> simp
  unfold selected selectFirmwareVersion
  cases versions with
  | nil =>
    have hMenu : newestFirst (indexedVersions []) = [] := rfl
    rw [hMenu, hEmpty]
    rfl
  | cons fv rest =>
    simp only [List.isEmpty_cons, Bool.false_eq_true, if_false]
    split
    next hMenu =>
      rw [hMenu, hEmpty]
      rfl
    next hMenu => rw [hMenu]

theorem selected_of_trim_eq_empty {versions : List FirmwareVersion} {currentVersion : Version}
    {line : String} (hEmpty : trim line = "")
    : selected versions currentVersion line = (displayOrder versions)[0]? := by
  rw [selected_eq, toOption_chosenVersion, if_pos hEmpty]
  rfl

theorem selected_of_trim_ne_empty {versions : List FirmwareVersion} {currentVersion : Version}
    {line : String} (hTyped : trim line ≠ "")
    : selected versions currentVersion line =
        (parseUsize (trim line)).bind fun selection =>
          if 1 ≤ selection then (displayOrder versions)[selection - 1]? else none := by
  rw [selected_eq, toOption_chosenVersion, if_neg hTyped]
  rfl

theorem selected_repr {versions : List FirmwareVersion} {currentVersion : Version} {selection : Nat}
    (hLow : 1 ≤ selection) (hHigh : selection < 2 ^ 64)
    : selected versions currentVersion selection.repr = (displayOrder versions)[selection - 1]? := by
  have hTyped : trim selection.repr ≠ "" := by
    rw [trim_repr]
    exact Nat.repr_ne_empty
  rw [selected_of_trim_ne_empty hTyped, trim_repr, parseUsize_repr hHigh, Option.bind_some, if_pos hLow]

theorem selected_mem {versions : List FirmwareVersion} {currentVersion : Version} {line : String} {idx : Nat}
    (hSelected : selected versions currentVersion line = some idx)
    : idx ∈ displayOrder versions := by
  by_cases hTyped : trim line = ""
  . rw [selected_of_trim_eq_empty hTyped] at hSelected
    exact List.mem_of_getElem? hSelected
  . rw [selected_of_trim_ne_empty hTyped, Option.bind_eq_some_iff] at hSelected
    rcases hSelected with ⟨selection, _, hIdx⟩
    split at hIdx
    . exact List.mem_of_getElem? hIdx
    . simp only [reduceCtorEq] at hIdx

theorem selected_of_ok {stdio : Stdio} {versions : List FirmwareVersion} {currentVersion : Version} {idx : Nat}
    (hOk : (selectFirmwareVersion stdio versions currentVersion).2 = .ok idx)
    : ∃ line, stdio.readLine = .ok line ∧ selected versions currentVersion line = some idx := by
  rcases stdio with ⟨flush, readLine⟩
  unfold selectFirmwareVersion at hOk
  split at hOk
  . contradiction
  . rename_i hVersions
    split at hOk
    . contradiction
    . rename_i hMenu
      cases flush with
      | error detail => contradiction
      | ok _ =>
        cases readLine with
        | error detail => contradiction
        | ok line =>
          refine ⟨line, rfl, ?_⟩
          rw [selected_eq, hMenu]
          simp only at hOk
          rw [hOk]
          rfl

theorem default_maximal {versions : List FirmwareVersion} (hSome : ∃ idx version, ParsesTo versions idx version)
    : ∃ idx version, (displayOrder versions)[0]? = some idx ∧ ParsesTo versions idx version
        ∧ ∀ other otherVersion, ParsesTo versions other otherVersion →
          (Version.cmp otherVersion version).isLE = true := by
  have hNewest := pairwise_newestFirst (indexedVersions versions)
  rcases hSome with ⟨someIdx, someVersion, hSome⟩
  cases hMenu : newestFirst (indexedVersions versions) with
  | nil =>
    have hMem := mem_newestFirst.mpr hSome
    rw [hMenu] at hMem
    contradiction
  | cons first rest =>
    rcases first with ⟨idx, version⟩
    rw [hMenu, List.pairwise_cons] at hNewest
    refine ⟨idx, version, ?_, ?_, ?_⟩
    . rw [displayOrder, hMenu]
      rfl
    . apply mem_newestFirst.mp
      rw [hMenu]
      exact List.mem_cons_self
    . intro other otherVersion hOther
      have hMem := mem_newestFirst.mpr hOther
      rw [hMenu] at hMem
      rcases List.mem_cons.mp hMem with hFirst | hRest
      . cases hFirst
        exact Version.isLE_cmp_iff.mpr (Nat.le_refl _)
      . exact hNewest.1 _ hRest

end Line

section Menu

end Menu

section Available

theorem hasNewer_iff {versions : List FirmwareVersion} {current : Version}
    : hasNewer versions current = true
        ↔
      ∃ idx version, ParsesTo versions idx version ∧ Version.cmp version current = .gt := by
  unfold hasNewer
  rw [List.any_eq_true]
  constructor
  . rintro ⟨fv, hMem, hNewer⟩
    rcases List.mem_iff_getElem?.mp hMem with ⟨idx, hEntry⟩
    cases hVersion : Version.fromStr fv.version with
    | error detail => simp [hVersion] at hNewer
    | ok version =>
      simp only [hVersion, beq_iff_eq] at hNewer
      exact ⟨idx, version, ⟨fv, hEntry, hVersion⟩, hNewer⟩
  . rintro ⟨idx, version, ⟨fv, hEntry, hVersion⟩, hNewer⟩
    refine ⟨fv, List.mem_of_getElem? hEntry, ?_⟩
    simp [hVersion, hNewer]

theorem updateAvailable_of_fetched {crates : Crates} {http : Nat → HttpOutcome} {info : Message.HostInfo}
    {s : UpdateState} {versions : List FirmwareVersion}
    (hFetched : (fetchFirmwareManifest crates http info.identifier s).2 = .ok versions)
    : (updateAvailable crates http info s).2 = .ok (hasNewer versions info.version) := by
  unfold updateAvailable
  cases hFetch : fetchFirmwareManifest crates http info.identifier s with
  | mk s' fetched =>
    rw [hFetch] at hFetched
    simp only at hFetched
    subst hFetched
    rfl

theorem hasNewer_iff_default {versions : List FirmwareVersion} {current : Version}
    : hasNewer versions current = true
        ↔
      ∃ idx version, selected versions current "" = some idx ∧ ParsesTo versions idx version
        ∧ Version.cmp version current = .gt := by
  rw [hasNewer_iff]
  constructor
  . rintro ⟨idx, version, hParses, hNewer⟩
    rcases default_maximal ⟨idx, version, hParses⟩ with ⟨first, newest, hFirst, hNewest, hMaximal⟩
    have hLe := Version.isLE_cmp_iff.mp (hMaximal idx version hParses)
    have hLt := Version.cmp_eq_gt_iff.mp hNewer
    refine ⟨first, newest, ?_, hNewest, Version.cmp_eq_gt_iff.mpr (by omega)⟩
    rw [selected_of_trim_eq_empty trim_empty, hFirst]
  . rintro ⟨idx, version, _, hParses, hNewer⟩
    exact ⟨idx, version, hParses, hNewer⟩

end Available

/--
`select_firmware_version` and `update_available` agree for every manifest and every current version.
-/
theorem selectFirmwareVersion_agrees (versions : List FirmwareVersion) (currentVersion : Version)
    : SelectionAgrees versions currentVersion where
  byDefault line hEmpty hSome := by
    rw [selected_of_trim_eq_empty hEmpty]
    exact default_maximal hSome
  everyLine line hTyped := selected_of_trim_ne_empty hTyped
  everyNumber selection hLow hHigh := selected_repr hLow hHigh
  exactlyOnce := ⟨nodup_displayOrder versions, fun idx => mem_displayOrder⟩
  nonIncreasing := pairwise_displayOrder versions
  onlyParsed stdio idx hOk := by
    rcases selected_of_ok hOk with ⟨line, _, hSelected⟩
    exact mem_displayOrder.mp (selected_mem hSelected)
  available crates http info s hCurrent hFetched := by
    subst hCurrent
    rw [updateAvailable_of_fetched hFetched, Except.ok.injEq]
    exact hasNewer_iff_default

end Update
end Enody
