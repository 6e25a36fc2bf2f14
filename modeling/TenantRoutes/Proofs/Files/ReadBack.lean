import Mathlib.Data.List.Infix
import Mathlib.Data.List.Nodup
import TenantRoutes.Files.Tree

/-! Reading back what was written. Writing makes or replaces one file in a directory that is there,
so it changes no directory, and the path that led to the place of the file leads to the file. Where
no location has two files, a write is also the only change to be found afterwards. -/
namespace TenantRoutes.FileTree

variable {tree : FileTree} {location directory : Location} {content : ByteArray}

theorem isDirectory_iff :
    tree.isDirectory location = true ↔
      location <+: tree.workingDirectory ∨
        ∃ file ∈ tree.files, location <+: file.1 ∧ location ≠ file.1 := by
  simp [isDirectory, List.isPrefixOf_iff_prefix]

/-- Whatever lies on the way to a directory is a directory. -/
theorem isDirectory_above (hPrefix : location <+: directory)
    (hDirectory : tree.isDirectory directory = true) : tree.isDirectory location = true := by
  rw [isDirectory_iff] at hDirectory ⊢
  rcases hDirectory with hWorking | ⟨file, hFile, hInside, hNe⟩
  · exact Or.inl (hPrefix.trans hWorking)
  · refine Or.inr ⟨file, hFile, hPrefix.trans hInside, ?_⟩
    rintro rfl
    exact hNe (hInside.eq_of_length_le hPrefix.length_le)

/-- Where a file may be written: in a directory, where no directory is. -/
structure IsWritable (tree : FileTree) (location : Location) : Prop where
  notDirectory : tree.isDirectory location = false
  inDirectory : ∃ directory name, location = directory ++ [name] ∧
    tree.isDirectory directory = true

/-- Writing a file makes no directory and removes none. -/
theorem isDirectory_put (hWritable : tree.IsWritable location) (other : Location) :
    (tree.put location content).isDirectory other = tree.isDirectory other := by
  obtain ⟨directory, name, hLocation, hDirectory⟩ := hWritable.inDirectory
  rw [Bool.eq_iff_iff]
  constructor
  · intro hOther
    rw [isDirectory_iff] at hOther
    rcases hOther with hWorking | ⟨file, hFile, hInside, hNe⟩
    · exact isDirectory_iff.mpr (Or.inl hWorking)
    · rcases List.mem_append.mp hFile with hKept | hNew
      · exact isDirectory_iff.mpr (Or.inr ⟨file, List.mem_of_mem_filter hKept, hInside, hNe⟩)
      · rw [List.mem_singleton] at hNew
        subst hNew
        -- A directory above the new file is the directory of the file or one above that.
        refine isDirectory_above ?_ hDirectory
        subst hLocation
        exact (List.prefix_concat_iff.mp hInside).resolve_left hNe
  · intro hOther
    rw [isDirectory_iff] at hOther ⊢
    rcases hOther with hWorking | ⟨file, hFile, hInside, hNe⟩
    · exact Or.inl hWorking
    · by_cases hSame : file.1 = location
      · exact Or.inr ⟨(location, content), List.mem_append_right _ (List.mem_singleton_self _),
          hSame ▸ hInside, hSame ▸ hNe⟩
      · refine Or.inr ⟨file, List.mem_append_left _ (List.mem_filter.mpr ⟨hFile, ?_⟩), hInside, hNe⟩
        exact bne_iff_ne.mpr hSame

theorem content?_put : (tree.put location content).content? location = some content := by
  have hKept : (tree.files.filter fun file => file.1 != location).find?
      (fun file => file.1 == location) = none := by
    rw [List.find?_eq_none]
    intro file hFile
    simpa using (List.mem_filter.mp hFile).2
  rw [content?, put, List.find?_append, hKept]
  simp

/-- Where a file may be written or replaced. -/
def Place.location? : Place → Option Location
  | .file location _ | .vacant location => some location
  | .directory | .slashed _ => none

theorem location?_stopAt {failure : FileError} {rest : List String} {place : Place}
    (hStop : stopAt failure rest = .ok place) : place.location? = none := by
  unfold stopAt at hStop
  split at hStop
  · rw [← Except.ok.inj hStop]
    rfl
  · simp at hStop

/-- A walk over a name of no directory, on to a place for a file, is at its last name. -/
theorem walk_last {name : String} {rest : List String} {place : Place}
    (hStay : ¬ (name = "" ∨ name = ".")) (hUp : name ≠ "..")
    (hInner : tree.isDirectory (directory ++ [name]) ≠ true)
    (hWalk : tree.walk directory (name :: rest) = .ok place)
    (hPlace : place.location? = some location) :
    name.utf8ByteSize ≤ 255 ∧ rest = [] ∧ directory ++ [name] = location := by
  rw [walk, if_neg hStay, if_neg hUp] at hWalk
  by_cases hLong : 255 < name.utf8ByteSize
  · rw [if_pos hLong] at hWalk
    simp [location?_stopAt hWalk] at hPlace
  simp only [if_neg hLong, if_neg hInner] at hWalk
  refine ⟨Nat.le_of_not_lt hLong, ?_⟩
  cases rest with
  | nil =>
      cases hOld : tree.content? (directory ++ [name]) <;>
        · simp only [hOld, List.isEmpty_nil, if_true, Except.ok.injEq] at hWalk
          subst hWalk
          exact ⟨rfl, Option.some.inj hPlace⟩
  | cons next later =>
      cases hOld : tree.content? (directory ++ [name]) <;>
        · simp only [hOld] at hWalk
          simp [location?_stopAt hWalk] at hPlace

/-- Where a walk ends, a file may be written, and every tree with the same directories and a file
there is walked to that file. -/
theorem walk_location? {names : List String} {place : Place}
    (hDirectory : tree.isDirectory directory = true) (hWalk : tree.walk directory names = .ok place)
    (hPlace : place.location? = some location) :
    tree.IsWritable location ∧
      ∀ other : FileTree, (∀ l, other.isDirectory l = tree.isDirectory l) →
        other.content? location = some content →
        other.walk directory names = .ok (.file location content) := by
  induction names generalizing directory with
  | nil =>
      rw [walk, Except.ok.injEq] at hWalk
      subst hWalk
      simp [Place.location?] at hPlace
  | cons name rest ih =>
      by_cases hStay : name = "" ∨ name = "."
      · simp only [walk, if_pos hStay] at hWalk ⊢
        exact ih hDirectory hWalk
      by_cases hUp : name = ".."
      · simp only [walk, if_neg hStay, if_pos hUp] at hWalk ⊢
        exact ih (isDirectory_above (List.dropLast_prefix directory) hDirectory) hWalk
      by_cases hInner : tree.isDirectory (directory ++ [name]) = true
      · by_cases hLong : 255 < name.utf8ByteSize
        · rw [walk, if_neg hStay, if_neg hUp, if_pos hLong] at hWalk
          simp [location?_stopAt hWalk] at hPlace
        simp only [walk, if_neg hStay, if_neg hUp, if_neg hLong, if_pos hInner] at hWalk ⊢
        obtain ⟨hWritable, hOther⟩ := ih hInner hWalk
        refine ⟨hWritable, fun other hSame hContent => ?_⟩
        rw [hSame, if_pos hInner]
        exact hOther other hSame hContent
      · obtain ⟨hSize, rfl, rfl⟩ := walk_last hStay hUp hInner hWalk hPlace
        refine ⟨⟨Bool.eq_false_iff.mpr hInner, directory, name, rfl, hDirectory⟩, ?_⟩
        intro other hSame hContent
        simp only [walk, if_neg hStay, if_neg hUp, if_neg (Nat.not_lt.mpr hSize)]
        rw [hSame, if_neg hInner, hContent]
        rfl

/-- The path to a place where a file may be written leads to the file once it is there. -/
theorem place_put {path : String} {place : Place} (hPlace : tree.place path = .ok place)
    (hLocation : place.location? = some location) :
    (tree.put location content).place path = .ok (.file location content) := by
  have hStart : tree.isDirectory
      (if path.toList.head? = some '/' then [] else tree.workingDirectory) = true := by
    rw [isDirectory_iff]
    left
    split_ifs
    · exact List.nil_prefix
    · exact List.prefix_rfl
  unfold FileTree.place at hPlace ⊢
  by_cases hLong : maxPathSize < path.utf8ByteSize
  · simp [hLong] at hPlace
  · rw [if_neg hLong] at hPlace ⊢
    obtain ⟨hWritable, hOther⟩ := walk_location? hStart hPlace hLocation
    exact hOther _ (isDirectory_put hWritable) content?_put

theorem content?_put_of_ne {other : Location} (hOther : other ≠ location) :
    (tree.put location content).content? other = tree.content? other := by
  have hNew : [(location, content)].find? (fun file => file.1 == other) = none := by
    simpa using hOther.symm
  have hKept : (tree.files.filter fun file => file.1 != location).find?
      (fun file => file.1 == other) = tree.files.find? fun file => file.1 == other := by
    rw [List.find?_filter]
    congr 1
    funext file
    by_cases hFile : file.1 = other
    · simp [hFile, hOther]
    · simp [hFile]
  rw [content?, put, List.find?_append, hKept, hNew, Option.or_none, content?]

/-- Writing puts the content where the path leads, then and afterwards. -/
theorem write_eq_ok {path : String} {written : FileTree}
    (hWrite : tree.write path content = .ok written) :
    ∃ location, tree.put location content = written ∧
      written.place path = .ok (.file location content) := by
  unfold write at hWrite
  cases hPlace : tree.place path with
  | error failure => simp [hPlace, bind, Except.bind] at hWrite
  | ok place =>
      cases place with
      | file location old | vacant location =>
          obtain rfl : tree.put location content = written := by
            simpa [hPlace, bind, Except.bind] using hWrite
          exact ⟨location, rfl, place_put hPlace rfl⟩
      | directory | slashed failure => simp [hPlace, bind, Except.bind] at hWrite

theorem read_of_place {path : String}
    (hPlace : tree.place path = .ok (.file location content)) : tree.read path = .ok content := by
  rw [read, hPlace]
  rfl

/-- A file that was written holds what was written. -/
theorem read_write {path : String} {written : FileTree}
    (hWrite : tree.write path content = .ok written) : written.read path = .ok content := by
  obtain ⟨location, _, hPlace⟩ := write_eq_ok hWrite
  exact read_of_place hPlace

/-- One tree is another with a file made or replaced where a path leads, and no other file is
touched. -/
structure OnlyWrites (before after : FileTree) (path : String) (content : ByteArray) : Prop where
  read : after.read path = .ok content
  others : ∃ location, after.place path = .ok (.file location content) ∧
    ∀ other, other ≠ location → after.content? other = before.content? other

theorem onlyWrites_write {path : String} {written : FileTree}
    (hWrite : tree.write path content = .ok written) : tree.OnlyWrites written path content := by
  obtain ⟨location, rfl, hPlace⟩ := write_eq_ok hWrite
  exact ⟨read_of_place hPlace, location, hPlace, fun _ hOther => content?_put_of_ne hOther⟩

/-- Contents that compare as equal are equal. -/
instance : LawfulBEq ByteArray where
  eq_of_beq := by
    rintro ⟨first⟩ ⟨second⟩ hSame
    rw [show first = second from eq_of_beq hSame]
  rfl := by
    rintro ⟨bytes⟩
    exact beq_self_eq_true bytes

/-- No location has two files. -/
def HasDistinctFiles (tree : FileTree) : Prop :=
  (tree.files.map (·.1)).Nodup

theorem content?_of_mem (hDistinct : tree.HasDistinctFiles)
    (hFile : (location, content) ∈ tree.files) : tree.content? location = some content := by
  rw [content?]
  cases hFound : tree.files.find? fun file => file.1 == location with
  | none => exact absurd (beq_self_eq_true location) (List.find?_eq_none.mp hFound _ hFile)
  | some found =>
      have hLocation : found.1 = location := by simpa using List.find?_some hFound
      have hSame : found = (location, content) :=
        List.inj_on_of_nodup_map hDistinct (List.mem_of_find?_eq_some hFound) hFile hLocation
      rw [hSame, Option.map_some]

theorem put_hasDistinctFiles (hDistinct : tree.HasDistinctFiles) :
    (tree.put location content).HasDistinctFiles := by
  have hKept : ((tree.files.filter fun file => file.1 != location).map (·.1)).Nodup :=
    hDistinct.sublist (List.filter_sublist.map _)
  rw [HasDistinctFiles, put, List.map_append, List.map_singleton, ← List.concat_eq_append,
    List.nodup_concat]
  refine ⟨?_, hKept⟩
  rw [List.mem_map]
  rintro ⟨file, hFile, hLocation⟩
  exact bne_iff_ne.mp (List.mem_filter.mp hFile).2 hLocation

/-- Only a file that a tree does not hold as it is counts as a change. -/
theorem changesSince_eq_nil {before after : FileTree}
    (hHeld : ∀ file ∈ after.files, before.content? file.1 = some file.2) :
    before.changesSince after = [] := by
  rw [changesSince, List.filterMap_eq_nil_iff]
  intro file hFile
  simp [hHeld file hFile]

theorem changesSince_self (hDistinct : tree.HasDistinctFiles) : tree.changesSince tree = [] :=
  changesSince_eq_nil fun _ hFile => content?_of_mem hDistinct hFile

/-- A file is changed when it is put below the working directory, where there was none or one with
another content. Nothing else is changed. -/
theorem changesSince_put (hDistinct : tree.HasDistinctFiles) :
    tree.changesSince (tree.put location content) =
      if tree.workingDirectory.isPrefixOf location && tree.content? location != some content then
        [("/".intercalate (location.drop tree.workingDirectory.length), content)]
      else [] := by
  have hKept : tree.changesSince
      { tree with files := tree.files.filter fun file => file.1 != location } = [] :=
    changesSince_eq_nil fun _ hFile => content?_of_mem hDistinct (List.mem_of_mem_filter hFile)
  rw [changesSince] at hKept ⊢
  rw [put, List.filterMap_append, hKept, List.nil_append, List.filterMap_cons, List.filterMap_nil]
  dsimp only
  split_ifs <;> rfl

end TenantRoutes.FileTree
