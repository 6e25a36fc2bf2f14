import TenantRoutes.Files.Tree
import TenantRoutes.Proofs.Text.Pieces

/-! Where a path leads by its names alone. Every name is taken for a directory, whether or not there
is one, so this says nothing about what lies at the end of a path. -/
namespace TenantRoutes.Location

/-- One name further from a directory. The top of the tree is its own parent. -/
def enter (directory : Location) (name : String) : Location :=
  if name = "" ∨ name = "." then directory
  else if name = ".." then directory.dropLast
  else directory ++ [name]

/-- The location that a path leads to. A path that begins with a slash does not depend on the
working directory. -/
def ofPath (workingDirectory : Location) (path : String) : Location :=
  ((Text.pieces '/' path.toList).map String.ofList).foldl enter
    (if path.toList.head? = some '/' then [] else workingDirectory)

/-- Neither of two locations is the other or lies above it. -/
def AreApart (first second : Location) : Prop :=
  ¬ first <+: second ∧ ¬ second <+: first

@[simp] theorem enter_empty (directory : Location) : directory.enter "" = directory := by
  simp [enter]

/-- Two names at the end of a path are entered one after the other. -/
theorem ofPath_join (workingDirectory : Location) (base : String) {first second : String}
    (hFirst : '/' ∉ first.toList) (hSecond : '/' ∉ second.toList) :
    ofPath workingDirectory (base ++ "/" ++ first ++ "/" ++ second) =
      ((ofPath workingDirectory (base ++ "/")).enter first).enter second := by
  have hText : (base ++ "/" ++ first ++ "/" ++ second).toList =
      base.toList ++ '/' :: (first.toList ++ '/' :: second.toList) := by
    simp
  have hFront : (base ++ "/").toList = base.toList ++ ['/'] := by
    simp
  have hStart : (base.toList ++ '/' :: (first.toList ++ '/' :: second.toList)).head? =
      (base.toList ++ ['/']).head? := by
    cases base.toList <;> rfl
  rw [ofPath, ofPath, hText, hFront, hStart, Text.pieces_append_cons, Text.pieces_append_cons,
    Text.pieces_append_cons, Text.pieces_of_not_mem hFirst, Text.pieces_of_not_mem hSecond]
  simp [Text.pieces]

/-- Different places on one level below a directory are apart. -/
theorem areApart_of_length_eq {first second : Location} (hLength : first.length = second.length)
    (hDiffer : first ≠ second) : AreApart first second :=
  ⟨fun hPrefix => hDiffer (hPrefix.eq_of_length hLength),
    fun hPrefix => hDiffer (hPrefix.eq_of_length hLength.symm).symm⟩

theorem path_ne_of_areApart {workingDirectory : Location} {path other : String}
    (hApart : AreApart (ofPath workingDirectory path) (ofPath workingDirectory other)) :
    path ≠ other := by
  rintro rfl
  exact hApart.1 List.prefix_rfl

end TenantRoutes.Location
