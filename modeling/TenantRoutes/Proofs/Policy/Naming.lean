import TenantRoutes.Policy.Naming
import TenantRoutes.Proofs.Text.LetterCase

/-! Names and their form. What a label, a host name and a directory name are is said of their parts,
apart from the checks that recognise them. -/
namespace TenantRoutes

/-- The code points of the characters of labels. -/
theorem toNat_of_isLabelChar {c : Char} (hc : isLabelChar c = true) :
    c.toNat = 45 ∨ 48 ≤ c.toNat ∧ c.toNat ≤ 57 ∨ 65 ≤ c.toNat ∧ c.toNat ≤ 90 ∨
      97 ≤ c.toNat ∧ c.toNat ≤ 122 := by
  simp only [isLabelChar, Text.isAlphanumeric, Bool.or_eq_true, Bool.and_eq_true,
    decide_eq_true_eq, beq_iff_eq, Char.le_def, UInt32.le_iff_toNat_le] at hc
  rcases hc with ((hLower | hUpper) | hDigit) | rfl
  · exact Or.inr (Or.inr (Or.inr hLower))
  · exact Or.inr (Or.inr (Or.inl hUpper))
  · exact Or.inr (Or.inl hDigit)
  · exact Or.inl rfl

theorem isBlank_eq_false_of_isLabelChar {c : Char} (hc : isLabelChar c = true) :
    Text.isBlank c = false := by
  have hCode := toNat_of_isLabelChar hc
  simp only [Text.isBlank, Text.blankRanges, List.any_cons, List.any_nil, Bool.or_false,
    Bool.or_eq_false_iff, Bool.and_eq_false_iff, decide_eq_false_iff_not]
  omega

/-- A label has a character to be seen in it. -/
theorem exists_mem_of_isLabel {label : List Char} (hLabel : isLabel label = true) :
    ∃ c ∈ label, Text.isBlank c = false := by
  simp only [isLabel, Bool.and_eq_true, Bool.not_eq_true', List.all_eq_true] at hLabel
  cases label with
  | nil => simp at hLabel
  | cons c rest =>
      exact ⟨c, List.mem_cons_self, isBlank_eq_false_of_isLabelChar (hLabel.2 c List.mem_cons_self)⟩

theorem isBlankText_eq_false_of_isHostname {name : String} (hName : isHostname name = true) :
    Text.isBlankText name = false := by
  simp only [isHostname, Bool.and_eq_true, List.all_eq_true] at hName
  obtain ⟨label, hMem⟩ := List.exists_mem_of_ne_nil _ (Text.pieces_ne_nil '.' name.toList)
  obtain ⟨c, hc, hBlank⟩ := exists_mem_of_isLabel (hName.2 label hMem)
  rw [Text.isBlankText, List.all_eq_false]
  exact ⟨c, Text.mem_of_mem_pieces hMem hc, by simp [hBlank]⟩

theorem ne_empty_of_isLabelText {name : String} (hName : isLabelText name = true) : name ≠ "" := by
  rintro rfl
  simp [isLabelText, isLabel] at hName

theorem ne_empty_of_isDirectoryName {id : String} (hId : isDirectoryName id = true) : id ≠ "" := by
  rintro rfl
  simp [isDirectoryName] at hId

/-- The characters of labels, by the classes of the standard library. -/
theorem isLabelChar_iff {c : Char} : isLabelChar c = true ↔ c.isAlphanum = true ∨ c = '-' := by
  have hLower : c.isLower = (decide ('a' ≤ c) && decide (c ≤ 'z')) := rfl
  have hUpper : c.isUpper = (decide ('A' ≤ c) && decide (c ≤ 'Z')) := Bool.decide_and _ _
  have hDigit : c.isDigit = (decide ('0' ≤ c) && decide (c ≤ '9')) := rfl
  have hAlphanum : Text.isAlphanumeric c = c.isAlphanum := by
    rw [Text.isAlphanumeric, ← hLower, ← hUpper, ← hDigit, Bool.or_comm c.isLower]
    rfl
  rw [isLabelChar, hAlphanum, Bool.or_eq_true, beq_iff_eq]

/-- What a DNS label is: 1 to 63 ASCII letters, digits and hyphens, with no hyphen at either
end. -/
structure IsLabel (label : List Char) : Prop where
  nonempty : 1 ≤ label.length
  short : label.length ≤ 63
  chars : ∀ c ∈ label, c.isAlphanum = true ∨ c = '-'
  first : label.head? ≠ some '-'
  last : label.getLast? ≠ some '-'

theorem isLabel_iff {label : List Char} : isLabel label = true ↔ IsLabel label := by
  have hNonempty : label.isEmpty = false ↔ 1 ≤ label.length := by
    cases label <;> simp
  simp only [isLabel, Bool.and_eq_true, Bool.not_eq_true', hNonempty, decide_eq_true_eq,
    bne_iff_ne, List.all_eq_true, isLabelChar_iff]
  constructor
  · rintro ⟨⟨⟨⟨hSome, hShort⟩, hFirst⟩, hLast⟩, hChars⟩
    exact ⟨hSome, hShort, hChars, hFirst, hLast⟩
  · rintro ⟨hSome, hShort, hChars, hFirst, hLast⟩
    exact ⟨⟨⟨⟨hSome, hShort⟩, hFirst⟩, hLast⟩, hChars⟩

theorem IsLabel.dot_not_mem {label : List Char} (hLabel : IsLabel label) : '.' ∉ label := by
  intro hDot
  rcases hLabel.chars '.' hDot with hAlphanum | hHyphen
  · exact absurd hAlphanum (by decide)
  · exact absurd hHyphen (by decide)

/-- What a host name is: labels joined with dots, at most 253 bytes in all. -/
structure IsHostname (name : String) : Prop where
  short : name.utf8ByteSize ≤ 253
  labels : ∃ labels : List (List Char), labels ≠ [] ∧ (∀ label ∈ labels, IsLabel label) ∧
    name.toList = ['.'].intercalate labels

/-- Since labels have no dots, a name can be cut into labels in one way only. -/
theorem isHostname_iff {name : String} : isHostname name = true ↔ IsHostname name := by
  simp only [isHostname, hostLabels, Bool.and_eq_true, decide_eq_true_eq, List.all_eq_true,
    isLabel_iff]
  constructor
  · rintro ⟨hShort, hLabels⟩
    exact ⟨hShort, _, Text.pieces_ne_nil '.' name.toList, hLabels,
      (Text.intercalate_pieces '.' name.toList).symm⟩
  · rintro ⟨hShort, labels, hSome, hLabels, hName⟩
    have hPieces : Text.pieces '.' name.toList = labels := by
      rw [hName]
      exact Text.pieces_intercalate (fun label hMem => (hLabels label hMem).dot_not_mem) hSome
    rw [hPieces]
    exact ⟨hShort, hLabels⟩

/-- A text that is made of labels, however long it is. -/
def IsLabelled (name : String) : Prop :=
  ∀ label ∈ hostLabels name, isLabel label = true

theorem isHostname_iff_isLabelled {name : String} :
    isHostname name = true ↔ name.utf8ByteSize ≤ 253 ∧ IsLabelled name := by
  rw [isHostname, Bool.and_eq_true, decide_eq_true_iff, List.all_eq_true, IsLabelled]

/-- Of a text made of labels only the length is left to be asked. -/
theorem IsLabelled.isHostname_iff {name : String} (hName : IsLabelled name) :
    isHostname name = true ↔ name.utf8ByteSize ≤ 253 :=
  isHostname_iff_isLabelled.trans (and_iff_left hName)

theorem isLabelled_of_isHostname {name : String} (hName : isHostname name = true) :
    IsLabelled name :=
  (isHostname_iff_isLabelled.mp hName).2

theorem dot_not_mem_of_isLabelText {label : String} (hLabel : isLabelText label = true) :
    '.' ∉ label.toList :=
  (isLabel_iff.mp hLabel).dot_not_mem

/-- A label in front of a text is the first of the labels, whatever the text is. -/
theorem hostLabels_join {label name : String} (hLabel : isLabelText label = true) :
    hostLabels (label ++ "." ++ name) = label.toList :: hostLabels name := by
  have hChars : (label ++ "." ++ name).toList = label.toList ++ '.' :: name.toList := by simp
  rw [hostLabels, hChars, Text.pieces_append_cons,
    Text.pieces_of_not_mem (dot_not_mem_of_isLabelText hLabel), List.singleton_append, hostLabels]

theorem isLabelled_join_iff {label name : String} (hLabel : isLabelText label = true) :
    IsLabelled (label ++ "." ++ name) ↔ IsLabelled name := by
  rw [IsLabelled, hostLabels_join hLabel, List.forall_mem_cons]
  exact and_iff_right hLabel

theorem utf8ByteSize_join (front back : String) :
    (front ++ "." ++ back).utf8ByteSize = front.utf8ByteSize + 1 + back.utf8ByteSize := by
  rw [String.utf8ByteSize_append, String.utf8ByteSize_append]
  rfl

/-- A label in front of a text makes a host name exactly when the text is one and leaves room for
the label. It can also be taken off again: joins that agree ignoring case agree in their labels and
in what follows these, be it a host name or not. -/
theorem labels_join_uniquely :
    (∀ label name : String, isLabelText label = true →
      (isHostname (label ++ "." ++ name) = true ↔
        isHostname name = true ∧ label.utf8ByteSize + 1 + name.utf8ByteSize ≤ 253)) ∧
    (∀ label other name rest : String, isLabelText label = true → isLabelText other = true →
      (Text.eqIgnoringCase (label ++ "." ++ name) (other ++ "." ++ rest) = true ↔
        Text.eqIgnoringCase label other = true ∧ Text.eqIgnoringCase name rest = true)) := by
  constructor
  · intro label name hLabel
    rw [isHostname_iff_isLabelled, isHostname_iff_isLabelled, isLabelled_join_iff hLabel,
      utf8ByteSize_join]
    constructor
    · rintro ⟨hSize, hLabels⟩
      exact ⟨⟨by omega, hLabels⟩, hSize⟩
    · rintro ⟨⟨_, hLabels⟩, hSize⟩
      exact ⟨hSize, hLabels⟩
  · intro label other name rest hLabel hOther
    apply Text.eqIgnoringCase_join_iff
    · exact dot_not_mem_of_isLabelText hLabel
    · exact dot_not_mem_of_isLabelText hOther

theorem prod_joins_uniquely :
    isLabelText "prod" = true ∧ isLabelText "PROD" = true ∧
      isHostname "prod.example.com" = true ∧ isHostname "prod.example..com" = false ∧
      Text.eqIgnoringCase "prod.Example.com" "PROD.example.com" = true ∧
      Text.eqIgnoringCase "prod.example.com" "PROD.example..com" = false := by
  have hProd : isLabelText "prod" = true := by decide
  have hUpper : isLabelText "PROD" = true := by decide
  have hHost := labels_join_uniquely.1 "prod"
  have hJoin := labels_join_uniquely.2 "prod" "PROD"
  refine ⟨hProd, hUpper, (hHost "example.com" hProd).mpr (by decide), ?_,
    (hJoin "Example.com" "example.com" hProd hUpper).mpr (by decide), ?_⟩
  · rw [Bool.eq_false_iff]
    exact fun hName => absurd ((hHost "example..com" hProd).mp hName) (by decide)
  · rw [Bool.eq_false_iff]
    exact fun hSame =>
      absurd ((hJoin "example.com" "example..com" hProd hUpper).mp hSame) (by decide)

theorem hasDoubleDot_iff {chars : List Char} :
    hasDoubleDot chars = true ↔ ['.', '.'] <:+: chars := by
  fun_induction hasDoubleDot chars with
  | case1 rest => exact iff_of_true rfl ⟨[], rest, rfl⟩
  | case2 c rest hApart ih =>
      have hFront : ¬ ['.', '.'] <+: c :: rest := by
        rintro ⟨tail, hTail⟩
        obtain ⟨rfl, rfl⟩ := List.cons.inj hTail
        exact hApart tail rfl rfl
      rw [ih, List.infix_cons_iff, or_iff_right hFront]
  | case3 => simp

/-- What may name a directory below the content root: a text that is not empty, does not stand for
the directory itself, and has neither two dots in a row nor a separator. -/
structure IsDirectoryName (id : String) : Prop where
  nonempty : id ≠ ""
  proper : id ≠ "."
  noDoubleDot : ¬ ['.', '.'] <:+: id.toList
  noSlash : '/' ∉ id.toList
  noBackslash : '\\' ∉ id.toList

theorem isDirectoryName_iff {id : String} : isDirectoryName id = true ↔ IsDirectoryName id := by
  have hDots : hasDoubleDot id.toList = false ↔ ¬ ['.', '.'] <:+: id.toList := by
    rw [← hasDoubleDot_iff, Bool.not_eq_true]
  have hContains (c : Char) : id.toList.contains c = false ↔ c ∉ id.toList := by
    simp
  simp only [isDirectoryName, Bool.and_eq_true, Bool.not_eq_true', bne_iff_ne, hDots, hContains,
    List.isEmpty_eq_false_iff, ne_eq, String.toList_eq_nil_iff]
  constructor
  · rintro ⟨⟨⟨⟨hSome, hProper⟩, hNoDots⟩, hNoSlash⟩, hNoBackslash⟩
    exact ⟨hSome, hProper, hNoDots, hNoSlash, hNoBackslash⟩
  · rintro ⟨hSome, hProper, hNoDots, hNoSlash, hNoBackslash⟩
    exact ⟨⟨⟨⟨hSome, hProper⟩, hNoDots⟩, hNoSlash⟩, hNoBackslash⟩

end TenantRoutes
