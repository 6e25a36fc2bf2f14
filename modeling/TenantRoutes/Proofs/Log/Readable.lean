import Mathlib.Data.List.DropRight
import Mathlib.Data.List.TakeDrop
import TenantRoutes.Log.Filter

/-! Filters of the log that can be read. The parts of a directive are found in its text without the
blanks at its ends and cut out of the whole text. Where both can be cut at the same positions, no
character is divided, so the log can be set up unless blanks stand in front of a text with
characters of several bytes. -/
namespace TenantRoutes

namespace Text

/-- A text can be cut at a position, counted in bytes. -/
def IsCut (text : List Char) (position : Nat) : Prop :=
  ∃ front back, text = front ++ back ∧ byteSize front = position

variable {text part : List Char} {first last : Nat}

theorem isCut_byteSize (text : List Char) : IsCut text (byteSize text) :=
  ⟨text, [], (List.append_nil text).symm, rfl⟩

theorem IsCut.le (hCut : IsCut text first) : first ≤ byteSize text := by
  obtain ⟨front, back, rfl, rfl⟩ := hCut
  rw [byteSize_append]
  exact Nat.le_add_right _ _

theorem eq_nil_of_byteSize (hSize : byteSize text = 0) : text = [] := by
  cases text with
  | nil => rfl
  | cons c rest =>
      have hPositive := c.utf8Size_pos
      rw [byteSize_cons] at hSize
      omega

/-- Between two cuts there is a part. -/
theorem slice?_of_isCut (hFirst : IsCut text first) (hLast : IsCut text last)
    (hOrder : first ≤ last) : ∃ part, slice? text first last = some part := by
  obtain ⟨front, back, rfl, rfl⟩ := hFirst
  obtain ⟨upTo, rest, hText, rfl⟩ := hLast
  rcases List.append_eq_append_iff.mp hText with ⟨middle, rfl, rfl⟩ | ⟨middle, rfl, rfl⟩
  · rw [byteSize_append]
    exact ⟨middle, slice?_append front middle rest⟩
  · obtain rfl : middle = [] := by
      rw [byteSize_append] at hOrder
      exact eq_nil_of_byteSize (by omega)
    rw [List.append_nil]
    exact ⟨[], slice?_append upTo [] back⟩

/-- Wherever a part can be cut, so can the text at the same position. -/
def CutsLike (text part : List Char) : Prop :=
  ∀ front back, part = front ++ back → IsCut text (byteSize front)

theorem cutsLike_of_prefix (hPrefix : part <+: text) : CutsLike text part := by
  rintro front back rfl
  obtain ⟨rest, rfl⟩ := hPrefix
  exact ⟨front, back ++ rest, List.append_assoc front back rest, rfl⟩

/-- All characters take one byte. -/
def IsAscii (text : List Char) : Prop :=
  ∀ c ∈ text, c.utf8Size = 1

theorem IsAscii.byteSize_eq (hAscii : IsAscii text) : byteSize text = text.length := by
  induction text with
  | nil => rfl
  | cons c rest ih =>
      have hRest : IsAscii rest := fun other hOther => hAscii other (List.mem_cons_of_mem _ hOther)
      rw [byteSize_cons, hAscii c List.mem_cons_self, ih hRest, List.length_cons, Nat.add_comm]

theorem cutsLike_of_isAscii (hAscii : IsAscii text) (hPart : part <:+: text) :
    CutsLike text part := by
  intro front back hSplit
  have hInside : front ++ back <:+: text := hSplit ▸ hPart
  have hFront : IsAscii front := fun c hc =>
    hAscii c (hInside.subset (List.mem_append_left _ hc))
  have hTake : IsAscii (text.take front.length) := fun c hc => hAscii c (List.mem_of_mem_take hc)
  refine ⟨text.take front.length, text.drop front.length, (List.take_append_drop _ _).symm, ?_⟩
  have hLength : front.length ≤ text.length := by
    have hAll := hInside.length_le
    rw [List.length_append] at hAll
    omega
  rw [hTake.byteSize_eq, hFront.byteSize_eq, List.length_take, Nat.min_eq_left hLength]

/-- A rest is what a part, where the text can be cut like it, holds from a position on. -/
def StandsAt (text rest : List Char) (position : Nat) : Prop :=
  ∃ front, CutsLike text (front ++ rest) ∧ byteSize front = position

namespace StandsAt

variable {word rest : List Char} {position : Nat}

theorem isCut (hStands : StandsAt text rest position) : IsCut text position := by
  obtain ⟨front, hCuts, rfl⟩ := hStands
  exact hCuts front rest rfl

theorem skip (hStands : StandsAt text (word ++ rest) position) :
    StandsAt text rest (position + byteSize word) := by
  obtain ⟨front, hCuts, rfl⟩ := hStands
  refine ⟨front ++ word, ?_, byteSize_append front word⟩
  rwa [List.append_assoc]

theorem tail {c : Char} (hStands : StandsAt text (c :: rest) position) (hSize : c.utf8Size = 1) :
    StandsAt text rest (position + 1) := by
  have hSkip : StandsAt text rest (position + byteSize [c]) := skip hStands
  rwa [byteSize_cons, hSize, byteSize_nil] at hSkip

end StandsAt

end Text

namespace Log

open Text (CutsLike IsAscii IsCut StandsAt)

/-- No blank stands in front of a character of several bytes, since there is no blank in front or no
such character at all. -/
def IsPlain (text : List Char) : Prop :=
  (∀ c, text.head? = some c → Text.isBlank c = false) ∨ IsAscii text

namespace Directive

variable {α β : Type} {text part front rest : List Char}

theorem cutsLike_trim (hPlain : IsPlain text) : CutsLike text (trim text) := by
  have hTrim : trim text = (text.dropWhile Text.isBlank).rdropWhile Text.isBlank := rfl
  rw [hTrim]
  rcases hPlain with hFront | hAscii
  · have hSame : text.dropWhile Text.isBlank = text := by
      cases text with
      | nil => rfl
      | cons c rest => rw [List.dropWhile_cons, hFront c rfl, if_neg Bool.false_ne_true]
    rw [hSame]
    exact Text.cutsLike_of_prefix (List.rdropWhile_prefix _ text)
  · refine Text.cutsLike_of_isAscii hAscii ?_
    exact (List.rdropWhile_prefix _ _).isInfix.trans (List.dropWhile_suffix _).isInfix

/-- A result that does not fail for a character that is divided. -/
def Undivided (result : Except Fault α) : Prop :=
  result ≠ .error .dividedCharacter

@[simp] theorem undivided_ok (value : α) : Undivided (.ok value) := by
  simp [Undivided]

@[simp] theorem undivided_malformed : Undivided (.error .malformed : Except Fault α) := by
  simp [Undivided]

theorem undivided_bind {result : Except Fault α} {next : α → Except Fault β}
    (hResult : Undivided result) (hNext : ∀ value, Undivided (next value)) :
    Undivided (result >>= next) := by
  cases result with
  | error fault => exact fun hFault => hResult (congrArg Except.error (Except.error.inj hFault))
  | ok value => exact hNext value

theorem undivided_part {first last : Nat} (hFirst : IsCut text first) (hLast : IsCut text last)
    (hOrder : first ≤ last) : Undivided (Directive.part text first last) := by
  obtain ⟨piece, hPiece⟩ := Text.slice?_of_isCut hFirst hLast hOrder
  rw [Directive.part, hPiece]
  exact undivided_ok piece

theorem undivided_levelFrom {position : Nat} (hCut : IsCut text position) :
    Undivided (levelFrom text position) := by
  apply undivided_bind (undivided_part hCut (Text.isCut_byteSize text) hCut.le)
  intro level
  split
  · simp
  · split <;> simp

theorem undivided_levelAfterBracket {position : Nat} (hStands : StandsAt text rest position) :
    Undivided (levelAfterBracket text position rest) := by
  unfold levelAfterBracket
  split
  · simp
  · exact undivided_levelFrom (hStands.tail rfl).isCut
  · simp

theorem undivided_selectionOf (field : List Char) : Undivided (selectionOf field) := by
  unfold selectionOf
  split
  · split <;> simp
  · simp

theorem span_append (p : Char → Bool) (text : List Char) :
    (text.span p).1 ++ (text.span p).2 = text := by
  rw [List.span_eq_takeWhile_dropWhile, List.takeWhile_append_dropWhile]

theorem undivided_ofBracket {position : Nat} (hStands : StandsAt text rest position)
    (target : Option String) : Undivided (ofBracket text target position rest) := by
  unfold ofBracket
  have hName := span_append (fun c => c != ']' && c != '{') rest
  generalize rest.span (fun c => c != ']' && c != '{') = spanned at hName ⊢
  obtain ⟨name, others⟩ := spanned
  subst hName
  have hPart := undivided_part hStands.isCut hStands.skip.isCut (Nat.le_add_right _ _)
  simp only
  split
  · apply undivided_bind hPart
    intro _
    apply undivided_bind (undivided_levelAfterBracket (hStands.skip.tail rfl))
    intro rank
    exact undivided_ok _
  · rename_i inner
    apply undivided_bind hPart
    intro _
    have hInner := hStands.skip.tail rfl
    have hField := span_append (· != '}') inner
    generalize inner.span (· != '}') = spanned at hField ⊢
    obtain ⟨field, others⟩ := spanned
    subst hField
    simp only
    split
    · have hGiven := undivided_part hInner.isCut hInner.skip.isCut (Nat.le_add_right _ _)
      apply undivided_bind hGiven
      intro given
      split
      · simp
      · apply undivided_bind (undivided_selectionOf given)
        intro selection
        split
        · have hLevel := (hInner.skip.tail rfl).tail rfl
          apply undivided_bind (undivided_levelAfterBracket hLevel)
          intro rank
          exact undivided_ok _
        · simp
    · simp
  · simp

/-- A plain text is read as a directive or is malformed. -/
theorem undivided_ofText (hPlain : IsPlain text) : Undivided (ofText text) := by
  have hCuts := cutsLike_trim hPlain
  unfold ofText
  have hWord := span_append (fun c => c != '=' && c != '[') (trim text)
  generalize (trim text).span (fun c => c != '=' && c != '[') = spanned at hWord ⊢
  obtain ⟨word, rest⟩ := spanned
  rw [← hWord] at hCuts
  have hStands : StandsAt text (word ++ rest) 0 := ⟨[], hCuts, rfl⟩
  have hRest := hStands.skip
  rw [Nat.zero_add] at hRest
  have hTarget := undivided_part hStands.isCut hRest.isCut (Nat.zero_le _)
  simp only
  split
  · exact undivided_ofBracket (hRest.tail rfl) none
  · simp
  · split
    · simp
    · split
      · apply undivided_bind hTarget
        intro target
        apply undivided_bind (undivided_levelFrom (hRest.tail rfl).isCut)
        intro rank
        exact undivided_ok _
      · apply undivided_bind hTarget
        intro target
        exact undivided_ofBracket (hRest.tail rfl) _
      · split <;> simp

end Directive

namespace Filter

open Directive (Undivided undivided_bind undivided_ofText undivided_ok)

/-- All texts of directives in a text are plain. -/
def IsPlainText (text : String) : Prop :=
  ∀ directive ∈ directiveTexts text, IsPlain directive

variable {environment : Option String} {settings text : String}

theorem undivided_mapM {texts : List (List Char)} (hPlain : ∀ text ∈ texts, IsPlain text) :
    Undivided (texts.mapM Directive.ofText) := by
  induction texts with
  | nil => exact undivided_ok []
  | cons first rest ih =>
      rw [List.forall_mem_cons] at hPlain
      rw [List.mapM_cons]
      apply undivided_bind (undivided_ofText hPlain.1)
      intro directive
      apply undivided_bind (ih hPlain.2)
      intro directives
      exact undivided_ok _

theorem undivided_ofText_of_isPlainText (hPlain : IsPlainText text) : Undivided (ofText text) := by
  have hDirectives := undivided_mapM hPlain
  unfold ofText
  cases hRead : (directiveTexts text).mapM Directive.ofText with
  | ok directives => exact undivided_ok _
  | error fault => simpa [Undivided, Except.map, hRead] using hDirectives

theorem wellFormed?_isSome {texts : List (List Char)} (hPlain : ∀ text ∈ texts, IsPlain text) :
    (wellFormed? texts).isSome = true := by
  induction texts with
  | nil => rfl
  | cons first rest ih =>
      rw [List.forall_mem_cons] at hPlain
      have hRest := ih hPlain.2
      cases hFirst : Directive.ofText first with
      | ok directive => simp [wellFormed?, hFirst, hRest]
      | error fault =>
          cases fault with
          | malformed => simp [wellFormed?, hFirst, hRest]
          | dividedCharacter => exact absurd hFirst (undivided_ofText hPlain.1)

/-- Whatever plain texts ask for, the log can be set up. -/
theorem select?_isSome (hEnvironment : ∀ text, environment = some text → IsPlainText text)
    (hSettings : IsPlainText settings) : (select? environment settings).isSome = true := by
  have hLenient : (ofTextLenient? settings).isSome = true := by
    rw [ofTextLenient?, Option.isSome_map]
    exact wellFormed?_isSome hSettings
  cases environment with
  | none => exact hLenient
  | some text =>
      have hText := undivided_ofText_of_isPlainText (hEnvironment text rfl)
      cases hRead : ofText text with
      | ok filter => simp [select?, hRead]
      | error fault =>
          cases fault with
          | malformed => simpa [select?, hRead] using hLenient
          | dividedCharacter => exact absurd hRead hText

end Filter

end Log

end TenantRoutes
