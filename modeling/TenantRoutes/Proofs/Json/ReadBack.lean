import TenantRoutes.Json.Printer
import TenantRoutes.Json.Reader
import TenantRoutes.Proofs.Json.Number

/-! Reading printed values back. Whatever the layout, the text of a value leads the reader from the
place where a value is due to the place after that value, whatever brackets are open around it. So
both layouts of a value stand for the same value, and different values have different texts. -/
namespace TenantRoutes.Json

namespace Reader

/-- From one state a text leads to another. -/
def Reads (state : State) (text : List Char) (after : State) : Prop :=
  text.foldlM step state = some after

section Reads

variable {state middle after : State} {c : Char} {text rest : List Char}

theorem Reads.nil (state : State) : Reads state [] state := rfl

theorem Reads.cons (hStep : step state c = some middle) (hRest : Reads middle rest after) :
    Reads state (c :: rest) after := by
  rw [Reads, List.foldlM_cons, hStep]
  exact hRest

theorem Reads.append (hText : Reads state text middle) (hRest : Reads middle rest after) :
    Reads state (text ++ rest) after := by
  rw [Reads, List.foldlM_append, hText]
  exact hRest

theorem Reads.concat (hText : Reads state text middle) (hStep : step middle c = some after) :
    Reads state (text ++ [c]) after :=
  hText.append (Reads.cons hStep (Reads.nil after))

/-- Blanks change nothing where the reader passes over each of them. -/
theorem Reads.blanks (hSkip : ∀ c, isBlank c = true → step state c = some state)
    (hBlank : ∀ c ∈ text, isBlank c = true) : Reads state text state := by
  induction text with
  | nil => exact Reads.nil state
  | cons c rest ih =>
      rw [List.forall_mem_cons] at hBlank
      exact Reads.cons (hSkip c hBlank.1) (ih hBlank.2)

end Reads

theorem isBlank_of_mem_lineBreak {layout : Layout} {depth : Nat} {c : Char}
    (hc : c ∈ layout.lineBreak depth) : isBlank c = true := by
  cases layout with
  | compact => simp [Layout.lineBreak] at hc
  | pretty =>
      rcases List.mem_cons.mp hc with rfl | hc
      · rfl
      · rw [(List.mem_replicate.mp hc).2]
        rfl

/-- A value is read and nothing in it is open. The end of a number shows only in what follows it. -/
inductive Holds (stack : List Frame) : Json → State → Prop where
  | complete (value : Json) : Holds stack value ⟨stack, .complete value⟩
  | number {before : List Char} {number : Number}
      (hText : Number.ofText? before.reverse = some number) :
      Holds stack (.number number) ⟨stack, .number before⟩

namespace Holds

variable {stack : List Frame} {value : Json} {state : State}

/-- What follows a value is read as such, unless it continues a number. -/
theorem step_eq (hHolds : Holds stack value state) {c : Char}
    (hc : Number.isNumberChar c = false) : step state c = afterValue stack value c := by
  cases hHolds with
  | complete => rfl
  | number hText => simp [step, hc, hText]

theorem finish?_eq (hHolds : Holds [] value state) : finish? state = some value := by
  cases hHolds with
  | complete => rfl
  | number hText => simp [finish?, hText]

theorem reads_lineBreak (hHolds : Holds stack value state) (layout : Layout) (depth : Nat) :
    ∃ after, Reads state (layout.lineBreak depth) after ∧ Holds stack value after := by
  cases layout with
  | compact => exact ⟨state, Reads.nil state, hHolds⟩
  | pretty =>
      refine ⟨⟨stack, .complete value⟩, Reads.cons (hHolds.step_eq rfl) ?_, complete value⟩
      refine Reads.blanks (fun c hc => by simp [step, afterValue, hc]) fun c hc => ?_
      rw [(List.mem_replicate.mp hc).2]
      rfl

end Holds

/-- The state after the quote that ends a string. -/
def Role.closed (stack : List Frame) (read : String) : Role → State
  | .value => ⟨stack, .complete (.string read)⟩
  | .name before => ⟨stack, .colon before read⟩

theorem hexValue?_digitChar {n : Nat} (h : n < 16) :
    Text.hexValue? (Nat.digitChar n) = some n := by
  revert n
  decide

/-- A control character is written as a code unit of four digits. -/
theorem reads_unit (stack : List Frame) (role : Role) (before : List Char) {c : Char}
    (hc : c.toNat < 0x20) :
    Reads ⟨stack, .string role before .outside⟩
      ['\\', 'u', '0', '0', Nat.digitChar (c.toNat / 16), Nat.digitChar (c.toNat % 16)]
      ⟨stack, .string role (c :: before) .outside⟩ := by
  have hHigh : Text.hexValue? (Nat.digitChar (c.toNat / 16)) = some (c.toNat / 16) :=
    hexValue?_digitChar (by omega)
  have hLow : Text.hexValue? (Nat.digitChar (c.toNat % 16)) = some (c.toNat % 16) :=
    hexValue?_digitChar (by omega)
  have hUnit : 16 * (c.toNat / 16) + c.toNat % 16 = c.toNat := Nat.div_add_mod c.toNat 16
  have hEnd : endUnit stack role before none c.toNat =
      some ⟨stack, .string role (c :: before) .outside⟩ := by
    have hNoFirst : (0xd800 ≤ c.toNat && c.toNat < 0xdc00) = false := by simp; omega
    have hNoSecond : (0xdc00 ≤ c.toNat && c.toNat < 0xe000) = false := by simp; omega
    simp [endUnit, hNoFirst, hNoSecond]
  have hMark : Reads ⟨stack, .string role before .outside⟩ ['\\', 'u', '0', '0']
      ⟨stack, .string role before (.unit none 2 0)⟩ := rfl
  have hFirst : step ⟨stack, .string role before (.unit none 2 0)⟩
      (Nat.digitChar (c.toNat / 16)) =
      some ⟨stack, .string role before (.unit none 3 (c.toNat / 16))⟩ := by
    simp [step, inString, hHigh]
  refine hMark.append (Reads.cons hFirst (Reads.cons ?_ (Reads.nil _)))
  simp [step, inString, hLow, hUnit, hEnd]

theorem reads_escapedChar (stack : List Frame) (role : Role) (before : List Char) (c : Char) :
    Reads ⟨stack, .string role before .outside⟩ (escapedChar c)
      ⟨stack, .string role (c :: before) .outside⟩ := by
  unfold escapedChar
  split
  case h_8 hQuote hBackslash _ _ _ _ _ =>
    split
    case isTrue hControl => exact reads_unit stack role before hControl
    case isFalse hPlain =>
      refine Reads.cons ?_ (Reads.nil _)
      simp only [step, inString]
      rw [if_neg hQuote, if_neg hBackslash, if_neg hPlain]
  all_goals exact rfl

theorem reads_escapedChars (stack : List Frame) (role : Role) (before chars : List Char) :
    Reads ⟨stack, .string role before .outside⟩ (chars.flatMap escapedChar)
      ⟨stack, .string role (chars.reverse ++ before) .outside⟩ := by
  induction chars generalizing before with
  | nil => exact Reads.nil _
  | cons c rest ih =>
      rw [List.flatMap_cons, List.reverse_cons, List.append_assoc]
      exact (reads_escapedChar stack role before c).append (ih (c :: before))

/-- A string is read from the quote that begins it to the quote that ends it. -/
theorem reads_stringText {state : State} {stack : List Frame} {role : Role}
    (hOpen : step state '"' = some ⟨stack, .string role [] .outside⟩) (s : String) :
    Reads state (stringText s) (role.closed stack s) := by
  refine Reads.cons hOpen ((reads_escapedChars stack role [] s.toList).concat ?_)
  cases role <;> simp [step, inString, Role.closed]

theorem ne_of_isNumberStart {c other : Char} (hc : (c.isDigit || c == '-') = true)
    (hOther : (other.isDigit || other == '-') = false) : c ≠ other := by
  rintro rfl
  simp [hc] at hOther

theorem isBlank_of_isNumberStart {c : Char} (hc : (c.isDigit || c == '-') = true) :
    isBlank c = false := by
  have hNe (other : Char) : (other.isDigit || other == '-') = false → c ≠ other :=
    ne_of_isNumberStart hc
  simp [isBlank, hNe ' ' rfl, hNe '\n' rfl, hNe '\t' rfl, hNe '\r' rfl]

/-- A digit or a minus sign where a value is due begins a number. -/
theorem beginValue_of_isNumberStart (stack : List Frame) {c : Char}
    (hc : (c.isDigit || c == '-') = true) :
    beginValue stack c = some ⟨stack, .number [c]⟩ := by
  have hNe (other : Char) : (other.isDigit || other == '-') = false → c ≠ other :=
    ne_of_isNumberStart hc
  simp [beginValue, isBlank_of_isNumberStart hc, hc, hNe '[' rfl, hNe '\x7b' rfl, hNe '"' rfl,
    hNe 'n' rfl, hNe 't' rfl, hNe 'f' rfl]

theorem reads_numberText (stack : List Frame) (number : Number) :
    Reads ⟨stack, .value⟩ number.text ⟨stack, .number number.text.reverse⟩ := by
  have hRest (before rest : List Char) (hChars : ∀ c ∈ rest, Number.isNumberChar c = true) :
      Reads ⟨stack, .number before⟩ rest ⟨stack, .number (rest.reverse ++ before)⟩ := by
    induction rest generalizing before with
    | nil => exact Reads.nil _
    | cons c rest ih =>
        rw [List.forall_mem_cons] at hChars
        rw [List.reverse_cons, List.append_assoc]
        exact Reads.cons (by simp [step, hChars.1]) (ih (c :: before) hChars.2)
  obtain ⟨c, rest, hText, hc⟩ := number.exists_cons_text
  have hChars : ∀ c ∈ rest, Number.isNumberChar c = true := fun d hd =>
    Number.isNumberChar_of_mem_text (hText ▸ List.mem_cons_of_mem c hd)
  rw [hText, List.reverse_cons]
  exact Reads.cons (beginValue_of_isNumberStart stack hc) (hRest [c] rest hChars)

/-- A text begins with a character that begins a value and does not close a list. -/
theorem exists_cons_text (layout : Layout) (depth : Nat) (json : Json) :
    ∃ c rest, json.text layout depth = c :: rest ∧ isBlank c = false ∧ c ≠ ']' := by
  cases json with
  | null => exact ⟨'n', _, rfl, by decide, by decide⟩
  | bool value =>
      cases value with
      | true => exact ⟨'t', _, rfl, by decide, by decide⟩
      | false => exact ⟨'f', _, rfl, by decide, by decide⟩
  | number value =>
      obtain ⟨c, rest, hText, hc⟩ := value.exists_cons_text
      exact ⟨c, rest, hText, isBlank_of_isNumberStart hc, ne_of_isNumberStart hc rfl⟩
  | string value => exact ⟨'"', _, rfl, by decide, by decide⟩
  | array items =>
      cases items with
      | nil => exact ⟨'[', _, rfl, by decide, by decide⟩
      | cons first rest => exact ⟨'[', _, rfl, by decide, by decide⟩
  | object fields =>
      cases fields with
      | nil => exact ⟨'\x7b', _, rfl, by decide, by decide⟩
      | cons first rest => exact ⟨'\x7b', _, rfl, by decide, by decide⟩

/-- The first item of a list is read where the list might also be closed. -/
theorem reads_firstItem {stack : List Frame} {layout : Layout} {depth : Nat} {json : Json}
    {after : State}
    (hText : Reads ⟨.items [] :: stack, .value⟩ (json.text layout depth) after) :
    Reads ⟨.items [] :: stack, .itemOrClose⟩ (json.text layout depth) after := by
  obtain ⟨c, rest, hCons, hBlank, hClose⟩ := exists_cons_text layout depth json
  have hStep : step ⟨.items [] :: stack, .itemOrClose⟩ c = step ⟨.items [] :: stack, .value⟩ c := by
    simp [step, hBlank, hClose]
  rw [hCons, Reads, List.foldlM_cons] at hText ⊢
  rw [hStep]
  exact hText

/-- The name of a field, its colon and the blanks after that. -/
theorem reads_name {state : State} {stack : List Frame} {before : List (String × Json)}
    (hOpen : step state '"' = some ⟨stack, .string (.name before) [] .outside⟩) (layout : Layout)
    (name : String) :
    Reads state (stringText name ++ layout.colon) ⟨.fields before name :: stack, .value⟩ := by
  refine (reads_stringText hOpen name).append ?_
  cases layout <;> rfl

mutual

/-- Where a value is due, the text of a value is read as that value. -/
theorem reads_text (layout : Layout) (depth : Nat) (stack : List Frame) (json : Json) :
    ∃ after, Reads ⟨stack, .value⟩ (json.text layout depth) after ∧ Holds stack json after := by
  match json with
  | .null => exact ⟨_, rfl, .complete _⟩
  | .bool true => exact ⟨_, rfl, .complete _⟩
  | .bool false => exact ⟨_, rfl, .complete _⟩
  | .number value =>
      refine ⟨_, reads_numberText stack value, .number ?_⟩
      rw [List.reverse_reverse, Number.ofText?_text]
  | .string value => exact ⟨_, reads_stringText rfl value, .complete _⟩
  | .array [] => exact ⟨_, rfl, .complete _⟩
  | .array (first :: rest) =>
      obtain ⟨state, hFirst, hHolds⟩ := reads_text layout (depth + 1) (.items [] :: stack) first
      obtain ⟨earlier, newest, last, hRest, hLast, hItems⟩ :=
        reads_itemsText layout (depth + 1) hHolds rest
      obtain ⟨closing, hBreak, hClosing⟩ := hLast.reads_lineBreak layout depth
      have hOpen : Reads ⟨stack, .value⟩ ('[' :: layout.lineBreak (depth + 1))
          ⟨.items [] :: stack, .itemOrClose⟩ :=
        Reads.cons rfl (Reads.blanks (fun c hc => by simp [step, hc])
          fun _ => isBlank_of_mem_lineBreak)
      have hEnd : step closing ']' = some ⟨stack, .complete (.array (first :: rest))⟩ := by
        rw [hClosing.step_eq rfl, show first :: rest = (newest :: earlier).reverse from hItems.symm]
        rfl
      refine ⟨_, ?_, .complete _⟩
      rw [text]
      exact (((hOpen.append (reads_firstItem hFirst)).append hRest).append hBreak).concat hEnd
  | .object [] => exact ⟨_, rfl, .complete _⟩
  | .object ((name, first) :: rest) =>
      obtain ⟨state, hFirst, hHolds⟩ :=
        reads_text layout (depth + 1) (.fields [] name :: stack) first
      obtain ⟨earlier, newest, lastName, last, hRest, hLast, hFields⟩ :=
        reads_fieldsText layout (depth + 1) hHolds rest
      obtain ⟨closing, hBreak, hClosing⟩ := hLast.reads_lineBreak layout depth
      have hOpen : Reads ⟨stack, .value⟩ ('\x7b' :: layout.lineBreak (depth + 1))
          ⟨stack, .nameOrClose⟩ :=
        Reads.cons rfl (Reads.blanks (fun c hc => by simp [step, hc])
          fun _ => isBlank_of_mem_lineBreak)
      have hEnd : step closing '\x7d' =
          some ⟨stack, .complete (.object ((name, first) :: rest))⟩ := by
        rw [hClosing.step_eq rfl,
          show (name, first) :: rest = ((lastName, newest) :: earlier).reverse from hFields.symm]
        rfl
      refine ⟨_, ?_, .complete _⟩
      rw [text, List.append_assoc _ (stringText name)]
      exact ((((hOpen.append (reads_name rfl layout name)).append hFirst).append hRest).append
        hBreak).concat hEnd

/-- The items after one that is already read are read in their order. -/
theorem reads_itemsText (layout : Layout) (depth : Nat) {stack : List Frame} {before : List Json}
    {value : Json} {state : State} (hHolds : Holds (.items before :: stack) value state)
    (items : List Json) :
    ∃ earlier newest after, Reads state (itemsText layout depth items) after ∧
      Holds (.items earlier :: stack) newest after ∧
      (newest :: earlier).reverse = (value :: before).reverse ++ items := by
  match items with
  | [] => exact ⟨before, value, state, Reads.nil state, hHolds, by simp⟩
  | item :: rest =>
      obtain ⟨next, hItem, hNext⟩ :=
        reads_text layout depth (.items (value :: before) :: stack) item
      obtain ⟨earlier, newest, after, hRest, hAfter, hItems⟩ :=
        reads_itemsText layout depth hNext rest
      have hComma : Reads state (',' :: layout.lineBreak depth)
          ⟨.items (value :: before) :: stack, .value⟩ :=
        Reads.cons (hHolds.step_eq rfl) (Reads.blanks (fun c hc => by simp [step, beginValue, hc])
          fun _ => isBlank_of_mem_lineBreak)
      refine ⟨earlier, newest, after, ?_, hAfter, by simpa using hItems⟩
      rw [itemsText]
      exact (hComma.append hItem).append hRest

/-- The fields after one that is already read are read in their order. -/
theorem reads_fieldsText (layout : Layout) (depth : Nat) {stack : List Frame}
    {before : List (String × Json)} {name : String} {value : Json} {state : State}
    (hHolds : Holds (.fields before name :: stack) value state) (fields : List (String × Json)) :
    ∃ earlier newest lastName after, Reads state (fieldsText layout depth fields) after ∧
      Holds (.fields earlier lastName :: stack) newest after ∧
      ((lastName, newest) :: earlier).reverse = ((name, value) :: before).reverse ++ fields := by
  match fields with
  | [] => exact ⟨before, value, name, state, Reads.nil state, hHolds, by simp⟩
  | (key, field) :: rest =>
      obtain ⟨next, hField, hNext⟩ :=
        reads_text layout depth (.fields ((name, value) :: before) key :: stack) field
      obtain ⟨earlier, newest, lastName, after, hRest, hAfter, hFields⟩ :=
        reads_fieldsText layout depth hNext rest
      have hComma : Reads state (',' :: layout.lineBreak depth)
          ⟨stack, .name ((name, value) :: before)⟩ :=
        Reads.cons (hHolds.step_eq rfl) (Reads.blanks (fun c hc => by simp [step, hc])
          fun _ => isBlank_of_mem_lineBreak)
      refine ⟨earlier, newest, lastName, after, ?_, hAfter, by simpa using hFields⟩
      rw [fieldsText, List.append_assoc _ (stringText key)]
      exact ((hComma.append (reads_name rfl layout key)).append hField).append hRest

end

end Reader

/-- The text of a value stands for that value, whatever its layout. -/
theorem parse?_render (layout : Layout) (json : Json) :
    parse? (render layout json) = some json := by
  obtain ⟨state, hText, hHolds⟩ := Reader.reads_text layout 0 [] json
  have hReads : (render layout json).toList.foldlM Reader.step Reader.start = some state := by
    rw [render, String.toList_ofList]
    exact hText
  rw [parse?, hReads]
  exact hHolds.finish?_eq

end TenantRoutes.Json
