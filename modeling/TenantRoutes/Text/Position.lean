/-! Positions in a text, counted in bytes of UTF-8. A position may fall inside a character, and
there a text cannot be cut. -/
namespace TenantRoutes.Text

/-- How many bytes characters take. -/
def byteSize : List Char → Nat
  | [] => 0
  | c :: rest => c.utf8Size + byteSize rest

@[simp] theorem byteSize_nil : byteSize [] = 0 := rfl

@[simp] theorem byteSize_cons (c : Char) (rest : List Char) :
    byteSize (c :: rest) = c.utf8Size + byteSize rest := rfl

@[simp] theorem byteSize_append (a b : List Char) :
    byteSize (a ++ b) = byteSize a + byteSize b := by
  induction a with
  | nil => simp
  | cons c rest ih => simp [ih, Nat.add_assoc]

/-- What is left of a text from a position on, if it can be cut there. -/
def dropBytes? : List Char → Nat → Option (List Char)
  | text, 0 => some text
  | [], _ + 1 => none
  | c :: rest, position + 1 =>
    if c.utf8Size ≤ position + 1 then dropBytes? rest (position + 1 - c.utf8Size) else none

/-- The characters before a position, if the text can be cut there. -/
def takeBytes? : List Char → Nat → Option (List Char)
  | _, 0 => some []
  | [], _ + 1 => none
  | c :: rest, position + 1 =>
    if c.utf8Size ≤ position + 1 then
      (takeBytes? rest (position + 1 - c.utf8Size)).map (c :: ·)
    else none

/-- The characters between two positions, if the text can be cut at both. -/
def slice? (text : List Char) (first last : Nat) : Option (List Char) :=
  (dropBytes? text first).bind fun rest => takeBytes? rest (last - first)

/-- A text can be cut after any of its characters. -/
theorem dropBytes?_append (a b : List Char) : dropBytes? (a ++ b) (byteSize a) = some b := by
  induction a with
  | nil => cases b <;> rfl
  | cons c rest ih =>
    obtain ⟨size, hsize⟩ : ∃ size, c.utf8Size + byteSize rest = size + 1 :=
      ⟨c.utf8Size + byteSize rest - 1, by have := c.utf8Size_pos; omega⟩
    have hrest : size + 1 - c.utf8Size = byteSize rest := by omega
    have hle : c.utf8Size ≤ size + 1 := by omega
    simp [dropBytes?, hsize, hle, hrest, ih]

theorem takeBytes?_append (a b : List Char) : takeBytes? (a ++ b) (byteSize a) = some a := by
  induction a with
  | nil => cases b <;> rfl
  | cons c rest ih =>
    obtain ⟨size, hsize⟩ : ∃ size, c.utf8Size + byteSize rest = size + 1 :=
      ⟨c.utf8Size + byteSize rest - 1, by have := c.utf8Size_pos; omega⟩
    have hrest : size + 1 - c.utf8Size = byteSize rest := by omega
    have hle : c.utf8Size ≤ size + 1 := by omega
    simp [takeBytes?, hsize, hle, hrest, ih]

/-- Cutting at the ends of characters gives the characters between. -/
theorem slice?_append (a b c : List Char) :
    slice? (a ++ (b ++ c)) (byteSize a) (byteSize a + byteSize b) = some b := by
  simp [slice?, dropBytes?_append, takeBytes?_append]

end TenantRoutes.Text
