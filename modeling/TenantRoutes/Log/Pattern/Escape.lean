import TenantRoutes.Text.Blank
import TenantRoutes.Text.Letter
/-! Escapes of regular expressions, and the modes on which it depends which of them may stand where.

Expressions are about characters, but have no tables of letters and cases at hand, so parts that
need one are malformed: literals that ignore case, the shorthands for digits, blanks and word
characters, and the boundaries of words. A flag makes expressions be about ASCII instead, where
these parts are allowed, but none that could match a piece of a longer character. -/
namespace TenantRoutes.Log.Pattern

/-- The flags on which it depends what is well-formed. -/
structure Mode where
  /-- The expression is about all characters, and not about those of ASCII. -/
  unicode : Bool := true
  ignoresCase : Bool := false
  /-- Blanks and comments between the parts of the expression mean nothing. -/
  spaced : Bool := false

/-- What a backslash begins. -/
inductive Escape where
  /-- A character, which may be written as a byte. -/
  | character (c : Char) (asByte : Bool)
  /-- The digits, blanks or word characters, or all but these. -/
  | shorthand (negated : Bool)
  /-- The start or the end of the text. -/
  | edge
  /-- A place beside a word, or one that is not. -/
  | boundary

namespace Mode

/-- The mode with a flag turned on or off. -/
def withFlag? (mode : Mode) (flag : Char) (on : Bool) : Option Mode :=
  match flag with
  | 'i' => some { mode with ignoresCase := on }
  | 'u' => some { mode with unicode := on }
  | 'x' => some { mode with spaced := on }
  | 'm' | 's' | 'U' | 'R' => some mode
  | _ => none

/-- Drop blanks and comments, which end with their line. -/
def dropSpace (inComment : Bool) : List Char → List Char
  | [] => []
  | c :: rest =>
    if inComment then dropSpace (c != '\n') rest
    else if Text.isBlank c then dropSpace false rest
    else if c == '#' then dropSpace true rest
    else c :: rest

/-- The next part of an expression and what follows it. -/
def skip (mode : Mode) (text : List Char) : List Char :=
  if mode.spaced then dropSpace false text else text

/-- Whether a part may stand in an expression, outside of brackets. -/
def allows (mode : Mode) : Escape → Bool
  | .character c asByte =>
    if mode.unicode then !mode.ignoresCase else !asByte || c.toNat < 0x80
  | .shorthand negated => !mode.unicode && !negated
  | .edge => true
  | .boundary => !mode.unicode

/-- Whether a part may stand in brackets. -/
def allowsInBrackets (mode : Mode) : Escape → Bool
  | .character c _ => if mode.unicode then !mode.ignoresCase else c.toNat < 0x80
  | .shorthand negated => !mode.unicode && !negated
  | .edge | .boundary => false

end Mode

namespace Escape

/-- The value of a number of hexadecimal digits. -/
def hexadecimal? (mode : Mode) : (count value : Nat) → List Char → Option (Nat × List Char)
  | 0, value, text => some (value, text)
  | count + 1, value, text =>
    match mode.skip text with
    | [] => none
    | c :: rest => do hexadecimal? mode count (16 * value + (← Text.hexValue? c)) rest

/-- A character by its code point, given with some number of digits. With two it is a byte. -/
def numbered? (mode : Mode) (count : Nat) (text : List Char) : Option (Escape × List Char) := do
  let (code, rest) ← hexadecimal? mode count 0 text
  if code.isValidChar then some (character (Char.ofNat code) (count == 2), rest) else none

/-- What a backslash and one more character stand for. Signs of ASCII may be escaped, whatever they
mean without a backslash. -/
def ofChar? : Char → Option Escape
  | 'd' | 's' | 'w' => some (shorthand false)
  | 'D' | 'S' | 'W' => some (shorthand true)
  | 'A' | 'z' => some edge
  | 'b' | 'B' | '<' | '>' => some boundary
  | 'a' => some (character '\x07' false)
  | 't' => some (character '\t' false)
  | 'n' => some (character '\n' false)
  | 'v' => some (character '\x0b' false)
  | 'f' => some (character '\x0c' false)
  | 'r' => some (character '\r' false)
  | c => if c.toNat < 0x80 && !Text.isAlphanumeric c then some (character c false) else none

/-- The escape in the text after a backslash, with the rest. -/
def read? (mode : Mode) : List Char → Option (Escape × List Char)
  | [] => none
  | 'x' :: rest => numbered? mode 2 rest
  | 'u' :: rest => numbered? mode 4 rest
  | 'U' :: rest => numbered? mode 8 rest
  | c :: rest => (ofChar? c).map fun escape => (escape, rest)

end Escape

end TenantRoutes.Log.Pattern
