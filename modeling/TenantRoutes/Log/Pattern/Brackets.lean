import TenantRoutes.Log.Pattern.Escape
import TenantRoutes.Log.Pattern.Nesting
/-! Characters in brackets in a regular expression. Brackets hold characters, ranges, named classes
and further brackets, in several operands with doubled signs between them. Brackets that are negated
hold all other characters, so in an expression about ASCII there are none. -/
namespace TenantRoutes.Log.Pattern

/-- How far brackets have been read. -/
structure Brackets where
  /-- The depth of the operands before the last doubled sign. -/
  before : Option Nat := none
  /-- The depths of the members of the last operand. -/
  members : List Nat := []
  /-- Only hyphens have been read, which stand for themselves here. -/
  atStart : Bool := true

namespace Brackets

/-- The depth of what the brackets hold. -/
def depth (brackets : Brackets) : Nat :=
  match brackets.before with
  | none => depthTogether brackets.members
  | some before => max before (depthTogether brackets.members) + 1

/-- With a member added after which hyphens have their meaning. -/
def add (brackets : Brackets) (depth : Nat) : Brackets :=
  { brackets with members := depth :: brackets.members, atStart := false }

/-- With another operand begun. -/
def nextOperand (brackets : Brackets) : Brackets :=
  { before := some brackets.depth, members := [], atStart := false }

/-- A character or shorthand, with the rest. -/
def member? (mode : Mode) (text : List Char) : Option (Escape × List Char) := do
  let (member, rest) ←
    match text with
    | [] => none
    | '\\' :: rest => Escape.read? mode rest
    | c :: rest => some (.character c false, rest)
  if mode.allowsInBrackets member then some (member, rest) else none

/-- The character that decides whether a hyphen before it makes a range. It is looked for past
blanks and the sign that begins a comment. -/
def afterHyphen? (mode : Mode) (text : List Char) : Option Char :=
  if mode.spaced then
    match text.dropWhile Text.isBlank with
    | '#' :: rest => (rest.dropWhile Text.isBlank).head?
    | rest => rest.head?
  else text.head?

/-- What follows a member or a range of characters. A hyphen before the closing bracket or before
another hyphen makes no range. -/
def afterMember? (mode : Mode) (text : List Char) : Option (List Char) := do
  let (first, rest) ← member? mode text
  match mode.skip rest with
  | '-' :: afterHyphen =>
    if afterHyphen? mode afterHyphen ∈ [some ']', some '-'] then some ('-' :: afterHyphen)
    else
      match first, ← member? mode (mode.skip afterHyphen) with
      | .character low _, (.character high _, rest) => if low ≤ high then some rest else none
      | _, _ => none
  | rest => some rest

/-- The classes of ASCII characters that have names. -/
def classNames : List String :=
  ["alnum", "alpha", "ascii", "blank", "cntrl", "digit", "graph", "lower", "print", "punct",
    "space", "upper", "word", "xdigit"]

/-- What follows the name of a class between colons and its bracket, and whether the class is
negated. -/
def afterClassName? : List Char → Option (Bool × List Char)
  | ':' :: rest =>
    let (negated, rest) :=
      match rest with
      | '^' :: rest => (true, rest)
      | rest => (false, rest)
    let (name, rest) := rest.span (· != ':')
    match rest with
    | ':' :: ']' :: rest => if String.ofList name ∈ classNames then some (negated, rest) else none
    | _ => none
  | _ => none

/-- Whether a class with a name may stand in brackets. -/
def allowsClass (mode : Mode) (negated : Bool) : Bool :=
  if mode.unicode then !mode.ignoresCase else !negated

/-- What follows an opening bracket and a sign that negates. -/
def afterSign? (mode : Mode) (text : List Char) : Option (List Char) :=
  match mode.skip text with
  | '^' :: rest => if mode.unicode then some rest else none
  | rest => some rest

/-- The depth of the outermost brackets, with what follows them; `outer` are those around the
brackets that are being read, and `rounds` bounds the members. -/
def finish? (mode : Mode) :
    (rounds : Nat) → Brackets → (outer : List Brackets) → List Char → Option (Nat × List Char)
  | 0, _, _, _ => none
  | rounds + 1, brackets, outer, text =>
    let itself (brackets : Brackets) (c : Char) (rest : List Char) : Option (Nat × List Char) :=
      if mode.allowsInBrackets (.character c false) then finish? mode rounds brackets outer rest
      else none
    match mode.skip text, brackets.atStart, brackets.members with
    | [], _, _ => none
    | '-' :: rest, true, members =>
      itself { brackets with members := 0 :: members } '-' rest
    | ']' :: rest, true, [] => itself (brackets.add 0) ']' rest
    | ']' :: rest, _, _ =>
      match outer with
      | [] => some (brackets.depth + 1, rest)
      | parent :: outer => finish? mode rounds (parent.add (brackets.depth + 1)) outer rest
    | '[' :: rest, _, _ =>
      match afterClassName? rest with
      | some (negated, rest) =>
        if allowsClass mode negated then finish? mode rounds (brackets.add 0) outer rest else none
      | none => (afterSign? mode rest).bind (finish? mode rounds {} (brackets :: outer))
    | '&' :: '&' :: rest, _, _ => finish? mode rounds brackets.nextOperand outer rest
    | '-' :: '-' :: rest, _, _ => finish? mode rounds brackets.nextOperand outer rest
    | '~' :: '~' :: rest, _, _ => finish? mode rounds brackets.nextOperand outer rest
    | text, _, _ => (afterMember? mode text).bind (finish? mode rounds (brackets.add 0) outer)

/-- The depth of the brackets in the text after an opening one, with the rest. -/
def read? (mode : Mode) (text : List Char) : Option (Nat × List Char) :=
  (afterSign? mode text).bind (finish? mode (text.length + 1) {} [])

end Brackets

end TenantRoutes.Log.Pattern
