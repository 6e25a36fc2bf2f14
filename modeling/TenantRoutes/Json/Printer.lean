import TenantRoutes.Json.Number
/-! The text of a JSON value, on one line without blanks or spread over lines with two spaces for
each level. The two layouts differ in blanks between the tokens only. -/
namespace TenantRoutes.Json

/-- How a text is laid out. -/
inductive Layout where
  | compact
  | pretty
deriving DecidableEq

/-- The blanks before an item or a closing bracket at a depth. -/
def Layout.lineBreak : Layout → Nat → List Char
  | compact, _ => []
  | pretty, depth => '\n' :: List.replicate (2 * depth) ' '

/-- What stands between a name and its value. -/
def Layout.colon : Layout → List Char
  | compact => [':']
  | pretty => [':', ' ']

/-- One character inside a string. Only the quote, the backslash and the characters below U+0020
are escaped. -/
def escapedChar (c : Char) : List Char :=
  match c with
  | '"' => ['\\', '"']
  | '\\' => ['\\', '\\']
  | '\x08' => ['\\', 'b']
  | '\x0c' => ['\\', 'f']
  | '\n' => ['\\', 'n']
  | '\r' => ['\\', 'r']
  | '\t' => ['\\', 't']
  | c =>
    if c.toNat < 0x20 then
      ['\\', 'u', '0', '0', Nat.digitChar (c.toNat / 16), Nat.digitChar (c.toNat % 16)]
    else [c]

def stringText (s : String) : List Char :=
  '"' :: s.toList.flatMap escapedChar ++ ['"']

mutual

/-- The text of a value that starts at a depth. -/
def text (layout : Layout) (depth : Nat) : Json → List Char
  | null => "null".toList
  | bool true => "true".toList
  | bool false => "false".toList
  | number value => value.text
  | string value => stringText value
  | array [] => ['[', ']']
  | array (first :: rest) =>
    '[' :: layout.lineBreak (depth + 1) ++ text layout (depth + 1) first
      ++ itemsText layout (depth + 1) rest ++ layout.lineBreak depth ++ [']']
  | object [] => ['\x7b', '\x7d']
  | object ((name, first) :: rest) =>
    '\x7b' :: layout.lineBreak (depth + 1) ++ stringText name ++ layout.colon
      ++ text layout (depth + 1) first
      ++ fieldsText layout (depth + 1) rest ++ layout.lineBreak depth ++ ['\x7d']

/-- The items after the first. -/
def itemsText (layout : Layout) (depth : Nat) : List Json → List Char
  | [] => []
  | item :: rest =>
    ',' :: layout.lineBreak depth ++ text layout depth item ++ itemsText layout depth rest

/-- The fields after the first. -/
def fieldsText (layout : Layout) (depth : Nat) : List (String × Json) → List Char
  | [] => []
  | (name, value) :: rest =>
    ',' :: layout.lineBreak depth ++ stringText name ++ layout.colon ++ text layout depth value
      ++ fieldsText layout depth rest

end

/-- The text of a value in a layout. -/
def render (layout : Layout) (json : Json) : String :=
  String.ofList (json.text layout 0)

end TenantRoutes.Json
