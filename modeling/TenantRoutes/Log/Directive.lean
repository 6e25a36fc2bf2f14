import TenantRoutes.Log.Event
import TenantRoutes.Log.FieldValue
import TenantRoutes.Text.Position
/-! Directives of a filter of the log. A directive says up to which level the events of a part of
the program are shown, and may be only about events that have a field or are inside a span.

Blanks around the text of a directive are skipped to find its parts. The parts are then cut out of
the whole text at the positions that were found, so blanks in front shift every part. Where such a
cut would fall inside a character there is no reading at all. -/
namespace TenantRoutes.Log

/-- The rank that a level stands for, by its name in any case or by its number. -/
def rank? (text : String) : Option Nat :=
  let digits :=
    match text.toList with
    | '+' :: digits => digits
    | digits => digits
  if !digits.isEmpty && digits.all Char.isDigit then
    let number := digits.foldl (fun number digit => 10 * number + (digit.toNat - '0'.toNat)) 0
    if number ≤ 5 then some number else none
  else
    match Text.lower text with
    | "off" => some 0
    | "error" => some 1
    | "warn" => some 2
    | "info" => some 3
    | "debug" => some 4
    | "trace" => some 5
    | _ => none

/-- The events that a directive is about, among those of its target. -/
inductive Selection where
  | all
  /-- Events that have a field with this name. -/
  | withField (name : String)
  /-- Events inside spans of some name or with some value in a field. There are no spans. -/
  | insideSpans
deriving DecidableEq

/-- Whether an event is among those selected. Its message is one of its fields. -/
def Selection.selects (selection : Selection) (event : Event) : Bool :=
  match selection with
  | all => true
  | withField name => name == "message" || (event.fields.lookup name).isSome
  | insideSpans => false

/-- Up to which level events are shown. -/
structure Directive where
  /-- The directive is for events whose target begins so, or for all events. -/
  target : Option String := none
  /-- The greatest rank that is shown; with 0 nothing is. -/
  rank : Nat
  selection : Selection := .all
deriving DecidableEq

namespace Directive

/-- Whether a directive is about an event. -/
def covers (directive : Directive) (event : Event) : Bool :=
  directive.selection.selects event &&
    match directive.target with
    | none => true
    | some start => start.toList.isPrefixOf event.target.toList

/-- How long the target is. Any target is longer than none. -/
def targetSize (directive : Directive) : Nat :=
  match directive.target with
  | none => 0
  | some target => target.utf8ByteSize + 1

/-- The field that events need to have. -/
def field? (directive : Directive) : Option String :=
  match directive.selection with
  | .withField name => some name
  | .all | .insideSpans => none

/-- The order in which directives decide, from the least specific to the most specific. Longer
targets are more specific, and then a field is more specific than none. The alphabet decides between
directives that are equally specific, and directives are equal if they are about the same events. -/
def compare (a b : Directive) : Ordering :=
  (Ord.compare a.targetSize b.targetSize).then <|
    (Ord.compare a.field?.isSome.toNat b.field?.isSome.toNat).then <|
      (Ord.compare a.target b.target).then (Ord.compare a.field? b.field?)

/-- Why a text is no directive. -/
inductive Fault where
  | malformed
  /-- A part would begin or end inside a character. -/
  | dividedCharacter
deriving DecidableEq

/-- The characters that a directive may begin with, brackets apart. -/
def isStart (c : Char) : Bool :=
  c == '-' || c == ':' || c == '_' || Text.isLetterOrNumeral c

/-- The part of a text between two positions. -/
def part (text : List Char) (first last : Nat) : Except Fault (List Char) :=
  match Text.slice? text first last with
  | none => .error .dividedCharacter
  | some part => .ok part

/-- The level that begins at a position and goes on to the end. Without any level all are shown. -/
def levelFrom (text : List Char) (position : Nat) : Except Fault Nat := do
  match ← part text position (Text.byteSize text) with
  | [] => .ok 5
  | level =>
    match rank? (String.ofList level) with
    | none => .error .malformed
    | some rank => .ok rank

/-- The level after a closing bracket, with what follows the bracket from a position on. -/
def levelAfterBracket (text : List Char) (position : Nat) : List Char → Except Fault Nat
  | [] => .ok 5
  | '=' :: _ => levelFrom text (position + 1)
  | _ => .error .malformed

/-- The selection by a field: its name, and a value for it after an equals sign. After another one
anything may stand. -/
def selectionOf (field : List Char) : Except Fault Selection :=
  match Text.pieces '=' field with
  | _ :: value :: _ => if FieldValue.isWellFormed value then .ok .insideSpans else .error .malformed
  | _ => .ok (.withField (String.ofList field))

/-- The directive with a target, given the rest after an opening bracket, which begins at a
position. The bracket holds the name of a span, a field in braces, or both. -/
def ofBracket (text : List Char) (target : Option String) (position : Nat) (rest : List Char) :
    Except Fault Directive := do
  let (name, rest) := rest.span fun c => c != ']' && c != '{'
  let closing := position + Text.byteSize name
  match rest with
  | ']' :: rest =>
    let _ ← part text position closing
    let rank ← levelAfterBracket text (closing + 1) rest
    .ok { target, rank, selection := .insideSpans }
  | '{' :: rest =>
    let _ ← part text position closing
    let (field, rest) := rest.span (· != '}')
    let closingBrace := closing + 1 + Text.byteSize field
    match rest with
    | '}' :: rest =>
      let given ← part text (closing + 1) closingBrace
      if given.isEmpty then .error .malformed
      else
        let selection ← selectionOf given
        match rest with
        | ']' :: rest =>
          let rank ← levelAfterBracket text (closingBrace + 2) rest
          .ok { target, rank, selection := if name.isEmpty then selection else .insideSpans }
        | _ => .error .malformed
    | _ => .error .malformed
  | _ => .error .malformed

/-- The text without blanks at its ends. -/
def trim (text : List Char) : List Char :=
  ((text.dropWhile Text.isBlank).reverse.dropWhile Text.isBlank).reverse

/-- The directive that a text stands for: a level, or a target with brackets and a level after an
equals sign, either of which may be absent. A target without a level has all levels. -/
def ofText (text : List Char) : Except Fault Directive := do
  let (word, rest) := (trim text).span fun c => c != '=' && c != '['
  let position := Text.byteSize word
  match word, rest with
  | [], '[' :: rest => ofBracket text none 1 rest
  | [], _ => .error .malformed
  | first :: _, rest =>
    if !isStart first then .error .malformed
    else
      match rest with
      | '=' :: _ =>
        let target ← part text 0 position
        let rank ← levelFrom text (position + 1)
        .ok { target := some (String.ofList target), rank }
      | '[' :: rest =>
        let target ← part text 0 position
        ofBracket text (some (String.ofList target)) (position + 1) rest
      | _ =>
        match rank? (String.ofList text) with
        | some rank => .ok { rank }
        | none => .ok { target := some (String.ofList text), rank := 5 }

end Directive

end TenantRoutes.Log
