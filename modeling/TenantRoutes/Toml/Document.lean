import TenantRoutes.Toml.Number
import TenantRoutes.Toml.Tree
/-! TOML documents. A document is read into sections, each a header with the keys and values below
it, and the sections are put together to one table. The result is given as JSON, which has no dates
and whose numbers no field of a policy takes: every number becomes the same decimal, and a date
becomes an object with a field that no record knows. -/
namespace TenantRoutes.Toml

open Reader

/-- Stands for any number. -/
def someNumber : Json :=
  .number (.decimal 0 0)

/-- Stands for a date. -/
def someDate (text : List Char) : Json :=
  .object [("datetime", .string (String.ofList text))]

/-- A key with what follows its equals sign. -/
def keyValue (value : Reader Json) : Reader (List String × Json) := do
  let path ← key
  let _ ← char '='
  blanks
  let json ← value
  blanks
  pure (path, json)

/-- An array, over any number of lines and with an optional comma at the end. -/
def array (value : Reader Json) : Reader Json := do
  let _ ← char '['
  let items ← optional (separatedBy (char ',') do
    spacing
    let item ← value
    spacing
    pure item)
  let _ ← optional (if items.isSome then do let _ ← char ',' else fail)
  spacing
  let _ ← char ']'
  pure (.array (items.getD []))

/-- A table on one line. -/
def inlineTable (value : Reader Json) : Reader Json := do
  let _ ← char '\x7b'
  let values ← optional (separatedBy (char ',') (keyValue value))
  blanks
  let _ ← char '\x7d'
  let entries ← ofOption (Entries.addValues [] (values.getD []))
  pure (Node.table .header entries).toJson

/-- A value without values inside. -/
def scalar : Reader Json :=
  choice
    [do pure (.string (← string)),
     do word ['t', 'r', 'u', 'e']; pure (.bool true),
     do word ['f', 'a', 'l', 's', 'e']; pure (.bool false),
     do pure (someDate (← dateTime)),
     do let _ ← choice [finiteFloat, specialFloat, integer]; pure someNumber]

/-- A value with at most some number of brackets open inside each other. -/
def value : Nat → Reader Json
  | 0 => scalar
  | depth + 1 => choice [scalar, array (value depth), inlineTable (value depth)]

/-- What a section begins with. -/
inductive Header where
  | table (path : List String)
  | element (path : List String)

/-- One line of a document: a header, a key with its value, or nothing. -/
inductive Line where
  | header (header : Header)
  | entry (path : List String) (json : Json)
  | empty

def headerLine : Reader Header :=
  (do
    word ['[', '[']
    let path ← key
    word [']', ']']
    pure (.element path))
  <|> (do
    let _ ← char '['
    let path ← key
    let _ ← char ']'
    pure (.table path))

/-- A line with its end. A line at the end of the text may lack a line end, but then holds
something. -/
def line : Reader Line := do
  blanks
  choice
    [newline *> pure .empty,
     comment *> (newline <|> atEnd) *> pure .empty,
     do let header ← headerLine; endOfLine; pure (.header header),
     do
      let (path, json) ← keyValue (value nestingLimit)
      endOfLine
      pure (.entry path json)]

/-- All lines of a document. A byte order mark may stand before the first. -/
def lines : Reader (List Line) := do
  let _ ← optional (char '\ufeff')
  let lines ← many line
  blanks
  atEnd
  pure lines

/-- The values below each header, and those before the first. -/
def sections : List Line → List (List String × Json) × List (Header × List (List String × Json))
  | [] => ([], [])
  | .empty :: rest => sections rest
  | .entry path json :: rest =>
    let (values, later) := sections rest
    ((path, json) :: values, later)
  | .header header :: rest =>
    let (values, later) := sections rest
    ([], (header, values) :: later)

/-- Add a section to the tables read so far. -/
def addSection (root : Entries) (header : Header) (values : List (List String × Json)) :
    Option Entries :=
  match header with
  | .table path =>
    match path.getLast? with
    | none => none
    | some key =>
      Entries.descend false (fun _ entries => do
        let before ←
          match Entries.find? key entries with
          | none => some []
          | some (.table .onPath inner) => some inner
          | some _ => none
        let inner ← Entries.addValues before values
        some (Entries.put key (.table .header inner) entries)) path.dropLast .header root
  | .element path =>
    match path.getLast? with
    | none => none
    | some key =>
      Entries.descend false (fun _ entries => do
        let before ←
          match Entries.find? key entries with
          | none => some []
          | some (.tables elements) => some elements
          | some _ => none
        let inner ← Entries.addValues [] values
        some (Entries.put key (.tables (before ++ [.table .header inner])) entries))
        path.dropLast .header root

/-- The table of a document. -/
def tableOf? (lines : List Line) : Option Entries := do
  let (values, later) := sections lines
  let root ← Entries.addValues [] values
  later.foldlM (fun root (header, values) => addSection root header values) root

/-- The table that a text stands for, if it is TOML. -/
def parse? (text : String) : Option Json := do
  let lines ← lines.run? text.toList
  let root ← tableOf? lines
  some (Node.table .header root).toJson

end TenantRoutes.Toml
