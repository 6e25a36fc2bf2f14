import TenantRoutes.Log.Pattern.Brackets
/-! Well-formed regular expressions. An expression is read part by part and is well-formed if it can
be read to its end with every group closed and is not nested too deep. A pattern ends before the
first brace that closes, so no part with braces of its own is ever complete. -/
namespace TenantRoutes.Log.Pattern

/-- A part of a sequence. Flags are parts that cannot be repeated. -/
structure Part where
  depth : Nat := 0
  repeatable : Bool := true

/-- Branches with bars between them, as far as they have been read. -/
structure Branches where
  /-- The depth of the deepest branch before the last bar. -/
  before : Option Nat := none
  /-- The parts of the last branch, in reverse order. -/
  parts : List Part := []

namespace Branches

def depthOfLast (branches : Branches) : Nat :=
  depthTogether (branches.parts.map Part.depth)

def depth (branches : Branches) : Nat :=
  match branches.before with
  | none => branches.depthOfLast
  | some before => max before branches.depthOfLast + 1

def add (branches : Branches) (part : Part) : Branches :=
  { branches with parts := part :: branches.parts }

/-- With another branch begun. -/
def next (branches : Branches) : Branches :=
  { before := some (max (branches.before.getD 0) branches.depthOfLast), parts := [] }

/-- With the last part repeated. -/
def repeatLast? (branches : Branches) : Option Branches :=
  match branches.parts with
  | [] => none
  | last :: parts =>
    if last.repeatable then
      some { branches with parts := { last with depth := last.depth + 1 } :: parts }
    else none

end Branches

/-- How far an expression has been read. -/
structure Progress where
  mode : Mode := {}
  branches : Branches := {}
  /-- The branches around the groups that are open, with the modes that hold there. -/
  outer : List (Mode × Branches) := []
  /-- The names of the groups so far. -/
  names : List String := []

/-- The mode that flags lead to, and the sign that ends them with what follows. No flag is given
twice, and some flag follows the sign that turns flags off. -/
def flags? (mode : Mode) (seen : List Char) : List Char → Option (Mode × List Char)
  | [] => none
  | c :: rest =>
    if c == ':' || c == ')' then
      if seen.head? == some '-' then none else some (mode, c :: rest)
    else if c ∈ seen then none
    else if c == '-' then flags? mode (c :: seen) rest
    else (mode.withFlag? c ('-' ∉ seen)).bind fun mode => flags? mode (c :: seen) rest

/-- The name of a group. -/
def groupName? (text : List Char) : Option (String × List Char) :=
  match text.span (· != '>') with
  | (first :: others, '>' :: rest) =>
    if (first == '_' || Text.isLetter first)
        && others.all (fun c => c ∈ ['_', '.', '[', ']'] || Text.isLetterOrNumeral c) then
      some (String.ofList (first :: others), rest)
    else none
  | _ => none

namespace Progress

def add (progress : Progress) (part : Part) : Progress :=
  { progress with branches := progress.branches.add part }

/-- With a group opened, in which a mode holds. -/
def inGroup (progress : Progress) (mode : Mode) : Progress :=
  { progress with
    mode, branches := {}, outer := (progress.mode, progress.branches) :: progress.outer }

/-- With a group opened that has a name. -/
def inNamedGroup? (progress : Progress) (text : List Char) : Option (Progress × List Char) := do
  let (name, rest) ← groupName? text
  if name ∈ progress.names then none
  else some ({ progress.inGroup progress.mode with names := name :: progress.names }, rest)

/-- With the last group closed. -/
def closeGroup? (progress : Progress) : Option Progress :=
  match progress.outer with
  | [] => none
  | (mode, branches) :: outer =>
    some { progress with
      mode, branches := branches.add { depth := progress.branches.depth + 1 }, outer }

/-- What an opening parenthesis begins: a group, or flags for what follows. -/
def open? (progress : Progress) (text : List Char) : Option (Progress × List Char) :=
  match progress.mode.skip text with
  | '?' :: 'P' :: '<' :: rest => progress.inNamedGroup? rest
  | '?' :: '<' :: rest => progress.inNamedGroup? rest
  | '?' :: ')' :: _ => none
  | '?' :: rest => do
    let (mode, rest) ← flags? progress.mode [] rest
    match rest with
    | ':' :: rest => some (progress.inGroup mode, rest)
    | _ => some ({ progress.add { repeatable := false } with mode }, rest.drop 1)
  | rest => some (progress.inGroup progress.mode, rest)

/-- Read one part of an expression. -/
def next? (progress : Progress) : List Char → Option (Progress × List Char)
  | [] => none
  | c :: rest =>
    let mode := progress.mode
    let simple (allowed : Bool) (rest : List Char) : Option (Progress × List Char) :=
      if allowed then some (progress.add {}, rest) else none
    match c with
    | '(' => progress.open? rest
    | ')' => progress.closeGroup?.map fun progress => (progress, rest)
    | '|' => some ({ progress with branches := progress.branches.next }, rest)
    | '*' | '+' | '?' => do
      let branches ← progress.branches.repeatLast?
      let rest :=
        match rest with
        | '?' :: rest => rest
        | rest => rest
      some ({ progress with branches }, rest)
    | '{' => none
    | '[' => do
      let (depth, rest) ← Brackets.read? mode rest
      some (progress.add { depth }, rest)
    | '\\' => do
      let (escape, rest) ← Escape.read? mode rest
      simple (mode.allows escape) rest
    | '.' => simple mode.unicode rest
    | '^' | '$' => simple true rest
    | c => simple (mode.allows (.character c false)) rest

/-- Whether an expression can be read to its end; `rounds` bounds its parts. -/
def finishes : (rounds : Nat) → Progress → List Char → Bool
  | 0, _, _ => false
  | rounds + 1, progress, text =>
    match progress.mode.skip text with
    | [] => progress.outer.isEmpty && progress.branches.depth ≤ maxDepth
    | text =>
      match progress.next? text with
      | none => false
      | some (progress, rest) => finishes rounds progress rest

end Progress

/-- Whether a text is a well-formed expression. -/
def isWellFormed (text : List Char) : Bool :=
  Progress.finishes (text.length + 1) {} text

end TenantRoutes.Log.Pattern
