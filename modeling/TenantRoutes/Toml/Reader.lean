/-! Readers of text. A reader takes a value off the front of a text and leaves the rest, or fails.
Readers are put together by sequence, by choice of the first that succeeds, and by repetition,
which goes on for at most as many rounds as there are characters. -/
namespace TenantRoutes.Toml

/-- A value from the front of a text, with the rest. -/
def Reader (α : Type) := List Char → Option (α × List Char)

namespace Reader

variable {α β : Type}

instance : Monad Reader where
  pure value := fun text => some (value, text)
  bind read next := fun text =>
    match read text with
    | none => none
    | some (value, rest) => next value rest

def fail : Reader α := fun _ => none

/-- The first of two readers that succeeds. -/
def orElse (first second : Reader α) : Reader α := fun text =>
  match first text with
  | some result => some result
  | none => second text

instance : OrElse (Reader α) where
  orElse first second := first.orElse (second ())

/-- The first of several readers that succeeds. -/
def choice (readers : List (Reader α)) : Reader α :=
  readers.foldr orElse fail

/-- What a reader takes, or nothing. -/
def optional (read : Reader α) : Reader (Option α) := fun text =>
  match read text with
  | some (value, rest) => some (some value, rest)
  | none => some (none, text)

/-- A character of a class. -/
def satisfy (accepts : Char → Bool) : Reader Char
  | [] => none
  | c :: rest => if accepts c then some (c, rest) else none

/-- A given character. -/
def char (expected : Char) : Reader Char :=
  satisfy (· == expected)

/-- A given sequence of characters. -/
def word : List Char → Reader Unit
  | [] => pure ()
  | expected :: rest => do
    let _ ← char expected
    word rest

/-- All characters of a class at the front. -/
def takeWhile (accepts : Char → Bool) : Reader (List Char) := fun text =>
  some (text.span accepts)

/-- All characters of a class at the front, at least one. -/
def takeWhile1 (accepts : Char → Bool) : Reader (List Char) := do
  let first ← satisfy accepts
  let others ← takeWhile accepts
  pure (first :: others)

/-- Exactly some number of characters of a class. -/
def count (accepts : Char → Bool) : Nat → Reader (List Char)
  | 0 => pure []
  | n + 1 => do
    let first ← satisfy accepts
    let others ← count accepts n
    pure (first :: others)

/-- Succeeds where a reader would, and takes nothing. -/
def lookahead (read : Reader α) : Reader Unit := fun text =>
  (read text).map fun _ => ((), text)

/-- Succeeds at the end of the text. -/
def atEnd : Reader Unit
  | [] => some ((), [])
  | _ => none

/-- A value that meets a condition. -/
def guard (condition : α → Bool) (read : Reader α) : Reader α := do
  let value ← read
  if condition value then pure value else fail

/-- The value of an option, failing where there is none. -/
def ofOption : Option α → Reader α
  | some value => pure value
  | none => fail

/-- What a reader takes in at most some number of rounds. -/
def repeatWithin (read : Reader α) : Nat → Reader (List α)
  | 0 => pure []
  | rounds + 1 => fun text =>
    match read text with
    | none => some ([], text)
    | some (value, rest) =>
      match repeatWithin read rounds rest with
      | some (others, rest) => some (value :: others, rest)
      | none => none

/-- What a reader takes over and over until it fails. -/
def many (read : Reader α) : Reader (List α) := fun text =>
  repeatWithin read text.length text

/-- What a reader takes over and over, at least once. -/
def many1 (read : Reader α) : Reader (List α) := do
  let first ← read
  let others ← many read
  pure (first :: others)

/-- One or more values with separators between them. -/
def separatedBy (separator : Reader β) (read : Reader α) : Reader (List α) := do
  let first ← read
  let others ← many (do let _ ← separator; read)
  pure (first :: others)

/-- What a reader takes from the whole of a text. -/
def run? (read : Reader α) (text : List Char) : Option α :=
  match read text with
  | some (value, []) => some value
  | _ => none

end Reader

end TenantRoutes.Toml
