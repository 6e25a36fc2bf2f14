import TenantRoutes.Text.Ascii
import TenantRoutes.Toml.Reader
/-! Blanks, comments, keys and strings of TOML. -/
namespace TenantRoutes.Toml

open Reader

/-- A blank within a line. -/
def isBlank (c : Char) : Bool :=
  c == ' ' || c == '\t'

def blanks : Reader Unit := do
  let _ ← takeWhile isBlank

/-- The end of a line, alone or after a carriage return. -/
def newline : Reader Unit :=
  word ['\n'] <|> word ['\r', '\n']

/-- The characters of a comment: no control character but the tab. -/
def isCommentChar (c : Char) : Bool :=
  c == '\t' || (0x20 ≤ c.toNat && c.toNat != 0x7f)

def comment : Reader Unit := do
  let _ ← char '#'
  let _ ← takeWhile isCommentChar

/-- Blanks, ends of lines and comments, as they may stand inside an array. -/
def spacing : Reader Unit := do
  let _ ← many (choice
    [do let _ ← takeWhile1 isBlank,
     newline,
     do comment; newline])

/-- What may follow an expression on its line. -/
def endOfLine : Reader Unit := do
  blanks
  let _ ← optional comment
  newline <|> atEnd

/-- The characters that stand for themselves in a basic string. -/
def isPlainChar (c : Char) : Bool :=
  isCommentChar c && c != '"' && c != '\\'

/-- The characters of a literal string. -/
def isLiteralChar (c : Char) : Bool :=
  isCommentChar c && c != '\''

def isHexDigit (c : Char) : Bool :=
  (Text.hexValue? c).isSome

/-- The character of a code point; a surrogate is none. -/
def charOfCode? (code : Nat) : Option Char :=
  if code.isValidChar then some (Char.ofNat code) else none

/-- A character given by the hexadecimal digits of its code point. -/
def charByNumber (digits : Nat) : Reader Char := do
  let digits ← count isHexDigit digits
  let code := digits.foldl (fun code c => 16 * code + (Text.hexValue? c).getD 0) 0
  ofOption (charOfCode? code)

/-- An escape sequence. -/
def escape : Reader Char := do
  let _ ← char '\\'
  let kind ← satisfy fun _ => true
  match kind with
  | 'b' => pure '\x08'
  | 'f' => pure '\x0c'
  | 'n' => pure '\n'
  | 'r' => pure '\r'
  | 't' => pure '\t'
  | '"' => pure '"'
  | '\\' => pure '\\'
  | 'u' => charByNumber 4
  | 'U' => charByNumber 8
  | _ => fail

/-- A string on one line between double quotes. -/
def basicString : Reader (List Char) := do
  let _ ← char '"'
  let parts ← many (satisfy isPlainChar <|> escape)
  let _ ← char '"'
  pure parts

/-- A string on one line between single quotes, without escapes. -/
def literalString : Reader (List Char) := do
  let _ ← char '\''
  let chars ← takeWhile isLiteralChar
  let _ ← char '\''
  pure chars

/-- A line of which a backslash takes away the end, together with the blanks and empty lines that
follow. -/
def continuation : Reader (List Char) := do
  let _ ← many1 (do
    let _ ← char '\\'
    blanks
    newline
    let _ ← many ((do let _ ← takeWhile1 isBlank) <|> newline))
  pure []

/-- The end of a line inside a string is always a single character. -/
def lineInString : Reader (List Char) := do
  newline
  pure ['\n']

def single (read : Reader Char) : Reader (List Char) := do
  pure [← read]

/-- A part of a string of several lines between double quotes. -/
def basicPart : Reader (List Char) :=
  choice [takeWhile1 isPlainChar, continuation, single escape, lineInString]

/-- A part of a string of several lines between single quotes. -/
def literalPart : Reader (List Char) :=
  takeWhile1 isLiteralChar <|> lineInString

/-- One or two quotes in front of what `next` takes. -/
def quotesBefore (quote : Char) (next : Reader Unit) : Reader (List Char) :=
  (do word [quote, quote]; lookahead next; pure [quote, quote])
    <|> (do word [quote]; lookahead next; pure [quote])

/-- A string of several lines. A line end right after the opening quotes does not count. Up to two
quotes in a row belong to the string, also right before the closing quotes. -/
def longString (quote : Char) (part : Reader (List Char)) : Reader (List Char) := do
  let delimiter := word [quote, quote, quote]
  delimiter
  let _ ← optional newline
  let others := do let _ ← satisfy (· != quote)
  let parts ← many (part <|> quotesBefore quote others)
  let quotes ← optional (quotesBefore quote delimiter)
  delimiter
  pure (parts.flatten ++ quotes.getD [])

/-- A string in any of its four forms. -/
def string : Reader String := do
  let chars ← choice
    [longString '"' basicPart, basicString, longString '\'' literalPart, literalString]
  pure (String.ofList chars)

/-- The characters of a key without quotes. -/
def isBareKeyChar (c : Char) : Bool :=
  Text.isAlphanumeric c || c == '-' || c == '_'

def simpleKey : Reader String := do
  pure (String.ofList (← choice [basicString, literalString, takeWhile1 isBareKeyChar]))

/-- The number of parts that a dotted key may have, and the number of brackets that may be open
around a value. -/
def nestingLimit : Nat := 79

/-- A key of one or more parts with dots between them. -/
def key : Reader (List String) :=
  guard (·.length ≤ nestingLimit) (separatedBy (char '.') do
    blanks
    let part ← simpleKey
    blanks
    pure part)

end TenantRoutes.Toml
