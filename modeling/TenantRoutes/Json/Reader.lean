import TenantRoutes.Json.Number
import TenantRoutes.Text.Ascii
/-! Reading JSON text with a stack of open brackets. The reader takes one character at a time, so a
text is read by folding `step` over it, and what remains to be read never occurs in a state. -/
namespace TenantRoutes.Json.Reader

/-- An open bracket with what was read inside it, newest first. -/
inductive Frame where
  | items (before : List Json)
  | fields (before : List (String × Json)) (name : String)

/-- What a string is: a value, or the name of a field that follows others. -/
inductive Role where
  | value
  | name (before : List (String × Json))

/-- The place inside an escape sequence. `unit` has read `count` of four hexadecimal digits; a first
half of a surrogate pair is kept until its second half is complete. -/
inductive Escape where
  | outside
  | backslash
  | unit (first : Option Nat) (count value : Nat)
  | secondBackslash (first : Nat)
  | secondMark (first : Nat)

/-- What the next character belongs to. -/
inductive Focus where
  | value
  | itemOrClose
  | nameOrClose
  | name (before : List (String × Json))
  | colon (before : List (String × Json)) (name : String)
  | string (role : Role) (before : List Char) (escape : Escape)
  | number (before : List Char)
  | word (rest : List Char) (value : Json)
  | complete (value : Json)

structure State where
  stack : List Frame
  focus : Focus

def start : State := ⟨[], .value⟩

def isBlank (c : Char) : Bool :=
  c == ' ' || c == '\n' || c == '\t' || c == '\r'

/-- The character for the letter of a short escape. -/
def shortEscape? : Char → Option Char
  | '"' => some '"'
  | '\\' => some '\\'
  | '/' => some '/'
  | 'b' => some '\x08'
  | 'f' => some '\x0c'
  | 'n' => some '\n'
  | 'r' => some '\r'
  | 't' => some '\t'
  | _ => none

/-- The first character of a value. -/
def beginValue (stack : List Frame) (c : Char) : Option State :=
  if isBlank c then some ⟨stack, .value⟩
  else
    match c with
    | '[' => some ⟨.items [] :: stack, .itemOrClose⟩
    | '\x7b' => some ⟨stack, .nameOrClose⟩
    | '"' => some ⟨stack, .string .value [] .outside⟩
    | 'n' => some ⟨stack, .word ['u', 'l', 'l'] .null⟩
    | 't' => some ⟨stack, .word ['r', 'u', 'e'] (.bool true)⟩
    | 'f' => some ⟨stack, .word ['a', 'l', 's', 'e'] (.bool false)⟩
    | c => if c.isDigit || c == '-' then some ⟨stack, .number [c]⟩ else none

/-- A character after a complete value: a blank, a comma, or the bracket that closes the innermost
open one. -/
def afterValue (stack : List Frame) (value : Json) (c : Char) : Option State :=
  if isBlank c then some ⟨stack, .complete value⟩
  else
    match stack, c with
    | .items before :: rest, ',' => some ⟨.items (value :: before) :: rest, .value⟩
    | .items before :: rest, ']' => some ⟨rest, .complete (.array (value :: before).reverse)⟩
    | .fields before name :: rest, ',' => some ⟨rest, .name ((name, value) :: before)⟩
    | .fields before name :: rest, '\x7d' =>
      some ⟨rest, .complete (.object ((name, value) :: before).reverse)⟩
    | _, _ => none

/-- A code unit of an escape is complete. -/
def endUnit (stack : List Frame) (role : Role) (before : List Char) (first : Option Nat)
    (unit : Nat) : Option State :=
  match first with
  | none =>
    if 0xd800 ≤ unit && unit < 0xdc00 then some ⟨stack, .string role before (.secondBackslash unit)⟩
    else if 0xdc00 ≤ unit && unit < 0xe000 then none
    else some ⟨stack, .string role (Char.ofNat unit :: before) .outside⟩
  | some high =>
    if 0xdc00 ≤ unit && unit < 0xe000 then
      let code := 0x10000 + (high - 0xd800) * 0x400 + (unit - 0xdc00)
      some ⟨stack, .string role (Char.ofNat code :: before) .outside⟩
    else none

/-- A character inside a string. -/
def inString (stack : List Frame) (role : Role) (before : List Char) (c : Char) :
    Escape → Option State
  | .outside =>
    if c = '"' then
      let read := String.ofList before.reverse
      match role with
      | .value => some ⟨stack, .complete (.string read)⟩
      | .name fields => some ⟨stack, .colon fields read⟩
    else if c = '\\' then some ⟨stack, .string role before .backslash⟩
    else if c.toNat < 0x20 then none
    else some ⟨stack, .string role (c :: before) .outside⟩
  | .backslash =>
    if c = 'u' then some ⟨stack, .string role before (.unit none 0 0)⟩
    else (shortEscape? c).map fun short => ⟨stack, .string role (short :: before) .outside⟩
  | .unit first count value =>
    match Text.hexValue? c with
    | none => none
    | some digit =>
      if count = 3 then endUnit stack role before first (16 * value + digit)
      else some ⟨stack, .string role before (.unit first (count + 1) (16 * value + digit))⟩
  | .secondBackslash first =>
    if c = '\\' then some ⟨stack, .string role before (.secondMark first)⟩ else none
  | .secondMark first =>
    if c = 'u' then some ⟨stack, .string role before (.unit (some first) 0 0)⟩ else none

/-- The state after one more character; `none` where no JSON text goes on so. -/
def step (state : State) (c : Char) : Option State :=
  let stack := state.stack
  match state.focus with
  | .value => beginValue stack c
  | .itemOrClose =>
    if isBlank c then some state
    else
      match stack, c with
      | .items _ :: rest, ']' => some ⟨rest, .complete (.array [])⟩
      | _, _ => beginValue stack c
  | .nameOrClose =>
    if isBlank c then some state
    else if c = '\x7d' then some ⟨stack, .complete (.object [])⟩
    else if c = '"' then some ⟨stack, .string (.name []) [] .outside⟩
    else none
  | .name before =>
    if isBlank c then some state
    else if c = '"' then some ⟨stack, .string (.name before) [] .outside⟩
    else none
  | .colon before name =>
    if isBlank c then some state
    else if c = ':' then some ⟨.fields before name :: stack, .value⟩
    else none
  | .string role before escape => inString stack role before c escape
  | .number before =>
    if Number.isNumberChar c then some ⟨stack, .number (c :: before)⟩
    else
      match Number.ofText? before.reverse with
      | some value => afterValue stack (.number value) c
      | none => none
  | .word (expected :: rest) value =>
    if c = expected then
      match rest with
      | [] => some ⟨stack, .complete value⟩
      | rest => some ⟨stack, .word rest value⟩
    else none
  | .word [] value => afterValue stack value c
  | .complete value => afterValue stack value c

/-- The value at the end of a text. No bracket may be left open. -/
def finish? (state : State) : Option Json :=
  match state.stack, state.focus with
  | [], .complete value => some value
  | [], .number before => (Number.ofText? before.reverse).map .number
  | _, _ => none

end Reader

/-- The value that a text stands for, if it is JSON. Blanks may stand around every token. -/
def parse? (s : String) : Option Json := do
  let state ← s.toList.foldlM Reader.step Reader.start
  Reader.finish? state

end TenantRoutes.Json
