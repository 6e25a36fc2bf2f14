import TenantRoutes.Toml.Text
/-! Numbers and dates of TOML. Policies have no field for either, so what matters is which texts
are numbers and dates, and a reader gives the characters that it took. -/
namespace TenantRoutes.Toml

open Reader

/-- One reader after another, with the characters of both. -/
def andThen (first second : Reader (List Char)) : Reader (List Char) := do
  let before ← first
  let after ← second
  pure (before ++ after)

/-- The characters of a reader, or none. -/
def orNothing (read : Reader (List Char)) : Reader (List Char) := do
  pure ((← optional read).getD [])

/-- Digits of a class with single underscores between them, which are dropped. -/
def digits (accepts : Char → Bool) : Reader (List Char) := do
  let first ← satisfy accepts
  let others ← many (satisfy accepts <|> do let _ ← char '_'; satisfy accepts)
  pure (first :: others)

def sign : Reader (List Char) :=
  orNothing (single (satisfy fun c => c == '+' || c == '-'))

/-- A decimal integer without superfluous leading zeros. -/
def decimalInteger : Reader (List Char) :=
  andThen sign
    ((do
      lookahead (satisfy fun c => c.isDigit && c != '0')
      digits Char.isDigit)
    <|> single (satisfy Char.isDigit))

/-- The value of digits in a base. -/
def valueInBase (base : Nat) (digits : List Char) : Nat :=
  digits.foldl (fun value c => base * value + (Text.hexValue? c).getD 0) 0

/-- Whether a decimal integer fits 64 bits with a sign. -/
def fitsInteger : List Char → Bool
  | '-' :: digits => valueInBase 10 digits ≤ Nat.pow 2 63
  | '+' :: digits => valueInBase 10 digits < Nat.pow 2 63
  | digits => valueInBase 10 digits < Nat.pow 2 63

/-- An integer after a mark for its base. It is not negative and fits 63 bits. -/
def basedInteger (mark : Char) (base : Nat) (accepts : Char → Bool) : Reader (List Char) := do
  word ['0', mark]
  let read ← digits accepts
  if valueInBase base read < Nat.pow 2 63 then pure ('0' :: mark :: read) else fail

def integer : Reader (List Char) :=
  choice
    [basedInteger 'x' 16 isHexDigit,
     basedInteger 'o' 8 fun c => '0' ≤ c && c ≤ '7',
     basedInteger 'b' 2 fun c => c == '0' || c == '1',
     guard fitsInteger decimalInteger]

/-- The parts of a finite number: the integer before the point, the digits after it, and the
exponent with its sign. -/
structure FloatText where
  whole : List Char
  fraction : List Char
  exponent : List Char

namespace FloatText

def text (float : FloatText) : List Char :=
  float.whole ++ '.' :: float.fraction ++ 'e' :: float.exponent

/-- The power of ten of the last digit. -/
def power (float : FloatText) : Int :=
  let exponent : Int :=
    match float.exponent with
    | '-' :: digits => -(valueInBase 10 digits : Int)
    | '+' :: digits => valueInBase 10 digits
    | digits => valueInBase 10 digits
  exponent - float.fraction.length

/-- Whether a number is above the greatest finite one of double precision, from the middle between
that and the next power of two on. Numbers with more than 400 digits before the point are above
it, and those below 1 are not, so that no greater power of ten has to be taken. -/
def overflows (float : FloatText) : Bool :=
  match float.whole with
  | '-' :: _ => false
  | _ =>
    let whole := float.whole.filter Char.isDigit
    let value := valueInBase 10 (whole ++ float.fraction)
    let size : Int := (Nat.toDigits 10 value).length + float.power
    if value = 0 || size ≤ 0 then false
    else if 400 < size then true
    else
      let bound := Nat.pow 2 1024 - Nat.pow 2 970
      if 0 ≤ float.power then bound ≤ value * Nat.pow 10 float.power.toNat
      else bound * Nat.pow 10 (-float.power).toNat ≤ value

end FloatText

def exponentPart : Reader (List Char) := do
  let _ ← satisfy fun c => c == 'e' || c == 'E'
  andThen sign (digits Char.isDigit)

def fractionPart : Reader (List Char) := do
  let _ ← char '.'
  digits Char.isDigit

/-- A number with a fraction, an exponent or both. -/
def finiteFloat : Reader (List Char) := do
  let whole ← decimalInteger
  let float ←
    (do pure (FloatText.mk whole [] (← exponentPart)))
    <|> (do
      let fraction ← fractionPart
      pure (FloatText.mk whole fraction (← orNothing exponentPart)))
  if float.overflows then fail else pure float.text

/-- Infinity and the undefined number. -/
def specialFloat : Reader (List Char) :=
  andThen sign
    ((do word ['i', 'n', 'f']; pure ['i', 'n', 'f'])
    <|> (do word ['n', 'a', 'n']; pure ['n', 'a', 'n']))

/-- Two digits within bounds. -/
def twoDigits (least greatest : Nat) : Reader (List Char) :=
  guard (fun read => least ≤ valueInBase 10 read && valueInBase 10 read ≤ greatest)
    (count Char.isDigit 2)

def isLeapYear (year : Nat) : Bool :=
  year % 4 == 0 && (year % 100 != 0 || year % 400 == 0)

def daysOfMonth (year month : Nat) : Nat :=
  if month = 2 then (if isLeapYear year then 29 else 28)
  else if month = 4 ∨ month = 6 ∨ month = 9 ∨ month = 11 then 30
  else 31

def date : Reader (List Char) := do
  let year ← count Char.isDigit 4
  let _ ← char '-'
  let month ← twoDigits 1 12
  let _ ← char '-'
  let day ← twoDigits 1 (daysOfMonth (valueInBase 10 year) (valueInBase 10 month))
  pure (year ++ '-' :: month ++ '-' :: day)

/-- A time of day, where the last minute may have one more second. -/
def time : Reader (List Char) := do
  let hour ← twoDigits 0 23
  let _ ← char ':'
  let minute ← twoDigits 0 59
  let _ ← char ':'
  let second ← twoDigits 0 60
  let fraction ← orNothing (do
    let _ ← char '.'
    pure ('.' :: (← takeWhile1 Char.isDigit)))
  pure (hour ++ ':' :: minute ++ ':' :: second ++ fraction)

def timeOffset : Reader (List Char) :=
  single (satisfy fun c => c == 'Z' || c == 'z')
    <|> (do
      let mark ← satisfy fun c => c == '+' || c == '-'
      let hour ← twoDigits 0 23
      let _ ← char ':'
      let minute ← twoDigits 0 59
      pure (mark :: hour ++ ':' :: minute))

/-- A date with or without a time, or a time alone. -/
def dateTime : Reader (List Char) :=
  andThen date (orNothing do
    let mark ← satisfy fun c => c == 'T' || c == 't' || c == ' '
    let rest ← andThen time (orNothing timeOffset)
    pure (mark :: rest))
  <|> time

end TenantRoutes.Toml
