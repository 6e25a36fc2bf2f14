import TenantRoutes.Json.Basic
/-! The written form of JSON numbers. -/
namespace TenantRoutes.Json.Number

/-- The decimal digits of an integer, with a sign if it is negative. -/
def integerText : Int → List Char
  | .ofNat n => Nat.toDigits 10 n
  | .negSucc n => '-' :: Nat.toDigits 10 (n + 1)

def text : Number → List Char
  | integer value => integerText value
  | decimal mantissa exponent => integerText mantissa ++ 'e' :: integerText exponent

/-- The value of digits, most significant first. -/
def ofDigits (digits : List Char) : Nat :=
  Nat.ofDigitChars 10 digits 0

def withSign (negative : Bool) (value : Nat) : Int :=
  if negative then -(value : Int) else value

/-- Digits without a superfluous leading zero. -/
def isWhole : List Char → Bool
  | [] => false
  | ['0'] => true
  | '0' :: _ => false
  | _ => true

/-- The exponent that ends a number: nothing, or an `e` with an optional sign and digits. -/
def exponent? : List Char → Option (Option Int)
  | [] => some none
  | mark :: rest =>
    if mark = 'e' ∨ mark = 'E' then
      let (negative, digits) :=
        match rest with
        | '-' :: digits => (true, digits)
        | '+' :: digits => (false, digits)
        | digits => (false, digits)
      if digits.isEmpty || !digits.all Char.isDigit then none
      else some (some (withSign negative (ofDigits digits)))
    else none

/-- A number without its sign: whole digits, an optional fraction and an optional exponent. A
negative zero has no integer that would show its sign and is kept as a decimal. -/
def unsigned? (negative : Bool) (text : List Char) : Option Number :=
  let (whole, rest) := text.span Char.isDigit
  if !isWhole whole then none
  else
    match rest with
    | '.' :: rest =>
      let (fraction, rest) := rest.span Char.isDigit
      if fraction.isEmpty then none
      else
        (exponent? rest).map fun power =>
          decimal (withSign negative (ofDigits (whole ++ fraction)))
            (power.getD 0 - fraction.length)
    | rest =>
      (exponent? rest).map fun
        | some power => decimal (withSign negative (ofDigits whole)) power
        | none =>
          if negative && ofDigits whole == 0 then decimal 0 0
          else integer (withSign negative (ofDigits whole))

/-- The number that a text stands for. -/
def ofText? : List Char → Option Number
  | '-' :: rest => unsigned? true rest
  | text => unsigned? false text

/-- The characters that can occur in a number. -/
def isNumberChar (c : Char) : Bool :=
  c.isDigit || c == '-' || c == '+' || c == '.' || c == 'e' || c == 'E'

end TenantRoutes.Json.Number
