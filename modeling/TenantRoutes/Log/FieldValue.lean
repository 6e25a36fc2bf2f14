import TenantRoutes.Log.Pattern.Expression
/-! Values of fields in directives. A directive may give a value as a number or as a pattern, which
is a regular expression, and is malformed if the pattern is. Which texts a pattern matches is never
asked, since such directives are about spans, and there are none. -/
namespace TenantRoutes.Log.FieldValue

/-- The text without a sign in front. -/
def dropSign : List Char → List Char
  | '+' :: rest => rest
  | '-' :: rest => rest
  | text => text

/-- Whether a text is empty or an exponent. -/
def isExponent : List Char → Bool
  | [] => true
  | c :: rest =>
    let digits := dropSign rest
    (c == 'e' || c == 'E') && !digits.isEmpty && digits.all Char.isDigit

/-- Whether a text is a number in decimal notation, or the name of one that is not finite. -/
def isNumber (text : List Char) : Bool :=
  let text := dropSign text
  let (whole, rest) := text.span Char.isDigit
  let (fraction, rest) :=
    match rest with
    | '.' :: rest => rest.span Char.isDigit
    | rest => ([], rest)
  text.map Char.toLower ∈ ["inf".toList, "infinity".toList, "nan".toList]
    || !(whole.isEmpty && fraction.isEmpty) && isExponent rest

/-- Whether a text can stand for the value of a field. -/
def isWellFormed (text : List Char) : Bool :=
  isNumber text || Pattern.isWellFormed text

end TenantRoutes.Log.FieldValue
