/-! Letter case. Host names, header names and slugs are compared ignoring the case of the
letters A to Z. No other character has a case here, so a text is never folded beyond ASCII. -/
namespace TenantRoutes.Text

/-- The characters of a text with the letters A to Z lowered. Two texts agree ignoring case
exactly when these lists are equal. -/
def foldCase (s : String) : List Char :=
  s.toList.map Char.toLower

/-- Equality of two texts ignoring the case of ASCII letters. -/
def eqIgnoringCase (a b : String) : Bool :=
  foldCase a == foldCase b

@[simp] theorem eqIgnoringCase_iff {a b : String} :
    eqIgnoringCase a b = true ↔ foldCase a = foldCase b := by
  simp [eqIgnoringCase]

/-- The text with the letters A to Z lowered. -/
def lower (s : String) : String :=
  String.ofList (foldCase s)

@[simp] theorem toList_lower (s : String) : (lower s).toList = foldCase s := by
  simp [lower]

/-- ASCII letters and digits. -/
def isAlphanumeric (c : Char) : Bool :=
  ('a' ≤ c && c ≤ 'z') || ('A' ≤ c && c ≤ 'Z') || ('0' ≤ c && c ≤ '9')

/-- The value of a hexadecimal digit, in either case. -/
def hexValue? (c : Char) : Option Nat :=
  if '0' ≤ c && c ≤ '9' then some (c.toNat - '0'.toNat)
  else if 'a' ≤ c && c ≤ 'f' then some (c.toNat - 'a'.toNat + 10)
  else if 'A' ≤ c && c ≤ 'F' then some (c.toNat - 'A'.toNat + 10)
  else none

/-- The pieces of a text between the occurrences of a separator. There is always one more piece
than there are separators, so the empty text has one empty piece. -/
def pieces (separator : Char) : List Char → List (List Char)
  | [] => [[]]
  | c :: rest =>
    if c = separator then [] :: pieces separator rest
    else
      match pieces separator rest with
      | [] => [[c]]
      | piece :: others => (c :: piece) :: others

end TenantRoutes.Text
