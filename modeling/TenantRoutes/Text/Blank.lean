/-! Blank characters, those with the Unicode property White_Space. A name made of them alone
counts as empty. -/
namespace TenantRoutes.Text

/-- The code points with the property White_Space, as first and last of each range. -/
def blankRanges : List (Nat × Nat) :=
  [(0x9, 0xd), (0x20, 0x20), (0x85, 0x85), (0xa0, 0xa0), (0x1680, 0x1680), (0x2000, 0x200a),
    (0x2028, 0x2029), (0x202f, 0x202f), (0x205f, 0x205f), (0x3000, 0x3000)]

/-- White_Space of Unicode. -/
def isBlank (c : Char) : Bool :=
  blankRanges.any fun (first, last) => first ≤ c.toNat && c.toNat ≤ last

/-- No character but blank ones; the empty text has none at all. -/
def isBlankText (s : String) : Bool :=
  s.toList.all isBlank

end TenantRoutes.Text
