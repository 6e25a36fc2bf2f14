/-! Sets of code points. A set is kept as its ranges in increasing order, and membership is found by
halving the ranges that are left. -/
namespace TenantRoutes.Text

/-- A set of code points, as first and last of each of its ranges in increasing order. -/
structure CodeSet where
  ranges : Array (Nat × Nat)

namespace CodeSet

/-- Whether a code point is in one of the ranges between two positions; `steps` bounds the
halvings. -/
def containsBetween (set : CodeSet) (code : Nat) : (steps low high : Nat) → Bool
  | 0, _, _ => false
  | steps + 1, low, high =>
    if high ≤ low then false
    else
      let middle := (low + high) / 2
      let (first, last) := set.ranges.getD middle (0, 0)
      if code < first then set.containsBetween code steps low middle
      else if last < code then set.containsBetween code steps (middle + 1) high
      else true

/-- Every halving leaves fewer ranges, so there are no more halvings than ranges. -/
def contains (set : CodeSet) (code : Nat) : Bool :=
  set.containsBetween code set.ranges.size 0 set.ranges.size

instance : Membership Char CodeSet where
  mem set c := set.contains c.toNat = true

instance (c : Char) (set : CodeSet) : Decidable (c ∈ set) :=
  inferInstanceAs (Decidable (set.contains c.toNat = true))

end CodeSet

end TenantRoutes.Text
