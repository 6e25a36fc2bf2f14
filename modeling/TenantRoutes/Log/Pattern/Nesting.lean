/-! How deep the parts of an expression are nested. Characters and the like have depth 0. A
repetition, a group, brackets, and several parts together each add one to the deepest of what they
hold; a part that stands alone is no deeper for it. -/
namespace TenantRoutes.Log.Pattern

/-- The depth that an expression may have. -/
def maxDepth : Nat := 250

/-- The depth of parts that stand together. -/
def depthTogether : List Nat → Nat
  | [] => 0
  | [depth] => depth
  | depths => depths.foldl max 0 + 1

end TenantRoutes.Log.Pattern
