import TenantRoutes.Proofs.Text.Pieces

/-! Texts that agree ignoring case. Lowering letters neither makes a dot nor takes one away, so a
part in front of a dot is compared apart from what follows. -/
namespace TenantRoutes.Text

theorem toLower_eq_dot_iff {c : Char} : c.toLower = '.' ↔ c = '.' := by
  unfold Char.toLower
  split
  case isTrue hUpper =>
    have hLow : 65 ≤ c.toNat := UInt32.le_iff_toNat_le.mp hUpper.1
    have hHigh : c.toNat ≤ 90 := UInt32.le_iff_toNat_le.mp hUpper.2
    constructor
    · intro hDot
      have hCode : (c.toNat + 32) % 4294967296 = 46 := congrArg Char.toNat hDot
      omega
    · rintro rfl
      exact absurd hLow (by decide)
  case isFalse => rfl

theorem dot_mem_foldCase_iff {s : String} : '.' ∈ foldCase s ↔ '.' ∈ s.toList := by
  simp [foldCase, toLower_eq_dot_iff]

theorem foldCase_join (front back : String) :
    foldCase (front ++ "." ++ back) = foldCase front ++ '.' :: foldCase back := by
  have hDot : Char.toLower '.' = '.' := by decide
  simp [foldCase, hDot]

/-- Where the parts in front have no dots, two joins agree exactly when both their parts do. -/
theorem eqIgnoringCase_join_iff {front back other rest : String} (hFront : '.' ∉ front.toList)
    (hOther : '.' ∉ other.toList) :
    eqIgnoringCase (front ++ "." ++ back) (other ++ "." ++ rest) = true ↔
      eqIgnoringCase front other = true ∧ eqIgnoringCase back rest = true := by
  rw [← dot_mem_foldCase_iff] at hFront hOther
  rw [eqIgnoringCase_iff, eqIgnoringCase_iff, eqIgnoringCase_iff, foldCase_join, foldCase_join,
    append_cons_inj_of_not_mem hFront hOther]

theorem eqIgnoringCase_eq_false_iff {a b : String} :
    eqIgnoringCase a b = false ↔ foldCase a ≠ foldCase b := by
  rw [← Bool.not_eq_true, eqIgnoringCase_iff]

theorem eqIgnoringCase_comm (a b : String) : eqIgnoringCase a b = eqIgnoringCase b a := by
  rw [Bool.eq_iff_iff, eqIgnoringCase_iff, eqIgnoringCase_iff, eq_comm]

end TenantRoutes.Text
