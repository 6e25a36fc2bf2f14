import Mathlib.Data.List.Basic

/-! The order of texts in bytes. Texts are compared by their code points. UTF-8 is made so that
comparing the bytes gives the same order: of two characters the greater one has the greater bytes,
whatever follows them. -/
namespace TenantRoutes.Text

/-- The bytes of a text in UTF-8. -/
def utf8Bytes (s : String) : List UInt8 :=
  s.toUTF8.data.toList

theorem utf8Bytes_eq_flatMap (s : String) :
    utf8Bytes s = s.toList.flatMap String.utf8EncodeChar := by
  have hBytes : s.toUTF8 = (s.toList.flatMap String.utf8EncodeChar).toByteArray := by
    conv => lhs; rw [← String.ofList_toList (s := s)]
    rfl
  rw [utf8Bytes, hBytes]
  simp

theorem byte_cons_lt_iff {m n : Nat} (hm : m < 256) (hn : n < 256) {xs ys : List UInt8} :
    UInt8.ofNat m :: xs < UInt8.ofNat n :: ys ↔ m < n ∨ m = n ∧ xs < ys := by
  rw [List.cons_lt_cons_iff, UInt8.lt_iff_toNat_lt, ← UInt8.toNat_inj, UInt8.toNat_ofNat_of_lt' hm,
    UInt8.toNat_ofNat_of_lt' hn]

/-- The bytes of characters are compared before what follows them. A longer form has a greater first
byte, and within a form the bytes are digits, the most significant one first. -/
theorem utf8EncodeChar_append_lt {c d : Char} (hLt : c < d) (rest other : List UInt8) :
    String.utf8EncodeChar c ++ rest < String.utf8EncodeChar d ++ other := by
  have hCode : c.val.toNat < d.val.toNat := UInt32.lt_iff_toNat_lt.mp hLt
  have hMax : d.val.toNat < 0x110000 := by
    have hValid := d.valid
    simp only [UInt32.isValidChar, Nat.isValidChar] at hValid
    omega
  simp only [String.utf8EncodeChar]
  generalize c.val.toNat = v at *
  generalize d.val.toNat = w at *
  -- The digits are linked only if each is a quotient of the one before it.
  have hTwo (n : Nat) : n / 4096 = n / 64 / 64 := by omega
  have hThree (n : Nat) : n / 262144 = n / 64 / 64 / 64 := by omega
  simp only [hTwo, hThree]
  split_ifs
  all_goals
    simp (disch := omega) only [List.cons_append, List.nil_append, byte_cons_lt_iff]
    omega

/-- Texts in order have their bytes in order. -/
theorem utf8Bytes_lt {a b : String} (hLt : a < b) : utf8Bytes a < utf8Bytes b := by
  rw [String.lt_iff] at hLt
  rw [utf8Bytes_eq_flatMap, utf8Bytes_eq_flatMap]
  generalize a.toList = xs at *
  generalize b.toList = ys at *
  induction xs generalizing ys with
  | nil =>
      cases ys with
      | nil => exact absurd hLt (List.lt_irrefl _)
      | cons d ys =>
          obtain ⟨byte, bytes, hBytes⟩ :=
            List.exists_cons_of_ne_nil (String.utf8EncodeChar_ne_nil (c := d))
          rw [List.flatMap_cons, hBytes]
          exact List.nil_lt_cons _ _
  | cons c xs ih =>
      cases ys with
      | nil => exact absurd hLt (List.not_lt_nil _)
      | cons d ys =>
          rw [List.flatMap_cons, List.flatMap_cons]
          rcases List.cons_lt_cons_iff.mp hLt with hChar | ⟨rfl, hRest⟩
          · exact utf8EncodeChar_append_lt hChar _ _
          · exact List.append_left_lt (ih _ hRest)

end TenantRoutes.Text
