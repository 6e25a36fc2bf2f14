import Mathlib.Data.List.Basic
import Mathlib.Data.List.TakeDrop
import TenantRoutes.Json.Number

/-! Reading numbers back. Every number has a text that begins with a sign or a digit, and the text
stands for that number and no other: an integer is not taken for a decimal of the same value. -/
namespace TenantRoutes.Json.Number

theorem isDigit_of_mem_toDigits {n : Nat} {c : Char} (hc : c ∈ Nat.toDigits 10 n) :
    c.isDigit = true :=
  Nat.isDigit_of_mem_toDigits (by decide) (by decide) hc

/-- The digits of a number begin with a digit, hence neither with a sign nor with a dot. -/
theorem exists_digit_toDigits (n : Nat) :
    ∃ c rest, Nat.toDigits 10 n = c :: rest ∧ c.isDigit = true := by
  obtain ⟨c, rest, hDigits⟩ := List.exists_cons_of_ne_nil (Nat.toDigits_ne_nil (n := n) (b := 10))
  exact ⟨c, rest, hDigits, isDigit_of_mem_toDigits (n := n) (by simp [hDigits])⟩

theorem head?_toDigits_ne_zero {n : Nat} (hn : 0 < n) :
    (Nat.toDigits 10 n).head? ≠ some '0' := by
  induction n using Nat.strongRecOn with
  | ind n ih =>
      rw [Nat.toDigits_eq_if (by decide)]
      split
      case isTrue hSmall =>
        have hDigit : n.digitChar ≠ '0' := fun hZero => by
          rw [Nat.digitChar_eq_zero] at hZero
          omega
        simpa using hDigit
      case isFalse hLarge =>
        rw [List.head?_append_of_ne_nil _ Nat.toDigits_ne_nil]
        exact ih (n / 10) (by omega) (by omega)

theorem isWhole_toDigits (n : Nat) : isWhole (Nat.toDigits 10 n) = true := by
  rcases Nat.eq_zero_or_pos n with rfl | hn
  · rw [Nat.toDigits_zero]
    rfl
  · have hHead := head?_toDigits_ne_zero hn
    obtain ⟨c, rest, hDigits, _⟩ := exists_digit_toDigits n
    rw [hDigits, List.head?_cons] at hHead
    rw [hDigits]
    unfold isWhole
    split <;> simp_all

/-- Digits are read up to the first character that is none. -/
theorem span_toDigits_append (n : Nat) (rest : List Char)
    (hRest : ∀ c ∈ rest.head?, c.isDigit = false) :
    (Nat.toDigits 10 n ++ rest).span Char.isDigit = (Nat.toDigits 10 n, rest) := by
  have hDigits : ∀ c ∈ Nat.toDigits 10 n, c.isDigit = true := fun _ => isDigit_of_mem_toDigits
  rw [List.span_eq_takeWhile_dropWhile, List.takeWhile_append_of_pos hDigits,
    List.dropWhile_append_of_pos hDigits]
  cases rest with
  | nil => simp
  | cons c rest =>
      have hc : c.isDigit = false := hRest c (by simp)
      simp [hc]

theorem exponent?_integerText (power : Int) :
    exponent? ('e' :: integerText power) = some (some power) := by
  cases power with
  | ofNat n =>
      obtain ⟨c, rest, hDigits, hc⟩ := exists_digit_toDigits n
      have hAll : (c :: rest).all Char.isDigit = true := by
        rw [← hDigits, List.all_eq_true]
        exact fun _ => isDigit_of_mem_toDigits
      have hValue : ofDigits (c :: rest) = n := hDigits ▸ Nat.ofDigitChars_ten_toDigits
      have hMinus : c ≠ '-' := by rintro rfl; exact absurd hc (by decide)
      have hPlus : c ≠ '+' := by rintro rfl; exact absurd hc (by decide)
      simp [exponent?, integerText, hDigits, hMinus, hPlus, hAll, hValue, withSign]
  | negSucc n =>
      have hAll : (Nat.toDigits 10 (n + 1)).all Char.isDigit = true := by
        rw [List.all_eq_true]
        exact fun _ => isDigit_of_mem_toDigits
      have hValue : ofDigits (Nat.toDigits 10 (n + 1)) = n + 1 := Nat.ofDigitChars_ten_toDigits
      have hSome : (Nat.toDigits 10 (n + 1)).isEmpty = false := by simp [Nat.toDigits_ne_nil]
      simp [exponent?, integerText, hAll, hValue, hSome, withSign, Int.negSucc_eq]

/-- Digits alone are an integer, except for a zero with a sign. -/
theorem unsigned?_toDigits {negative : Bool} {n : Nat} (hProper : negative = true → n ≠ 0) :
    unsigned? negative (Nat.toDigits 10 n) = some (integer (withSign negative n)) := by
  have hSpan := span_toDigits_append n [] (by simp)
  rw [List.append_nil] at hSpan
  have hValue : ofDigits (Nat.toDigits 10 n) = n := Nat.ofDigitChars_ten_toDigits
  have hZero : (negative && n == 0) = false := by
    rw [Bool.and_eq_false_imp, beq_eq_false_iff_ne]
    exact hProper
  rw [unsigned?, hSpan]
  simp [isWhole_toDigits, exponent?, hValue, hZero]

theorem unsigned?_toDigits_exponent (negative : Bool) (n : Nat) (power : Int) :
    unsigned? negative (Nat.toDigits 10 n ++ 'e' :: integerText power) =
      some (decimal (withSign negative n) power) := by
  have hSpan := span_toDigits_append n ('e' :: integerText power) (by simp)
  have hValue : ofDigits (Nat.toDigits 10 n) = n := Nat.ofDigitChars_ten_toDigits
  rw [unsigned?, hSpan]
  simp [isWhole_toDigits, exponent?_integerText, hValue]

theorem ofText?_toDigits_append (n : Nat) (rest : List Char) :
    ofText? (Nat.toDigits 10 n ++ rest) = unsigned? false (Nat.toDigits 10 n ++ rest) := by
  obtain ⟨c, digits, hDigits, hc⟩ := exists_digit_toDigits n
  rw [hDigits, List.cons_append, ofText?]
  rintro later hCons
  obtain ⟨rfl, _⟩ := List.cons.inj hCons
  exact absurd hc (by decide)

/-- The text of a number stands for that number. -/
theorem ofText?_text (number : Number) : ofText? number.text = some number := by
  cases number with
  | integer value =>
      cases value with
      | ofNat n =>
          have hRead := ofText?_toDigits_append n []
          rw [List.append_nil, unsigned?_toDigits (by simp)] at hRead
          exact hRead
      | negSucc n => exact unsigned?_toDigits fun _ => n.succ_ne_zero
  | decimal mantissa exponent =>
      cases mantissa with
      | ofNat n =>
          exact (ofText?_toDigits_append n _).trans (unsigned?_toDigits_exponent false n exponent)
      | negSucc n => exact unsigned?_toDigits_exponent true (n + 1) exponent

theorem isNumberChar_of_mem_integerText {value : Int} {c : Char} (hc : c ∈ integerText value) :
    isNumberChar c = true := by
  have hDigit (n : Nat) (hMem : c ∈ Nat.toDigits 10 n) : isNumberChar c = true := by
    simp [isNumberChar, isDigit_of_mem_toDigits hMem]
  cases value with
  | ofNat n => exact hDigit n hc
  | negSucc n =>
      rcases List.mem_cons.mp hc with rfl | hc
      · rfl
      · exact hDigit (n + 1) hc

theorem isNumberChar_of_mem_text {number : Number} {c : Char} (hc : c ∈ number.text) :
    isNumberChar c = true := by
  cases number with
  | integer value => exact isNumberChar_of_mem_integerText hc
  | decimal mantissa exponent =>
      rw [text, List.mem_append, List.mem_cons] at hc
      rcases hc with hc | rfl | hc
      · exact isNumberChar_of_mem_integerText hc
      · rfl
      · exact isNumberChar_of_mem_integerText hc

/-- A number begins with a digit or a minus sign. -/
theorem exists_cons_text (number : Number) :
    ∃ c rest, number.text = c :: rest ∧ (c.isDigit || c == '-') = true := by
  have hInteger (value : Int) :
      ∃ c rest, integerText value = c :: rest ∧ (c.isDigit || c == '-') = true := by
    cases value with
    | ofNat n =>
        obtain ⟨c, rest, hDigits, hc⟩ := exists_digit_toDigits n
        exact ⟨c, rest, hDigits, by simp [hc]⟩
    | negSucc n => exact ⟨'-', _, rfl, rfl⟩
  cases number with
  | integer value => exact hInteger value
  | decimal mantissa exponent =>
      obtain ⟨c, rest, hText, hc⟩ := hInteger mantissa
      exact ⟨c, _, by rw [text, hText, List.cons_append], hc⟩

end TenantRoutes.Json.Number
