import TenantRoutes.Text.Base64

/-! Reading Base64 text back. A group of letters holds its bytes as digits to the base 64, and the
bytes are found again as digits to the base 256. -/
namespace TenantRoutes.Text.Base64

theorem value?_letter {n : Nat} (h : n < 64) : value? (letter n) = some n := by
  revert n
  decide +kernel

/-- Padding is no letter. -/
theorem letter_ne_pad {n : Nat} (h : n < 64) : letter n ≠ '=' := by
  revert n
  decide +kernel

/-- Four letters are three bytes, whatever follows them. -/
theorem decode_letters {i j k l : Nat} (hi : i < 64) (hj : j < 64) (hk : k < 64) (hl : l < 64)
    (rest : List Char) :
    decode (letter i :: letter j :: letter k :: letter l :: rest) =
      (decode rest).map fun others =>
        UInt8.ofNat ((((i * 64 + j) * 64 + k) * 64 + l) / 65536) ::
          UInt8.ofNat ((((i * 64 + j) * 64 + k) * 64 + l) / 256 % 256) ::
          UInt8.ofNat ((((i * 64 + j) * 64 + k) * 64 + l) % 256) :: others := by
  have hPad := letter_ne_pad hl
  rw [decode.eq_4 _ _ _ _ _ (fun _ h _ => hPad h) (fun h _ => hPad h), value?_letter hi,
    value?_letter hj, value?_letter hk, value?_letter hl]
  cases decode rest <;> rfl

theorem decode_encode (bytes : List UInt8) : decode (encode bytes) = some bytes := by
  induction bytes using encode.induct with
  | case1 => rfl
  | case2 a =>
      have ha : a.toNat < 256 := a.toNat_lt
      have hDigits : a.toNat / 4 * 64 + a.toNat % 4 * 16 = a.toNat * 16 := by omega
      rw [encode, decode.eq_2, value?_letter (by omega), value?_letter (by omega)]
      change (if (a.toNat / 4 * 64 + a.toNat % 4 * 16) % 16 = 0 then
        some [UInt8.ofNat ((a.toNat / 4 * 64 + a.toNat % 4 * 16) / 16)] else none) = some [a]
      rw [hDigits, if_pos (by omega), Nat.mul_div_cancel _ (by omega), UInt8.ofNat_toNat]
  | case3 a b =>
      have ha : a.toNat < 256 := a.toNat_lt
      have hb : b.toNat < 256 := b.toNat_lt
      rw [encode]
      generalize hn : a.toNat * 256 + b.toNat = n
      have hDigits : (n / 1024 * 64 + n / 16 % 64) * 64 + n % 16 * 4 = n * 4 := by omega
      rw [decode.eq_3 _ _ _ (letter_ne_pad (by omega)), value?_letter (by omega),
        value?_letter (by omega), value?_letter (by omega)]
      change (if ((n / 1024 * 64 + n / 16 % 64) * 64 + n % 16 * 4) % 4 = 0 then
        some [UInt8.ofNat (((n / 1024 * 64 + n / 16 % 64) * 64 + n % 16 * 4) / 1024),
          UInt8.ofNat (((n / 1024 * 64 + n / 16 % 64) * 64 + n % 16 * 4) / 4 % 256)]
        else none) = some [a, b]
      rw [hDigits, if_pos (by omega), show n * 4 / 1024 = a.toNat by omega,
        show n * 4 / 4 % 256 = b.toNat by omega, UInt8.ofNat_toNat, UInt8.ofNat_toNat]
  | case4 a b c rest ih =>
      have ha : a.toNat < 256 := a.toNat_lt
      have hb : b.toNat < 256 := b.toNat_lt
      have hc : c.toNat < 256 := c.toNat_lt
      rw [encode]
      generalize hn : (a.toNat * 256 + b.toNat) * 256 + c.toNat = n
      have hDigits : ((n / 262144 * 64 + n / 4096 % 64) * 64 + n / 64 % 64) * 64 + n % 64 = n := by
        omega
      rw [decode_letters (by omega) (by omega) (by omega) (by omega), ih, hDigits,
        show n / 65536 = a.toNat by omega, show n / 256 % 256 = b.toNat by omega,
        show n % 256 = c.toNat by omega, UInt8.ofNat_toNat, UInt8.ofNat_toNat, UInt8.ofNat_toNat]
      rfl

/-- The Base64 text of a text stands for the UTF-8 bytes of it. -/
theorem decode_ofText (s : String) : decode (ofText s).toList = some s.toUTF8.toList := by
  rw [ofText, String.toList_ofList, decode_encode]

end TenantRoutes.Text.Base64
