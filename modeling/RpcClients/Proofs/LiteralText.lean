import Mathlib.Algebra.Ring.Nat
import RpcClients.Proto.Literal

/-! # Literals stand for what was written

A decimal number stands for the number whose digits it has, and a character that is no backslash for its own code
point: those that are spelled as escapes on the way come back as they were. -/

namespace RpcClients.Proto

/-! ## Numbers -/

theorem digitsValue_append_singleton (base : Nat) (digits : List Char) (c : Char) :
    digitsValue base (digits ++ [c]) = digitsValue base digits * base + digitValue c := by
  simp [digitsValue]

theorem digitsValue_toDigits (n : Nat) : digitsValue 10 (Nat.toDigits 10 n) = n := by
  induction n using Nat.strongRecOn with
  | ind n ih =>
    have hdigit : ∀ digit < 10, digitValue (Nat.digitChar digit) = digit := by decide
    by_cases hn : n < 10
    · rw [Nat.toDigits_of_lt_base hn]
      simp [digitsValue, hdigit n hn]
    · rw [Nat.toDigits_of_base_le (by decide) (by omega), digitsValue_append_singleton, ih (n / 10) (by omega),
        hdigit (n % 10) (by omega)]
      omega

theorem isDigit_of_mem_decimal {n : Nat} {c : Char} (h : c ∈ Nat.toDigits 10 n) : c.isDigit = true :=
  Nat.isDigit_of_mem_toDigits (by decide) (by decide) h

theorem integer?_of_decimal {digits : List Char} (hdigits : ∀ c ∈ digits, c.isDigit = true)
    (hlength : digits.length ≤ maxDigits) : integer? digits = some (digitsValue 10 digits) := by
  unfold integer?
  split
  · exact absurd (hdigits 'x' (by simp)) (by decide)
  · exact absurd (hdigits 'X' (by simp)) (by decide)
  · rw [if_pos hlength]

theorem integer?_toDigits {n : Nat} (h : n < 10 ^ 10) : integer? (Nat.toDigits 10 n) = some n := by
  have hlength : (Nat.toDigits 10 n).length ≤ 10 := (Nat.length_toDigits_le_iff (by decide) (by decide)).mpr h
  rw [integer?_of_decimal (fun c => isDigit_of_mem_decimal) (Nat.le_trans hlength (by decide)), digitsValue_toDigits]

/-! ## Escapes -/

theorem hexDigit_spec : ∀ digit < 16,
    digitValue (Nat.digitChar digit) = digit ∧ isHexDigit (Nat.digitChar digit) = true := by
  decide

theorem length_hexDigits (width n : Nat) : (Text.hexDigits width n).length = width := by
  induction width generalizing n with
  | zero => rfl
  | succ width ih => rw [Text.hexDigits, List.length_append, ih, List.length_singleton]

theorem isHexDigit_of_mem_hexDigits {width n : Nat} {c : Char} (h : c ∈ Text.hexDigits width n) :
    isHexDigit c = true := by
  induction width generalizing n with
  | zero => cases h
  | succ width ih =>
    rcases List.mem_append.mp h with hleft | hlast
    · exact ih hleft
    · rw [List.mem_singleton.mp hlast]
      exact (hexDigit_spec (n % 16) (by omega)).2

theorem digitsValue_hexDigits {width n : Nat} (h : n < 16 ^ width) :
    digitsValue 16 (Text.hexDigits width n) = n := by
  induction width generalizing n with
  | zero =>
    obtain rfl : n = 0 := by omega
    rfl
  | succ width ih =>
    have hleft : n / 16 < 16 ^ width := Nat.div_lt_of_lt_mul (by rwa [Nat.pow_succ, Nat.mul_comm] at h)
    rw [Text.hexDigits, digitsValue_append_singleton, ih hleft, (hexDigit_spec (n % 16) (by omega)).1]
    omega

theorem hexEscape_hexDigits {width n : Nat} (h : n < 16 ^ width) (hcode : n ≤ 0x10FFFF) (rest : List Char) :
    hexEscape width (Text.hexDigits width n ++ rest) = some ([n], width + 1) := by
  have htake : (Text.hexDigits width n ++ rest).take width = Text.hexDigits width n :=
    List.take_left' (length_hexDigits width n)
  have hall : (Text.hexDigits width n).takeWhile isHexDigit = Text.hexDigits width n := by
    rw [← List.append_nil (Text.hexDigits width n), List.takeWhile_append_of_pos fun _ => isHexDigit_of_mem_hexDigits,
      List.takeWhile_nil]
  simp only [hexEscape, htake, hall, length_hexDigits, digitsValue_hexDigits h, hcode, and_self, if_true]

theorem unescape_skipped (skipped rest : List Char) : unescape skipped.length (skipped ++ rest) = unescape 0 rest := by
  induction skipped with
  | nil => rfl
  | cons c skipped ih => exact ih

theorem unescape_hexDigits {mark : Char} {width n : Nat}
    (hescape : ∀ text, escape (mark :: text) = hexEscape width text)
    (h : n < 16 ^ width) (hcode : n ≤ 0x10FFFF) (rest : List Char) :
    unescape 0 ('\\' :: mark :: (Text.hexDigits width n ++ rest)) = (unescape 0 rest).map (n :: ·) := by
  have hlength : (mark :: Text.hexDigits width n).length = width + 1 := by rw [List.length_cons, length_hexDigits]
  have hrest := unescape_skipped (mark :: Text.hexDigits width n) rest
  rw [hlength] at hrest
  rw [unescape, if_pos rfl, hescape, hexEscape_hexDigits h hcode]
  simp only
  rw [← List.cons_append, hrest]
  rfl

theorem unescape_spelled {c : Char} (hc : c ≠ '\\') (rest : List Char) :
    unescape 0 (spelled c ++ rest) = (unescape 0 rest).map (c.toNat :: ·) := by
  have hcode : c.toNat ≤ 0x10FFFF := by
    have := c.valid
    simp only [UInt32.isValidChar, Nat.isValidChar] at this
    unfold Char.toNat
    omega
  unfold spelled
  split
  · rw [List.singleton_append, unescape, if_neg hc]
  · split
    · exact unescape_hexDigits (fun _ => rfl) (by omega) hcode rest
    · exact unescape_hexDigits (fun _ => rfl) (by omega) hcode rest

/-! ## Code points -/

theorem isHalf_toNat (c : Char) : Text.isHalf c.toNat = false := by
  have hvalid := c.valid
  simp only [UInt32.isValidChar, Nat.isValidChar] at hvalid
  simp only [Text.isHalf, Bool.and_eq_false_iff, decide_eq_false_iff_not]
  unfold Char.toNat
  omega

theorem ofCodes?_toNat (text : List Char) : Text.ofCodes? (text.map Char.toNat) = some (String.ofList text) := by
  have hhalves : (text.map Char.toNat).any Text.isHalf = false := by
    rw [List.any_map, List.any_eq_false]
    intro c _
    simp [isHalf_toNat]
  have hchars : (text.map Char.toNat).map Char.ofNat = text := by
    rw [List.map_map]
    exact List.map_id'' Char.ofNat_toNat text
  rw [Text.ofCodes?, hhalves, hchars]
  rfl

end RpcClients.Proto
