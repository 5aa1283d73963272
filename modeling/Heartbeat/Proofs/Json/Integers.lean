import Heartbeat.Json.Reader
import Heartbeat.Proofs.Json.Skipping

/-!
Integers are printed without leading zeros, and those of 64 bits are read back.
-/

namespace Heartbeat.Json

theorem toNat_of_isDigit {c : Char} (digit : c.isDigit = true) :
    48 ≤ c.toNat ∧ c.toNat ≤ 57 := by
  simp only [Char.isDigit, Bool.and_eq_true, decide_eq_true_eq] at digit
  exact digit

theorem isDigit_toUInt8 {c : Char} (digit : c.isDigit = true) : isDigit c.toNat.toUInt8 = true := by
  obtain ⟨least, most⟩ := toNat_of_isDigit digit
  have value : c.toNat.toUInt8.toNat = c.toNat := Utf8.toNat_toUInt8 (by omega)
  simp only [isDigit, Bool.and_eq_true, decide_eq_true_eq, UInt8.le_iff_toNat_le, value]
  exact ⟨least, most⟩

theorem digitValue_toUInt8 {c : Char} (digit : c.isDigit = true) :
    digitValue c.toNat.toUInt8 = c.toNat - '0'.toNat := by
  obtain ⟨least, most⟩ := toNat_of_isDigit digit
  rw [digitValue, Utf8.toNat_toUInt8 (by omega)]
  rfl

theorem toUInt8_ne_zero {c : Char} (digit : c.isDigit = true) (notZero : c ≠ '0') :
    c.toNat.toUInt8 ≠ 0x30 := by
  obtain ⟨least, most⟩ := toNat_of_isDigit digit
  intro zero
  have value := congrArg UInt8.toNat zero
  rw [Utf8.toNat_toUInt8 (by omega)] at value
  exact notZero (Char.toNat_inj.mp value)

theorem allDigits_asciiBytes {text : List Char} (digits : ∀ c ∈ text, c.isDigit = true) :
    AllDigits (asciiBytes text) := by
  intro b member
  obtain ⟨c, inText, rfl⟩ := List.mem_map.mp member
  exact isDigit_toUInt8 (digits c inText)

theorem le_ofDigitChars (text : List Char) (start : Nat) :
    start ≤ Nat.ofDigitChars 10 text start := by
  rw [Nat.ofDigitChars_eq_ofDigitChars_zero]
  have positive : 0 < 10 ^ text.length := Nat.pow_pos (by decide)
  exact Nat.le_trans (Nat.le_mul_of_pos_left start positive) (Nat.le_add_right _ _)

theorem absorb_asciiBytes {text : List Char} (digits : ∀ c ∈ text, c.isDigit = true)
    {start : Nat} (small : Nat.ofDigitChars 10 text start ≤ maxWord) :
    absorb start (asciiBytes text) = (Nat.ofDigitChars 10 text start, 0) := by
  induction text generalizing start with
  | nil => rw [Nat.ofDigitChars_nil]; rfl
  | cons c text ih =>
      rw [Nat.ofDigitChars_cons] at small ⊢
      have next : start * 10 + digitValue c.toNat.toUInt8 =
          10 * start + (c.toNat - '0'.toNat) := by
        rw [digitValue_toUInt8 (digits c List.mem_cons_self), Nat.mul_comm]
      rw [asciiBytes, List.map_cons, absorb, next, if_pos (Nat.le_trans (le_ofDigitChars ..) small)]
      exact ih (fun c member => digits c (List.mem_cons_of_mem _ member)) small

theorem isDigit_toDigits (n : Nat) : ∀ c ∈ Nat.toDigits 10 n, c.isDigit = true :=
  fun _ member => Nat.isDigit_of_mem_toDigits (by decide) (by decide) member

/-- A number other than zero has no leading zero. -/
theorem head_toDigits {n : Nat} (positive : 0 < n) :
    ∃ c digits, Nat.toDigits 10 n = c :: digits ∧ c ≠ '0' := by
  induction n using Nat.strongRecOn with
  | ind n ih =>
      rcases Nat.lt_or_ge n 10 with small | large
      · refine ⟨n.digitChar, [], Nat.toDigits_of_lt_base small, fun zero => ?_⟩
        exact absurd (Nat.digitChar_eq_zero.mp zero) (Nat.ne_of_gt positive)
      · obtain ⟨c, digits, same, notZero⟩ :=
          ih (n / 10) (Nat.div_lt_self positive (by decide)) (by omega)
        exact ⟨c, digits ++ [(n % 10).digitChar],
          by rw [Nat.toDigits_of_base_le (by decide) large, same]; rfl, notZero⟩

theorem readAfterInteger_of_ends (ends : Ends rest) (negative : Bool) (significand : Nat) :
    readAfterInteger negative significand 0 rest = integerOf negative significand rest := by
  unfold readAfterInteger
  split
  · exact absurd (ends _ rfl) (by decide)
  · exact absurd (ends _ rfl) (by decide)
  · exact absurd (ends _ rfl) (by decide)
  · exact if_pos rfl

/-- A number that does not begin with a zero is read digit by digit. -/
theorem readNumber_of_digits {digits more rest : Bytes} (digit : isDigit b = true)
    (notZero : b ≠ 0x30) (span : (b :: more).span isDigit = (digits, rest))
    (absorbed : absorb 0 digits = (significand, dropped)) (negative : Bool) :
    readNumber negative (b :: more) = readAfterInteger negative significand dropped rest := by
  rw [readNumber, if_pos digit]
  · simp only [span, absorbed]
  · exact notZero

theorem readNumber_toDigits {n : Nat} (small : n ≤ maxWord) (ends : Ends rest) (negative : Bool) :
    readNumber negative (asciiBytes (Nat.toDigits 10 n) ++ rest) = integerOf negative n rest := by
  rcases Nat.eq_zero_or_pos n with rfl | positive
  · have after := readAfterInteger_of_ends ends negative 0
    cases rest with
    | nil => exact after
    | cons b rest =>
        exact (if_neg (ne_true_of_eq_false (ends.stops b rfl))).trans after
  · obtain ⟨c, digits, same, notZero⟩ := head_toDigits positive
    have all := isDigit_toDigits n
    have value : Nat.ofDigitChars 10 (Nat.toDigits 10 n) 0 = n := Nat.ofDigitChars_ten_toDigits
    have absorbed := absorb_asciiBytes all (Nat.le_trans (Nat.le_of_eq value) small)
    have span := Text.span_run (allDigits_asciiBytes all) ends.stops
    rw [value] at absorbed
    rw [same] at all span absorbed ⊢
    have digit : c.isDigit = true := all c List.mem_cons_self
    have read := readNumber_of_digits (isDigit_toUInt8 digit) (toUInt8_ne_zero digit notZero) span
      absorbed negative
    exact read.trans (readAfterInteger_of_ends ends negative n)

/-- The integers that are kept as such. -/
def InRange (n : Int) : Prop :=
  -9223372036854775808 ≤ n ∧ n ≤ 18446744073709551615

theorem integerText_of_nonneg (n : Nat) : integerText n = Nat.toDigits 10 n := by
  rw [integerText, if_neg (Int.not_lt.mpr (Int.natCast_nonneg n)), Int.natAbs_natCast]
  rfl

theorem integerText_of_neg (n : Nat) (positive : 0 < n) :
    integerText (-(n : Int)) = '-' :: Nat.toDigits 10 n := by
  rw [integerText, if_pos (by omega), Int.natAbs_neg, Int.natAbs_natCast]
  rfl

theorem starts_toDigits (n : Nat) :
    ∃ b more, asciiBytes (Nat.toDigits 10 n) = b :: more ∧ isDigit b = true := by
  obtain ⟨c, digits, same⟩ := List.exists_cons_of_ne_nil (Nat.toDigits_ne_nil (n := n) (b := 10))
  refine ⟨c.toNat.toUInt8, asciiBytes digits, by rw [same]; rfl, ?_⟩
  exact isDigit_toUInt8 (isDigit_toDigits n c (by rw [same]; exact List.mem_cons_self))

theorem readScalar_of_isDigit (digit : isDigit b = true) (bytes : Bytes) :
    readScalar (b :: bytes) =
      (readNumber false (b :: bytes)).map fun (n, rest) => (.number n, rest) := by
  unfold readScalar
  split
  case h_7 same =>
      cases same
      rw [if_pos digit]
  case h_1 same => cases same
  all_goals
    rename_i same
    cases same
    exact absurd digit (by decide)

theorem readScalar_integer {n : Int} (inRange : InRange n) (ends : Ends rest) :
    readScalar (asciiBytes (integerText n) ++ rest) = .ok (.number (.integer n), rest) := by
  obtain ⟨least, most⟩ := inRange
  rcases Int.lt_or_le n 0 with negative | nonneg
  · obtain ⟨m, rfl⟩ : ∃ m : Nat, n = -(m : Int) := ⟨n.natAbs, by omega⟩
    have read := readNumber_toDigits (n := m) (by rw [maxWord]; omega) ends true
    rw [integerOf, if_neg (by decide), if_pos ⟨by omega, by omega⟩] at read
    rw [integerText_of_neg m (by omega)]
    change (readNumber true (asciiBytes (Nat.toDigits 10 m) ++ rest)).map _ = _
    rw [read]
    rfl
  · obtain ⟨m, rfl⟩ := Int.eq_ofNat_of_zero_le nonneg
    have read := readNumber_toDigits (n := m) (by rw [maxWord]; omega) ends false
    rw [integerOf, if_pos Bool.not_false] at read
    rw [integerText_of_nonneg]
    obtain ⟨b, more, same, digit⟩ := starts_toDigits m
    rw [same] at read ⊢
    rw [List.cons_append] at read ⊢
    rw [readScalar_of_isDigit digit, read]
    rfl

end Heartbeat.Json
