import Heartbeat.Proofs.Calendar.RoundTrip
import Heartbeat.Proofs.Json.Integers
import Heartbeat.Proofs.Json.Reading

/-!
Every date that is read is an instant that can be printed and read again.
-/

namespace Heartbeat.Calendar

open Json (eq_of_bind_ok)

/-! Numbers -/

theorem ofDigitChars_lt {digits : List Char} (all : ∀ c ∈ digits, c.isDigit = true)
    (start : Nat) :
    Nat.ofDigitChars 10 digits start < (start + 1) * Nat.pow 10 digits.length := by
  induction digits generalizing start with
  | nil =>
      rw [Nat.ofDigitChars_nil, List.length_nil]
      exact Nat.lt_of_lt_of_eq (Nat.lt_succ_self start) (Nat.mul_one _).symm
  | cons c digits ih =>
      have most := (Json.toNat_of_isDigit (all c List.mem_cons_self)).2
      have zero : '0'.toNat = 48 := rfl
      have next : 10 * start + (c.toNat - '0'.toNat) + 1 ≤ (start + 1) * 10 := by omega
      have power : Nat.pow 10 (c :: digits).length = 10 * Nat.pow 10 digits.length := by
        rw [List.length_cons, Nat.mul_comm]
        exact Nat.pow_succ ..
      rw [Nat.ofDigitChars_cons, power, ← Nat.mul_assoc]
      exact Nat.lt_of_lt_of_le (ih (fun d member => all d (List.mem_cons_of_mem _ member)) _)
        (Nat.mul_le_mul_right _ next)

/-- A number is less than the power of ten that its digits allow. -/
theorem lt_of_readNumber {width n : Nat} {text rest : List Char}
    (read : readNumber (some width) text = .ok (n, rest)) :
    ∃ count, count ≤ width ∧ n < Nat.pow 10 count ∧ text.length = rest.length + count := by
  unfold readNumber at read
  split at read
  · cases read
  · rename_i c more
    split at read
    · cases read
    · cases read
      have all : ∀ d ∈ ((c :: more).takeWhile Char.isDigit).take width, d.isDigit = true :=
        fun d member => List.all_eq_true.mp List.all_takeWhile d (List.mem_of_mem_take member)
      have small := ofDigitChars_lt all 0
      rw [← digitsValue_eq, Nat.zero_add, Nat.one_mul] at small
      refine ⟨_, List.length_take_le .., small, ?_⟩
      have within : (((c :: more).takeWhile Char.isDigit).take width).length ≤ (c :: more).length :=
        Nat.le_trans (List.length_take_le' ..) (List.takeWhile_prefix _).length_le
      rw [List.length_drop, Nat.sub_add_cancel within]

theorem bounds_of_readField {least greatest n : Nat} {text rest : List Char}
    (read : readField least greatest text = .ok (n, rest)) : least ≤ n ∧ n ≤ greatest := by
  unfold readField at read
  split at read
  · cases read
  · split at read
    · rename_i bounds
      cases read
      exact bounds
    · cases read

/-! Times -/

theorem lt_of_readFraction {nano : Nat} {text rest : List Char}
    (read : readFraction text = .ok (nano, rest)) : nano < 1000000000 := by
  unfold readFraction at read
  split at read
  · split at read
    · cases read
    · rename_i n _ taken
      cases read
      obtain ⟨count, few, small, length⟩ := lt_of_readNumber taken
      have all : Nat.pow 10 count * Nat.pow 10 (9 - count) = 1000000000 := by
        rw [Nat.pow_eq, Nat.pow_eq, ← Nat.pow_add, Nat.add_sub_cancel' few]
      rw [length, Nat.add_sub_cancel_left, ← all]
      exact Nat.mul_lt_mul_of_pos_right small (Nat.pow_pos (by decide))
  · cases read
    decide

/-- A second of a day and its nanoseconds, in which only the last second of a minute can be long. -/
structure IsTime (s n : Nat) : Prop where
  second : s < 86400
  nano : n < 2000000000
  leap : 1000000000 ≤ n → s % 60 = 59

theorem isTime_of_readTime {second nano : Nat} {text rest : List Char}
    (read : readTime text = .ok ((second, nano), rest)) : IsTime second nano := by
  obtain ⟨⟨hour, _⟩, hours, read⟩ := eq_of_bind_ok read
  obtain ⟨_, _, read⟩ := eq_of_bind_ok read
  obtain ⟨⟨minute, _⟩, minutes, read⟩ := eq_of_bind_ok read
  obtain ⟨_, _, read⟩ := eq_of_bind_ok read
  obtain ⟨⟨counted, _⟩, seconds, read⟩ := eq_of_bind_ok read
  obtain ⟨⟨fraction, _⟩, small, read⟩ := eq_of_bind_ok read
  cases read
  have hours := bounds_of_readField hours
  have minutes := bounds_of_readField minutes
  have seconds := bounds_of_readField seconds
  have small := lt_of_readFraction small
  refine ⟨by omega, by omega, fun long => ?_⟩
  have sixtieth : counted = 60 := by omega
  rw [sixtieth]
  omega

/-- Offsets are whole minutes. -/
theorem minutes_of_readOffset {offset : Int} {text rest : List Char}
    (read : readOffset text = .ok (offset, rest)) : offset % 60 = 0 := by
  unfold readOffset at read
  split at read
  · cases read
    rfl
  · split at read
    · cases read
    · cases read
      rfl
    · cases read
      rfl
    · split at read
      · cases read
      · obtain ⟨⟨hours, _⟩, _, read⟩ := eq_of_bind_ok read
        obtain ⟨⟨minutes, _⟩, _, read⟩ := eq_of_bind_ok read
        cases read
        split <;> omega

/-! Instants -/

theorem valid_of_instantAt {date : Date} {second nano : Nat} {offset : Int} {t : Instant}
    (time : IsTime second nano) (minutes : offset % 60 = 0)
    (read : instantAt date second nano offset = .ok t) : t.Valid := by
  unfold instantAt at read
  split at read
  · cases read
  · split at read
    · cases read
    · simp only at read
      split at read
      · rename_i days
        cases read
        have universal : ((second : Int) - offset).fmod 86400 = ((second : Int) - offset) % 86400 :=
          Int.fmod_eq_emod_of_nonneg _ (by decide)
        have leap := time.leap
        refine ⟨days.1, days.2, ?_, time.nano, fun long => ?_⟩
        · simp only [universal]
          omega
        · have last := leap long
          simp only [universal]
          omega
      · cases read

/-- Whatever offset a date is written with, it is read as a valid instant. -/
theorem valid_of_readInstant {text : String} {t : Instant} (read : readInstant text = .ok t) :
    t.Valid := by
  obtain ⟨⟨date, _⟩, _, read⟩ := eq_of_bind_ok read
  obtain ⟨_, _, read⟩ := eq_of_bind_ok read
  obtain ⟨⟨⟨second, nano⟩, _⟩, time, read⟩ := eq_of_bind_ok read
  obtain ⟨⟨offset, _⟩, minutes, read⟩ := eq_of_bind_ok read
  simp only at read
  split at read
  · cases read
  · exact valid_of_instantAt (isTime_of_readTime time) (minutes_of_readOffset minutes) read

end Heartbeat.Calendar
