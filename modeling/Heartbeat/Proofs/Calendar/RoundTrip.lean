import Heartbeat.Calendar.Printer
import Heartbeat.Proofs.Calendar.Days
import Heartbeat.Proofs.Text.Runs

/-!
What is printed for an instant in the form of RFC 3339 is read as that instant.
-/

namespace Heartbeat.Calendar

/-- An instant that a clock can show or a date can be read as. -/
structure Instant.Valid (t : Instant) : Prop where
  first : (Date.mk leastYear 1 1).number ≤ t.day
  last : t.day ≤ (Date.mk greatestYear 12 31).number
  second : t.second < 86400
  nano : t.nano < 2000000000
  leap : 1000000000 ≤ t.nano → t.second % 60 = 59

/-! Numbers -/

theorem digitsValue_eq (digits : List Char) :
    digitsValue digits = Nat.ofDigitChars 10 digits 0 := by
  rw [digitsValue, Nat.ofDigitChars]
  congr 1
  funext n c
  rw [Nat.mul_comm]

theorem isDigit_padded (width n : Nat) : ∀ c ∈ padded width n, c.isDigit = true := by
  intro c member
  rcases List.mem_append.mp member with zero | digit
  · rw [(List.mem_replicate.mp zero).2]
    rfl
  · exact Nat.isDigit_of_mem_toDigits (by decide) (by decide) digit

theorem digitsValue_padded (width n : Nat) : digitsValue (padded width n) = n := by
  rw [digitsValue_eq, padded, Nat.ofDigitChars_append, Nat.ofDigitChars_replicate_zero,
    Nat.mul_zero,
    Nat.ofDigitChars_ten_toDigits]

theorem length_padded {width n : Nat} (positive : 0 < width) (fits : n < Nat.pow 10 width) :
    (padded width n).length = width := by
  have few := (Nat.length_toDigits_le_iff (by decide) positive).mpr fits
  rw [padded, List.length_append, List.length_replicate, Nat.sub_add_cancel few]

theorem padded_ne_nil (width n : Nat) : padded width n ≠ [] :=
  List.append_ne_nil_of_right_ne_nil _ Nat.toDigits_ne_nil

theorem readNumber_of_taken {limit : Option Nat} {width n : Nat} {rest : List Char}
    (taken : (match limit with
      | some limit => ((padded width n ++ rest).takeWhile Char.isDigit).take limit
      | none => (padded width n ++ rest).takeWhile Char.isDigit) = padded width n) :
    readNumber limit (padded width n ++ rest) = .ok (n, rest) := by
  have all := isDigit_padded width n
  have value := digitsValue_padded width n
  obtain ⟨c, digits, same⟩ := List.exists_cons_of_ne_nil (padded_ne_nil width n)
  rw [same] at all taken value ⊢
  rw [List.cons_append] at taken ⊢
  have after : (c :: (digits ++ rest)).drop (c :: digits).length = rest := List.drop_left
  rw [readNumber, all c List.mem_cons_self]
  cases limit with
  | none => simp only [Bool.not_true, Bool.false_eq_true, if_false, taken, value, after]
  | some limit => simp only [Bool.not_true, Bool.false_eq_true, if_false, taken, value, after]

theorem readNumber_padded (width n : Nat) {rest : List Char} (ends : Text.Stops Char.isDigit rest) :
    readNumber none (padded width n ++ rest) = .ok (n, rest) :=
  readNumber_of_taken (Text.takeWhile_run (isDigit_padded width n) ends)

theorem readNumber_padded_width {width n : Nat} (positive : 0 < width) (fits : n < Nat.pow 10 width)
    (rest : List Char) : readNumber (some width) (padded width n ++ rest) = .ok (n, rest) := by
  refine readNumber_of_taken ?_
  simp only
  rw [List.takeWhile_append_of_pos (isDigit_padded width n),
    List.take_left' (length_padded positive fits)]

theorem readNumber_padded_short {width limit n : Nat} (positive : 0 < width)
    (fits : n < Nat.pow 10 width) (short : width ≤ limit) {rest : List Char}
    (ends : Text.Stops Char.isDigit rest) :
    readNumber (some limit) (padded width n ++ rest) = .ok (n, rest) := by
  refine readNumber_of_taken ?_
  simp only
  rw [Text.takeWhile_run (isDigit_padded width n) ends, List.take_of_length_le]
  rw [length_padded positive fits]
  exact short

/-! Fields -/

theorem not_isBlank_of_isDigit {c : Char} (digit : c.isDigit = true) : Text.isBlank c = false := by
  simp only [Char.isDigit, Bool.and_eq_true, decide_eq_true_eq] at digit
  have bounds : 48 ≤ c.toNat ∧ c.toNat ≤ 57 := digit
  refine Bool.eq_false_iff.mpr fun blank => ?_
  simp only [Text.isBlank, Bool.or_eq_true, Bool.and_eq_true, decide_eq_true_eq, beq_iff_eq]
    at blank
  omega

theorem trimStart_padded (width n : Nat) (rest : List Char) :
    Text.trimStart (padded width n ++ rest) = padded width n ++ rest := by
  have all := isDigit_padded width n
  obtain ⟨c, digits, same⟩ := List.exists_cons_of_ne_nil (padded_ne_nil width n)
  rw [same] at all ⊢
  exact List.dropWhile_cons_of_neg
    (ne_true_of_eq_false (not_isBlank_of_isDigit (all c List.mem_cons_self)))

theorem readField_padded {least greatest n : Nat} (fits : n < 100) (enough : least ≤ n)
    (few : n ≤ greatest) (rest : List Char) :
    readField least greatest (padded 2 n ++ rest) = .ok (n, rest) := by
  rw [readField, trimStart_padded, readNumber_padded_width (by decide) fits]
  exact if_pos ⟨enough, few⟩

theorem expectMark_cons {mark : Char} (solid : Text.isBlank mark = false) (rest : List Char) :
    expectMark mark (mark :: rest) = .ok rest := by
  have trimmed : Text.trimStart (mark :: rest) = mark :: rest :=
    List.dropWhile_cons_of_neg (ne_true_of_eq_false solid)
  rw [expectMark, trimmed]
  exact if_pos rfl

theorem readYear_of_digits {text : List Char} (trimmed : Text.trimStart text = text)
    (digit : ∀ c ∈ text.head?, c.isDigit = true) {n : Nat} {rest : List Char}
    (read : readNumber (some 4) text = .ok (n, rest)) : readYear text = .ok ((n : Int), rest) := by
  rw [readYear, trimmed]
  split
  · exact absurd (digit _ rfl) (by decide)
  · exact absurd (digit _ rfl) (by decide)
  · rw [read]
    rfl

theorem readSignedYear_padded {year : Int} (inRange : inYearRange year = true)
    {negative : Bool} (value : (if negative then -(year.natAbs : Int) else year.natAbs) = year)
    {rest : List Char} (ends : Text.Stops Char.isDigit rest) :
    readSignedYear negative (padded 4 year.natAbs ++ rest) = .ok (year, rest) := by
  rw [readSignedYear, readNumber_padded 4 year.natAbs ends]
  simp only [value, inRange, if_true]

theorem readYear_yearText {year : Int} (inRange : inYearRange year = true) (rest : List Char) :
    readYear (yearText year ++ '-' :: rest) = .ok (year, '-' :: rest) := by
  have ends : Text.Stops Char.isDigit ('-' :: rest) := by
    rintro c ⟨⟩
    rfl
  unfold yearText
  split
  · rename_i short
    have fits : year.toNat < 10000 := by omega
    have read := @readNumber_padded_width 4 _ (by decide) fits ('-' :: rest)
    rw [readYear_of_digits (trimStart_padded 4 year.toNat _) ?_ read,
      Int.toNat_of_nonneg short.1]
    intro c head
    obtain ⟨d, digits, same⟩ := List.exists_cons_of_ne_nil (padded_ne_nil 4 year.toNat)
    have all := isDigit_padded 4 year.toNat
    rw [same] at head all
    cases head
    exact all c List.mem_cons_self
  · rcases Int.lt_or_le year 0 with negative | positive
    · rw [if_pos negative, List.cons_append]
      exact readSignedYear_padded inRange (by rw [if_pos rfl]; omega) ends
    · rw [if_neg (Int.not_lt.mpr positive), List.cons_append]
      exact readSignedYear_padded inRange (by rw [if_neg Bool.false_ne_true]; omega) ends

theorem readDate_text {date : Date} (inRange : inYearRange date.year = true)
    (month : 1 ≤ date.month ∧ date.month ≤ 12) (day : 1 ≤ date.day ∧ date.day ≤ 31)
    (rest : List Char) : readDate (date.text ++ rest) = .ok (date, rest) := by
  have text : date.text ++ rest =
      yearText date.year ++ '-' :: (padded 2 date.month ++ '-' :: (padded 2 date.day ++ rest)) := by
    simp only [Date.text, List.append_assoc, List.cons_append]
  have dash : Text.isBlank '-' = false := by decide
  rw [text]
  simp only [readDate, readYear_yearText inRange, expectMark_cons dash,
    readField_padded (show date.month < 100 by omega) month.1 month.2,
    readField_padded (show date.day < 100 by omega) day.1 day.2, bind, Except.bind, pure,
    Except.pure]

/-! Times -/

theorem readFraction_padded {width n : Nat} (positive : 0 < width) (short : width ≤ 9)
    (fits : n < Nat.pow 10 width) {rest : List Char} (ends : Text.Stops Char.isDigit rest) :
    readFraction ('.' :: (padded width n ++ rest)) = .ok (n * Nat.pow 10 (9 - width), rest) := by
  have read := readNumber_padded_short positive fits short ends
  have taken : (padded width n ++ rest).length - rest.length = width := by
    rw [List.length_append, Nat.add_sub_cancel, length_padded positive fits]
  simp only [readFraction, read, taken, Text.dropWhile_of_stops ends]

theorem readFraction_fractionText {nano : Nat} (fits : nano < 1000000000) {rest : List Char}
    (ends : Text.Stops Char.isDigit rest) (noPoint : rest.head? ≠ some '.') :
    readFraction (fractionText nano ++ rest) = .ok (nano, rest) := by
  unfold fractionText
  split
  · rename_i zero
    rw [zero, List.nil_append]
    unfold readFraction
    split
    · exact absurd rfl noPoint
    · rfl
  · split
    · rename_i thousandths
      have few : nano / 1000000 < 1000 := by omega
      rw [List.cons_append, @readFraction_padded 3 _ (by decide) (by decide) few _ ends]
      congr 2
      change nano / 1000000 * 1000000 = nano
      omega
    · split
      · rename_i millionths
        have few : nano / 1000 < 1000000 := by omega
        rw [List.cons_append, @readFraction_padded 6 _ (by decide) (by decide) few _ ends]
        congr 2
        change nano / 1000 * 1000 = nano
        omega
      · rw [List.cons_append, @readFraction_padded 9 _ (by decide) (by decide) fits _ ends]
        congr 2
        exact Nat.mul_one nano

theorem readTime_timeText {t : Instant} (valid : t.Valid) {rest : List Char}
    (ends : Text.Stops Char.isDigit rest) (noPoint : rest.head? ≠ some '.') :
    readTime (t.timeText ++ rest) = .ok ((t.second, t.nano), rest) := by
  have second := valid.second
  have nano := valid.nano
  have leap := valid.leap
  have text : t.timeText ++ rest =
      padded 2 (t.second / 3600) ++ ':' :: (padded 2 (t.second / 60 % 60) ++
        ':' :: (padded 2 (t.second % 60 + t.nano / 1000000000) ++
          (fractionText (t.nano % 1000000000) ++ rest))) := by
    simp only [Instant.timeText, List.append_assoc, List.cons_append]
  have colon : Text.isBlank ':' = false := by decide
  have hours := @readField_padded 0 23 (t.second / 3600) (by omega) (by omega) (by omega)
  have minutes := @readField_padded 0 59 (t.second / 60 % 60) (by omega) (by omega) (by omega)
  have seconds := @readField_padded 0 60 (t.second % 60 + t.nano / 1000000000) (by omega)
    (by omega) (by omega)
  have fraction := readFraction_fractionText
    (show t.nano % 1000000000 < 1000000000 from Nat.mod_lt _ (by decide)) ends noPoint
  rw [text]
  simp only [readTime, hours, minutes, seconds, fraction, expectMark_cons colon, bind, Except.bind,
    pure, Except.pure]
  congr 3
  · omega
  · omega

/-! Instants -/

theorem instantAt_universal {t : Instant} (valid : t.Valid) :
    instantAt t.date t.second t.nano 0 = .ok t := by
  have second := valid.second
  obtain ⟨least, greatest⟩ := Date.year_inRange valid.first valid.last
  obtain ⟨-, -, -, inMonth⟩ := Date.ofNumber_bounds t.day
  have exist : t.date.exists = true := by
    simp only [Date.exists, Bool.and_eq_true, decide_eq_true_eq]
    exact ⟨⟨least, greatest⟩, inMonth⟩
  have days : ((t.second : Int) - 0).fdiv 86400 = 0 := by
    rw [Int.fdiv_eq_ediv_of_nonneg _ (by decide)]
    omega
  have seconds : (((t.second : Int) - 0).fmod 86400).toNat = t.second := by
    rw [Int.fmod_eq_emod_of_nonneg _ (by decide)]
    omega
  have number : t.date.number = t.day := Date.number_ofNumber t.day
  simp only [instantAt, exist, days, seconds, number, Int.add_zero]
  rw [if_neg (by decide), if_neg (by decide), if_pos ⟨valid.first, valid.last⟩]

theorem readInstant_rfc3339 {t : Instant} (valid : t.Valid) :
    readInstant (String.ofList t.rfc3339) = .ok t := by
  obtain ⟨least, greatest⟩ := Date.year_inRange valid.first valid.last
  obtain ⟨january, december, firstDay, inMonth⟩ := Date.ofNumber_bounds t.day
  have inRange : inYearRange t.date.year = true := by
    simp only [inYearRange, Bool.and_eq_true, decide_eq_true_eq]
    rw [leastYear] at least
    rw [greatestYear] at greatest
    exact ⟨by simp only [Instant.date]; omega, by simp only [Instant.date]; omega⟩
  have lastDay : t.date.day ≤ 31 := Nat.le_trans inMonth (Date.daysInMonth_le_31 ..)
  have date := readDate_text inRange ⟨january, december⟩ ⟨firstDay, lastDay⟩
    ('T' :: (t.timeText ++ ['Z']))
  have time := @readTime_timeText t valid ['Z'] (by rintro c ⟨⟩; rfl) (by decide)
  have text : t.rfc3339 = t.date.text ++ 'T' :: (t.timeText ++ ['Z']) := by
    simp only [Instant.rfc3339, List.append_assoc, List.cons_append]
  rw [readInstant, String.toList_ofList, text]
  have separator : expectSeparator ('T' :: (t.timeText ++ ['Z'])) = .ok (t.timeText ++ ['Z']) := by
    rw [expectSeparator, if_pos (.inl rfl)]
  have offset : readOffset (Text.trimStart ['Z']) = .ok (0, []) := by rfl
  simp only [date, separator, time, offset, bind, Except.bind]
  exact instantAt_universal valid

end Heartbeat.Calendar
