import Heartbeat.Calendar.Reader

/-!
Days and dates correspond: the date of a day has that day's number, and it is a date that exists.
A day is split up within its cycle of 400 years, where the year begins in March.
-/

namespace Heartbeat.Calendar.Date

/-- A day of a cycle by its century, its four years, its year and its day. Only the last of four
years has a leap day, and the last four years of a century have none unless it ends the cycle. -/
structure Splits (day c k j t : Nat) : Prop where
  century : c ≤ 3
  quadrennium : k ≤ 24
  year : j ≤ 3
  whole : day = 36524 * c + 1461 * k + 365 * j + t
  short : t ≤ 364 ∨ t = 365 ∧ j = 3 ∧ (k = 24 → c = 3)

theorem exists_splits {day : Nat} (inCycle : day < 146097) : ∃ c k j t, Splits day c k j t := by
  obtain ⟨c, r, century, rfl, most, last⟩ :
      ∃ c r, c ≤ 3 ∧ day = 36524 * c + r ∧ r ≤ 36524 ∧ (r = 36524 → c = 3) :=
    ⟨min (day / 36524) 3, day - 36524 * min (day / 36524) 3, by omega⟩
  obtain ⟨j, t, year, rest, short⟩ :
      ∃ j t, j ≤ 3 ∧ r % 1461 = 365 * j + t ∧ (t ≤ 364 ∨ t = 365 ∧ j = 3) :=
    ⟨min (r % 1461 / 365) 3, r % 1461 - 365 * min (r % 1461 / 365) 3, by omega⟩
  exact ⟨c, r / 1461, j, t, century, by omega, year, by omega, by omega⟩

theorem yearOfCycle_of_splits {day c k j t : Nat} (splits : Splits day c k j t) :
    (day - day / 1460 + day / 36524 - day / 146096) / 365 = 100 * c + 4 * k + j := by
  obtain ⟨century, quadrennium, year, whole, short⟩ := splits
  -- The divisions count the leap days before the day, except that they may miss the day itself.
  have cycles : day / 146096 = 0 ∧ day ≤ 146095 ∨ day / 146096 = 1 ∧ day = 146096 := by omega
  have centuries : day / 36524 = c ∨ day / 36524 = 4 ∧ day = 146096 := by omega
  have quadrennia : day / 1460 = 25 * c + k ∧ 24 * c + k + 365 * j + t < 1460 ∨
      day / 1460 = 25 * c + k + 1 ∧ 1460 ≤ 24 * c + k + 365 * j + t := by omega
  omega

theorem dayOfYear_of_splits {day c k j t : Nat} (splits : Splits day c k j t) {year : Nat}
    (same : year = 100 * c + 4 * k + j) : day - (365 * year + year / 4 - year / 100) = t := by
  obtain ⟨century, quadrennium, year, whole, short⟩ := splits
  omega

/-- A day of a year that begins in March, and the month it falls into. -/
theorem monthOfYear {t : Nat} (inYear : t < 366) :
    (5 * t + 2) / 153 ≤ 11 ∧ (153 * ((5 * t + 2) / 153) + 2) / 5 ≤ t ∧
      t - (153 * ((5 * t + 2) / 153) + 2) / 5 < 31 ∧
      ((5 * t + 2) / 153 < 10 ↔ t < 306) := by
  omega

theorem ofNumber_of_splits {n cycle : Int} {day c k j t : Nat} (splits : Splits day c k j t)
    (number : n = 146097 * cycle + day - 719468) :
    ofNumber n =
      { year := 400 * cycle + 100 * c + 4 * k + j + (if t < 306 then 0 else 1)
        month := if t < 306 then (5 * t + 2) / 153 + 3 else (5 * t + 2) / 153 - 9
        day := t - (153 * ((5 * t + 2) / 153) + 2) / 5 + 1 } := by
  have inCycle : day < 146097 := by
    obtain ⟨century, quadrennium, year, whole, short⟩ := splits
    omega
  have inYear : t < 366 := by
    have := splits.short
    omega
  have quotient : (n + 719468).fdiv 146097 = cycle := by
    rw [Int.fdiv_eq_ediv_of_nonneg _ (by decide)]
    omega
  have remainder : ((n + 719468).fmod 146097).toNat = day := by
    rw [Int.fmod_eq_emod_of_nonneg _ (by decide)]
    omega
  have year := yearOfCycle_of_splits splits
  have dayOfYear := dayOfYear_of_splits splits rfl
  have month := (monthOfYear inYear).2.2.2
  simp only [ofNumber, quotient, remainder, year, dayOfYear]
  by_cases early : t < 306
  · rw [if_pos early, if_pos early, if_pos (month.mpr early), if_pos (month.mpr early)]
    congr 1
    omega
  · have late := fun before => early (month.mp before)
    rw [if_neg early, if_neg early, if_neg late, if_neg late]
    congr 1
    omega

theorem exists_split (n : Int) :
    ∃ cycle day c k j t, Splits day c k j t ∧ n = 146097 * cycle + day - 719468 := by
  obtain ⟨c, k, j, t, splits⟩ := @exists_splits ((n + 719468) % 146097).toNat (by omega)
  exact ⟨(n + 719468) / 146097, _, c, k, j, t, splits, by omega⟩

theorem number_ofNumber (n : Int) : (ofNumber n).number = n := by
  obtain ⟨cycle, day, c, k, j, t, splits, number⟩ := exists_split n
  have inYear : t < 366 := by
    have := splits.short
    omega
  obtain ⟨most, least, -, early⟩ := monthOfYear inYear
  obtain ⟨century, quadrennium, year, whole, short⟩ := id splits
  rw [ofNumber_of_splits splits number, Date.number]
  simp only [Int.fdiv_eq_ediv_of_nonneg _ (show (0 : Int) ≤ 4 by decide),
    Int.fdiv_eq_ediv_of_nonneg _ (show (0 : Int) ≤ 100 by decide),
    Int.fdiv_eq_ediv_of_nonneg _ (show (0 : Int) ≤ 400 by decide)]
  by_cases before : t < 306
  · have later := early.mpr before
    simp only [if_pos before]
    rw [if_neg (by omega), if_neg (by omega), Nat.add_sub_cancel]
    omega
  · have earlier : ¬ (5 * t + 2) / 153 < 10 := fun month => before (early.mp month)
    simp only [if_neg before]
    rw [if_pos (by omega), if_pos (by omega), Nat.sub_add_cancel (by omega)]
    omega

theorem daysInMonth_le (year : Int) (month : Nat) :
    daysInMonth 1 month ≤ daysInMonth year month := by
  unfold daysInMonth
  by_cases february : month = 2
  · rw [if_pos february, if_pos february]
    cases isLeapYear year <;> decide
  · exact Nat.le_of_eq ((if_neg february).trans (if_neg february).symm)

/-- No day of a year from March lies behind the end of its month. -/
theorem day_le_daysInMonth {year : Int} {t : Nat} (inYear : t < 366)
    (leap : t = 365 → isLeapYear year = true) :
    t - (153 * ((5 * t + 2) / 153) + 2) / 5 + 1 ≤
      daysInMonth year (if t < 306 then (5 * t + 2) / 153 + 3 else (5 * t + 2) / 153 - 9) := by
  rcases Nat.lt_or_ge t 365 with short | long
  · have all : ∀ t < 365, t - (153 * ((5 * t + 2) / 153) + 2) / 5 + 1 ≤
        daysInMonth 1 (if t < 306 then (5 * t + 2) / 153 + 3 else (5 * t + 2) / 153 - 9) := by
      decide +kernel
    exact Nat.le_trans (all t short) (daysInMonth_le ..)
  · obtain rfl : t = 365 := by omega
    rw [daysInMonth, leap rfl]
    decide

theorem isLeapYear_of_splits {day c k j t : Nat} (splits : Splits day c k j t) (cycle : Int)
    (last : t = 365) : isLeapYear (400 * cycle + 100 * c + 4 * k + j + 1) = true := by
  obtain ⟨century, quadrennium, year, whole, short⟩ := splits
  have four : (400 * cycle + 100 * c + 4 * k + j + 1) % 4 = 0 := by omega
  have hundred : (400 * cycle + 100 * c + 4 * k + j + 1) % 100 ≠ 0 ∨
      (400 * cycle + 100 * c + 4 * k + j + 1) % 400 = 0 := by omega
  simp only [isLeapYear, Bool.and_eq_true, Bool.or_eq_true, decide_eq_true_eq]
  exact ⟨four, hundred⟩

/-- The date of a day is one that exists, apart from its year being within range. -/
theorem ofNumber_bounds (n : Int) :
    1 ≤ (ofNumber n).month ∧ (ofNumber n).month ≤ 12 ∧ 1 ≤ (ofNumber n).day ∧
      (ofNumber n).day ≤ daysInMonth (ofNumber n).year (ofNumber n).month := by
  obtain ⟨cycle, day, c, k, j, t, splits, number⟩ := exists_split n
  have inYear : t < 366 := by
    have := splits.short
    omega
  obtain ⟨most, least, -, early⟩ := monthOfYear inYear
  rw [ofNumber_of_splits splits number]
  refine ⟨?_, ?_, Nat.succ_pos _, ?_⟩
  · simp only
    split
    · omega
    · omega
  · simp only
    split
    · omega
    · omega
  · refine day_le_daysInMonth inYear fun last => ?_
    rw [if_neg (by omega)]
    exact isLeapYear_of_splits splits cycle last

theorem daysInMonth_le_31 (year : Int) (month : Nat) : daysInMonth year month ≤ 31 := by
  unfold daysInMonth
  split
  · split <;> decide
  · split <;> decide

theorem exists_year (n : Int) :
    ∃ (year : Int) (t : Nat), t < 366 ∧
      n = 365 * year + year / 4 - year / 100 + year / 400 + t - 719468 ∧
      (ofNumber n).year = year + if t < 306 then 0 else 1 := by
  obtain ⟨cycle, day, c, k, j, t, splits, number⟩ := exists_split n
  refine ⟨400 * cycle + 100 * c + 4 * k + j, t, ?_, ?_, ?_⟩
  · have := splits.short
    omega
  · obtain ⟨century, quadrennium, year, whole, short⟩ := splits
    omega
  · rw [ofNumber_of_splits splits number]

/-- The days that can be counted are those of the years that can be. -/
theorem year_inRange {n : Int} (first : (Date.mk leastYear 1 1).number ≤ n)
    (last : n ≤ (Date.mk greatestYear 12 31).number) :
    leastYear ≤ (ofNumber n).year ∧ (ofNumber n).year ≤ greatestYear := by
  have least : (Date.mk leastYear 1 1).number = -96465292 := by decide
  have greatest : (Date.mk greatestYear 12 31).number = 95026236 := by decide
  rw [least] at first
  rw [greatest] at last
  obtain ⟨year, t, inYear, rfl, same⟩ := exists_year n
  rw [same, leastYear, greatestYear]
  -- At the two ends it takes the day of the year to tell.
  have cases : year = -262144 ∨ year = 262142 ∨ year < -262144 ∨ 262142 < year ∨
      -262144 < year ∧ year < 262142 := by omega
  rcases cases with rfl | rfl | before | after | between
  all_goals
    split
    · omega
    · omega

end Heartbeat.Calendar.Date
