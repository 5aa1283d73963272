import Heartbeat.Proofs.Json.Grammar

/-!
The readers of numbers follow the grammar. A number that is kept is first of all one that could
have been skipped.
-/

namespace Heartbeat.Json

theorem Ends.stops (ends : Ends rest) : Text.Stops isDigit rest := by
  intro b head
  have apart := ends b head
  simp only [continuesNumber, Bool.or_eq_false_iff] at apart
  exact apart.1.1.1

theorem stops_exponent (exponent : IsExponent text) (ends : Ends rest) :
    Text.Stops isDigit (text ++ rest) := by
  cases exponent with
  | none => exact ends.stops
  | digits mark _ _ _ =>
      rintro b ⟨⟩
      rcases mark with rfl | rfl <;> rfl

theorem isFraction_of_digits (nonempty : digits = [] → False) (all : AllDigits digits) :
    IsFraction (0x2E :: digits) := by
  cases digits with
  | nil => exact absurd rfl nonempty
  | cons b digits =>
      exact .digits (all b List.mem_cons_self) fun c member => all c (List.mem_cons_of_mem b member)

theorem allDigits_cons (digit : isDigit b = true) (all : AllDigits digits) :
    AllDigits (b :: digits) := by
  intro c member
  rcases List.mem_cons.mp member with rfl | later
  · exact digit
  · exact all c later

theorem readSign_of_isDigit (digit : isDigit b = true) (bytes : Bytes) :
    readSign (b :: bytes) = (false, b :: bytes) := by
  unfold readSign
  split
  · rename_i same
    cases same
    exact absurd digit (by decide)
  · rename_i same
    cases same
    exact absurd digit (by decide)
  · rfl

theorem exists_sign (bytes : Bytes) :
    ∃ sign, (sign = [] ∨ sign = [0x2B] ∨ sign = [0x2D]) ∧ bytes = sign ++ (readSign bytes).2 := by
  unfold readSign
  split
  · exact ⟨[0x2B], .inr (.inl rfl), rfl⟩
  · exact ⟨[0x2D], .inr (.inr rfl), rfl⟩
  · exact ⟨[], .inl rfl, rfl⟩

/-! Skipping takes the texts of the grammar -/

theorem skipExponent_digits (sign : text = [] ∨ text = [0x2B] ∨ text = [0x2D])
    (digit : isDigit b = true) (all : AllDigits digits) (ends : Text.Stops isDigit rest) :
    skipExponent (text ++ b :: digits ++ rest) = .ok rest := by
  have signed : (readSign (text ++ b :: digits ++ rest)).2 = b :: (digits ++ rest) := by
    rcases sign with rfl | rfl | rfl
    · rw [List.nil_append, List.cons_append, readSign_of_isDigit digit]
    · rfl
    · rfl
  rw [skipExponent, signed]
  simp only [digit, if_true, Text.dropWhile_run all ends]

theorem skipAfterInteger_of_isExponent (exponent : IsExponent text) (ends : Ends rest) :
    skipAfterInteger (text ++ rest) = .ok rest := by
  cases exponent with
  | none =>
      rw [List.nil_append]
      unfold skipAfterInteger
      split
      · exact absurd (ends _ rfl) (by decide)
      · exact absurd (ends _ rfl) (by decide)
      · exact absurd (ends _ rfl) (by decide)
      · rfl
  | digits mark sign digit all =>
      have skipped := skipExponent_digits sign digit all ends.stops
      rcases mark with rfl | rfl
      · exact skipped
      · exact skipped

theorem skipAfterInteger_of_isFraction (fraction : IsFraction text)
    (exponent : IsExponent text') (ends : Ends rest) :
    skipAfterInteger (text ++ (text' ++ rest)) = .ok rest := by
  cases fraction with
  | none => exact skipAfterInteger_of_isExponent exponent ends
  | @digits b digits digit all =>
      have span := Text.span_run (allDigits_cons digit all) (stops_exponent exponent ends)
      change skipFraction (b :: digits ++ (text' ++ rest)) = _
      rw [skipFraction, span]
      cases exponent with
      | none =>
          rw [List.nil_append]
          split
          · rename_i same; cases same
          · rename_i same; cases same; exact absurd (ends _ rfl) (by decide)
          · rename_i same; cases same; exact absurd (ends _ rfl) (by decide)
          · rename_i same; cases same; rfl
      | digits mark sign digit all =>
          have skipped := skipExponent_digits sign digit all ends.stops
          rcases mark with rfl | rfl
          · exact skipped
          · exact skipped

theorem skipNumber_of_isSize (size : IsSize text) (ends : Ends rest) :
    skipNumber (text ++ rest) = .ok rest := by
  obtain ⟨whole, fraction, exponent, isWhole, isFraction, isExponent, rfl⟩ := size
  have after := skipAfterInteger_of_isFraction isFraction isExponent ends
  have behind : Text.Stops isDigit (fraction ++ (exponent ++ rest)) := by
    cases isFraction with
    | none =>
        rw [List.nil_append]
        exact stops_exponent isExponent ends
    | digits _ _ =>
        rintro b ⟨⟩
        rfl
  rw [List.append_assoc, List.append_assoc]
  cases isWhole with
  | zero =>
      rw [List.singleton_append]
      cases same : fraction ++ (exponent ++ rest) with
      | nil =>
          rw [same] at after
          exact after
      | cons b bytes =>
          rw [same] at behind after
          exact (if_neg (ne_true_of_eq_false (behind b rfl))).trans after
  | digits digit notZero all =>
      rw [List.cons_append, skipNumber]
      · rw [if_pos digit, Text.dropWhile_run all behind]
        exact after
      · exact fun zero => absurd zero notZero

/-! Nothing else is skipped as a number -/

theorem isExponent_of_skipExponent (mark : b = 0x65 ∨ b = 0x45) {bytes rest : Bytes}
    (skipped : skipExponent bytes = .ok rest) :
    ∃ text, IsExponent (b :: text) ∧ bytes = text ++ rest := by
  obtain ⟨sign, isSign, same⟩ := exists_sign bytes
  unfold skipExponent at skipped
  split at skipped
  · cases skipped
  · rename_i d more signed
    split at skipped
    · rename_i digit
      cases skipped
      obtain ⟨digits, all, split⟩ := Text.exists_run isDigit more
      refine ⟨sign ++ d :: digits, .digits mark isSign digit all, ?_⟩
      rw [same, signed, List.append_assoc, List.cons_append, ← split]
    · cases skipped

theorem isExponent_of_skipFraction {bytes rest : Bytes} (skipped : skipFraction bytes = .ok rest) :
    ∃ digits exponent, IsFraction (0x2E :: digits) ∧ IsExponent exponent ∧
      bytes = digits ++ (exponent ++ rest) := by
  unfold skipFraction at skipped
  split at skipped
  · cases skipped
  · rename_i digits more nonempty span
    obtain ⟨all, same⟩ := Text.run_of_span span
    obtain ⟨exponent, isExponent, rfl⟩ := isExponent_of_skipExponent (.inl rfl) skipped
    exact ⟨digits, _, isFraction_of_digits nonempty all, isExponent, same⟩
  · rename_i digits more nonempty span
    obtain ⟨all, same⟩ := Text.run_of_span span
    obtain ⟨exponent, isExponent, rfl⟩ := isExponent_of_skipExponent (.inr rfl) skipped
    exact ⟨digits, _, isFraction_of_digits nonempty all, isExponent, same⟩
  · rename_i digits more nonempty _ _ span
    obtain ⟨all, same⟩ := Text.run_of_span span
    cases skipped
    exact ⟨digits, [], isFraction_of_digits nonempty all, .none, same⟩

theorem isFraction_of_skipAfterInteger {bytes rest : Bytes}
    (skipped : skipAfterInteger bytes = .ok rest) :
    ∃ fraction exponent, IsFraction fraction ∧ IsExponent exponent ∧
      bytes = fraction ++ (exponent ++ rest) := by
  unfold skipAfterInteger at skipped
  split at skipped
  · obtain ⟨digits, exponent, isFraction, isExponent, rfl⟩ := isExponent_of_skipFraction skipped
    exact ⟨_, exponent, isFraction, isExponent, rfl⟩
  · obtain ⟨exponent, isExponent, rfl⟩ := isExponent_of_skipExponent (.inl rfl) skipped
    exact ⟨[], _, .none, isExponent, rfl⟩
  · obtain ⟨exponent, isExponent, rfl⟩ := isExponent_of_skipExponent (.inr rfl) skipped
    exact ⟨[], _, .none, isExponent, rfl⟩
  · cases skipped
    exact ⟨[], [], .none, .none, rfl⟩

theorem isSize_of_skipNumber {bytes rest : Bytes} (skipped : skipNumber bytes = .ok rest) :
    ∃ text, IsSize text ∧ bytes = text ++ rest := by
  unfold skipNumber at skipped
  split at skipped
  · cases skipped
  · split at skipped
    · cases skipped
      exact ⟨[0x30], ⟨[0x30], [], [], .zero, .none, .none, rfl⟩, rfl⟩
    · split at skipped
      · cases skipped
      · obtain ⟨fraction, exponent, isFraction, isExponent, same⟩ :=
          isFraction_of_skipAfterInteger skipped
        refine ⟨_, ⟨[0x30], fraction, exponent, .zero, isFraction, isExponent, rfl⟩, ?_⟩
        rw [same, List.append_assoc, List.append_assoc]
        rfl
  · rename_i b more notZero
    split at skipped
    · rename_i digit
      obtain ⟨fraction, exponent, isFraction, isExponent, same⟩ :=
        isFraction_of_skipAfterInteger skipped
      obtain ⟨digits, all, split⟩ := Text.exists_run isDigit more
      have isWhole : IsWhole (b :: digits) := .digits digit (fun zero => notZero zero) all
      refine ⟨_, ⟨_, fraction, exponent, isWhole, isFraction, isExponent, rfl⟩, ?_⟩
      rw [List.append_assoc, List.append_assoc, ← same, List.cons_append, ← split]
    · cases skipped

/-! A number that is read could have been skipped -/

theorem dropWhile_readExponentDigits (read : Nat) (bytes : Bytes) :
    (readExponentDigits read bytes).2.dropWhile isDigit = bytes.dropWhile isDigit := by
  fun_induction readExponentDigits read bytes with
  | case1 read => rfl
  | case2 read b more digit next small ih => rw [List.dropWhile_cons_of_pos digit, ih]
  | case3 read b more digit next large => rw [List.dropWhile_cons_of_pos digit]
  | case4 read b more notDigit => rfl

theorem eq_dropWhile_of_readExponentDigits {read e : Nat} {bytes rest : Bytes}
    (all : readExponentDigits read bytes = (some e, rest)) : rest = bytes.dropWhile isDigit := by
  fun_induction readExponentDigits read bytes with
  | case1 read =>
      cases all
      rfl
  | case2 read b more digit next small ih => rw [List.dropWhile_cons_of_pos digit, ih all]
  | case3 read b more digit next large => cases all
  | case4 read b more notDigit =>
      cases all
      rw [List.dropWhile_cons_of_neg notDigit]

theorem rest_of_floatOf (read : floatOf negative significand exponent rest = .ok (n, rest')) :
    rest' = rest := by
  unfold floatOf at read
  split at read
  · cases read
    rfl
  · cases read

theorem rest_of_integerOf (read : integerOf negative significand rest = .ok (n, rest')) :
    rest' = rest := by
  unfold integerOf at read
  split at read
  · cases read
    rfl
  · split at read
    · cases read
      rfl
    · exact rest_of_floatOf read

theorem skipExponent_of_readExponent
    (read : readExponent negative significand exponent bytes = .ok (n, rest)) :
    skipExponent bytes = .ok rest := by
  unfold readExponent at read
  unfold skipExponent
  split at read
  · cases read
  · rename_i down b more signed
    rw [signed]
    simp only
    split at read
    · rename_i digit
      rw [if_pos digit]
      have dropped : (b :: more).dropWhile isDigit = more.dropWhile isDigit :=
        List.dropWhile_cons_of_pos digit
      split at read
      · rename_i e behind all
        rw [rest_of_floatOf read, eq_dropWhile_of_readExponentDigits all, dropped]
      · rename_i behind all
        have same := dropWhile_readExponentDigits 0 (b :: more)
        rw [all, dropped] at same
        split at read
        · cases read
        · cases read
          rw [← same]
    · cases read

theorem skipFraction_of_readFraction
    (read : readFraction negative significand exponent bytes = .ok (n, rest)) :
    skipFraction bytes = .ok rest := by
  unfold readFraction at read
  unfold skipFraction
  split at read
  · cases read
  · cases read
  · rename_i digits behind _ nonempty span
    obtain ⟨b, digits, rfl⟩ := List.exists_cons_of_ne_nil nonempty
    rw [span]
    simp only at read
    split at read
    · exact skipExponent_of_readExponent read
    · exact skipExponent_of_readExponent read
    · rename_i notSmall notLarge
      rw [rest_of_floatOf read]
      split
      · rename_i same
        cases same
      · rename_i same
        cases same
        exact absurd rfl (notSmall _)
      · rename_i same
        cases same
        exact absurd rfl (notLarge _)
      · rename_i same
        cases same
        rfl

theorem skipAfterInteger_of_readAfterInteger
    (read : readAfterInteger negative significand dropped bytes = .ok (n, rest)) :
    skipAfterInteger bytes = .ok rest := by
  unfold readAfterInteger at read
  split at read
  · exact skipFraction_of_readFraction read
  · exact skipExponent_of_readExponent read
  · exact skipExponent_of_readExponent read
  · rename_i notFraction notSmall notLarge
    have same : rest = bytes := by
      split at read
      · exact rest_of_integerOf read
      · exact rest_of_floatOf read
    unfold skipAfterInteger
    split
    · exact absurd rfl (notFraction _)
    · exact absurd rfl (notSmall _)
    · exact absurd rfl (notLarge _)
    · rw [same]

theorem skipNumber_of_readNumber (read : readNumber negative bytes = .ok (n, rest)) :
    skipNumber bytes = .ok rest := by
  cases bytes with
  | nil => cases read
  | cons b more =>
      by_cases zero : b = 0x30
      · subst zero
        cases more with
        | nil =>
            have after : readAfterInteger negative 0 0 [] = .ok (n, rest) := read
            exact skipAfterInteger_of_readAfterInteger after
        | cons c after =>
            by_cases digit : isDigit c = true
            · cases (if_pos digit).symm.trans read
            · have behind : readAfterInteger negative 0 0 (c :: after) = .ok (n, rest) :=
                (if_neg digit).symm.trans read
              exact (if_neg digit).trans (skipAfterInteger_of_readAfterInteger behind)
      · by_cases digit : isDigit b = true
        · rw [readNumber, if_pos digit] at read
          · rw [skipNumber, if_pos digit]
            · simp only [List.span_eq_takeWhile_dropWhile] at read
              rw [List.dropWhile_cons_of_pos digit] at read
              exact skipAfterInteger_of_readAfterInteger read
            · exact zero
          · exact zero
        · rw [readNumber, if_neg digit] at read
          · cases read
          · exact zero

theorem isNumber_of_readNegative (read : readNumber true bytes = .ok (n, rest)) :
    ∃ text, IsNumber text ∧ 0x2D :: bytes = text ++ rest := by
  obtain ⟨text, size, rfl⟩ := isSize_of_skipNumber (skipNumber_of_readNumber read)
  exact ⟨_, .negative size, rfl⟩

theorem isNumber_of_readPositive (read : readNumber false bytes = .ok (n, rest)) :
    ∃ text, IsNumber text ∧ bytes = text ++ rest := by
  obtain ⟨text, size, same⟩ := isSize_of_skipNumber (skipNumber_of_readNumber read)
  exact ⟨text, .positive size, same⟩

end Heartbeat.Json
