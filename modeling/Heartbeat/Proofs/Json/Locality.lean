import Heartbeat.Proofs.Json.Compact
import Heartbeat.Proofs.Json.Printing
import Heartbeat.Proofs.Json.Reading

/-!
What is made of a number or a string depends on its own text only, and not on what follows it. The
same is asked of the readers of values, which skip the blanks before them as well.
-/

namespace Heartbeat.Json

/-- A result is what was made of a text, with this left over; or nothing was made of it. -/
def Comes (made : Option α) (rest : Bytes) (result : Result α) : Prop :=
  match made with
  | some value => result = .ok (value, rest)
  | none => ∃ fault, result = .error fault

theorem Comes.ok (value : α) (rest : Bytes) : Comes (some value) rest (.ok (value, rest)) :=
  rfl

theorem Comes.error (fault : Fault) (rest : Bytes) :
    Comes (none : Option α) rest (.error fault) :=
  ⟨fault, rfl⟩

theorem Comes.map {made : Option α} {result : Result α} (comes : Comes made rest result)
    (f : α → β) : Comes (made.map f) rest (result.map fun (value, rest) => (f value, rest)) := by
  cases made with
  | none =>
      obtain ⟨fault, rfl⟩ := comes
      exact .error fault rest
  | some value =>
      cases comes
      exact .ok (f value) rest

theorem Comes.cases {made : Option α} {result : Result α} (comes : Comes made rest result) :
    (made = none ∧ ∃ fault, result = .error fault) ∨
      ∃ value, made = some value ∧ result = .ok (value, rest) := by
  cases made with
  | none => exact .inl ⟨rfl, comes⟩
  | some value => exact .inr ⟨value, rfl, comes⟩

/-- What is made of one text after another. -/
theorem Comes.bind {made : Option α} {result : Except Fault (α × Bytes)} {next : α → Option β}
    {more : α × Bytes → Except Fault (β × Bytes)} (comes : Comes made behind result)
    (others : ∀ value, Comes (next value) rest (more (value, behind))) :
    Comes (made >>= next) rest (result >>= more : Except Fault (β × Bytes)) := by
  obtain ⟨rfl, fault, rfl⟩ | ⟨value, rfl, rfl⟩ := comes.cases
  · exact .error fault rest
  · exact others value

/-! Numbers -/

/-- A scanner that makes the same of all texts that begin with this one. -/
def Local (scan : Bytes → Result α) (text : Bytes) : Prop :=
  ∃ made : Option α, ∀ rest, Ends rest → Comes made rest (scan (text ++ rest))

section

variable (negative : Bool) (significand : Nat)

theorem comes_floatOf (exponent : Int) :
    ∃ made, ∀ rest, Comes made rest (floatOf negative significand exponent rest) := by
  unfold floatOf
  cases Decimal.Binary64.ofNat? significand >>= (scaleBy? · exponent) with
  | none => exact ⟨none, fun rest => .error _ rest⟩
  | some size => exact ⟨some (.float negative size), fun rest => .ok _ rest⟩

theorem comes_integerOf :
    ∃ made, ∀ rest, Comes made rest (integerOf negative significand rest) := by
  unfold integerOf
  split
  · exact ⟨_, fun rest => .ok _ rest⟩
  · split
    · exact ⟨_, fun rest => .ok _ rest⟩
    · exact comes_floatOf ..

theorem readSign_digits (sign : text = [] ∨ text = [0x2B] ∨ text = [0x2D])
    (digit : isDigit b = true) :
    ∃ down, ∀ more, readSign (text ++ b :: more) = (down, b :: more) := by
  rcases sign with rfl | rfl | rfl
  · exact ⟨false, readSign_of_isDigit digit⟩
  · exact ⟨false, fun _ => rfl⟩
  · exact ⟨true, fun _ => rfl⟩

/-- The digits of an exponent are all taken, or there is one too many. -/
theorem readExponentDigits_run (all : AllDigits digits) (read : Nat) :
    (∃ e, ∀ rest, Text.Stops isDigit rest →
        readExponentDigits read (digits ++ rest) = (some e, rest)) ∨
      ∃ left, AllDigits left ∧
        ∀ rest, readExponentDigits read (digits ++ rest) = (none, left ++ rest) := by
  induction digits generalizing read with
  | nil =>
      refine .inl ⟨read, fun rest stops => ?_⟩
      cases rest with
      | nil => rfl
      | cons b rest => exact if_neg (ne_true_of_eq_false (stops b rfl))
  | cons b digits ih =>
      have digit := all b List.mem_cons_self
      have others : AllDigits digits := fun c member => all c (List.mem_cons_of_mem _ member)
      simp only [List.cons_append, readExponentDigits, digit, if_true]
      by_cases small : read * 10 + digitValue b ≤ 2147483647
      · simp only [if_pos small]
        exact ih others _
      · simp only [if_neg small]
        exact .inr ⟨digits, others, fun _ => rfl⟩

theorem local_readExponent (exponent : Int) (sign : text = [] ∨ text = [0x2B] ∨ text = [0x2D])
    (digit : isDigit b = true) (all : AllDigits digits) :
    Local (readExponent negative significand exponent) (text ++ b :: digits) := by
  obtain ⟨down, signed⟩ := readSign_digits sign digit
  have opened : ∀ rest, readSign (text ++ b :: digits ++ rest) = (down, b :: (digits ++ rest)) := by
    intro rest
    rw [List.append_assoc, List.cons_append]
    exact signed _
  obtain ⟨e, taken⟩ | ⟨left, others, taken⟩ := readExponentDigits_run (allDigits_cons digit all) 0
  · obtain ⟨made, comes⟩ := comes_floatOf negative significand
      (if down then exponent - e else exponent + e)
    refine ⟨made, fun rest ends => ?_⟩
    have digits := taken rest ends.stops
    rw [List.cons_append] at digits
    simp only [readExponent, opened, digit, if_true, digits]
    exact comes rest
  · by_cases large : significand ≠ 0 ∧ ¬ down
    · refine ⟨none, fun rest ends => ?_⟩
      have digits := taken rest
      rw [List.cons_append] at digits
      simp only [readExponent, opened, digit, if_true, digits, if_pos large]
      exact .error _ rest
    · refine ⟨some (.float negative .zero), fun rest ends => ?_⟩
      have digits := taken rest
      rw [List.cons_append] at digits
      simp only [readExponent, opened, digit, if_true, digits, if_neg large,
        Text.dropWhile_run others ends.stops]
      exact .ok _ rest

theorem local_readFraction (exponent : Int) (digit : isDigit b = true) (all : AllDigits digits)
    (isExponent : IsExponent text) :
    Local (readFraction negative significand exponent) (b :: digits ++ text) := by
  have span : ∀ rest, Ends rest →
      (b :: digits ++ text ++ rest).span isDigit = (b :: digits, text ++ rest) := by
    intro rest ends
    rw [List.append_assoc]
    exact Text.span_run (allDigits_cons digit all) (stops_exponent isExponent ends)
  unfold readFraction
  cases isExponent with
  | none =>
      obtain ⟨made, comes⟩ := comes_floatOf negative (absorb significand (b :: digits)).1
        (exponent - ((b :: digits).length - (absorb significand (b :: digits)).2 : Nat))
      refine ⟨made, fun rest ends => ?_⟩
      simp only [span rest ends, List.nil_append]
      split
      · exact absurd (ends _ rfl) (by decide)
      · exact absurd (ends _ rfl) (by decide)
      · exact comes rest
  | digits mark sign digit' all' =>
      obtain ⟨made, comes⟩ := local_readExponent negative (absorb significand (b :: digits)).1
        (exponent - ((b :: digits).length - (absorb significand (b :: digits)).2 : Nat))
        sign digit' all'
      refine ⟨made, fun rest ends => ?_⟩
      simp only [span rest ends]
      rcases mark with rfl | rfl
      · exact comes rest ends
      · exact comes rest ends

theorem local_readAfterInteger (dropped : Nat) (fraction : IsFraction text)
    (exponent : IsExponent text') :
    Local (readAfterInteger negative significand dropped) (text ++ text') := by
  cases fraction with
  | digits digit all => exact local_readFraction negative significand dropped digit all exponent
  | none =>
      cases exponent with
      | digits mark sign digit all =>
          rcases mark with rfl | rfl
          · exact local_readExponent negative significand dropped sign digit all
          · exact local_readExponent negative significand dropped sign digit all
      | none =>
          have plain : ∃ made : Option Number, ∀ rest, Comes made rest
              (if dropped = 0 then integerOf negative significand rest
                else floatOf negative significand dropped rest) := by
            split
            · exact comes_integerOf negative significand
            · exact comes_floatOf negative significand dropped
          obtain ⟨made, comes⟩ := plain
          refine ⟨made, fun rest ends => ?_⟩
          rw [List.nil_append, List.nil_append]
          unfold readAfterInteger
          split
          · exact absurd (ends _ rfl) (by decide)
          · exact absurd (ends _ rfl) (by decide)
          · exact absurd (ends _ rfl) (by decide)
          · exact comes rest

end

theorem local_readNumber (negative : Bool) (size : IsSize text) :
    Local (readNumber negative) text := by
  obtain ⟨whole, fraction, exponent, isWhole, isFraction, isExponent, rfl⟩ := size
  have behind : ∀ rest, Ends rest → Text.Stops isDigit (fraction ++ exponent ++ rest) := by
    intro rest ends
    cases isFraction with
    | none => exact stops_exponent isExponent ends
    | digits _ _ =>
        rintro b ⟨⟩
        rfl
  cases isWhole with
  | zero =>
      obtain ⟨made, comes⟩ := local_readAfterInteger negative 0 0 isFraction isExponent
      refine ⟨made, fun rest ends => ?_⟩
      have after := comes rest ends
      have stops := behind rest ends
      rw [List.append_assoc, List.singleton_append]
      cases same : fraction ++ exponent ++ rest with
      | nil =>
          rw [same] at after
          exact after
      | cons b more =>
          rw [same] at after stops
          have read : readNumber negative (0x30 :: b :: more) =
              readAfterInteger negative 0 0 (b :: more) :=
            if_neg (ne_true_of_eq_false (stops b rfl))
          rw [read]
          exact after
  | @digits b digits digit notZero all =>
      obtain ⟨made, comes⟩ := local_readAfterInteger negative (absorb 0 (b :: digits)).1
        (absorb 0 (b :: digits)).2 isFraction isExponent
      refine ⟨made, fun rest ends => ?_⟩
      have span := Text.span_run (allDigits_cons digit all) (behind rest ends)
      have read := readNumber_of_digits digit notZero span rfl negative
      rw [List.append_assoc]
      exact read.symm ▸ comes rest ends

/-! Strings -/

/-- What a string known, if it says anything. -/
def said? (text : Bytes) : Option String :=
  match readString text.tail with
  | .ok (said, _) => some said
  | .error _ => none

theorem Writes.said? (writes : Writes said text) : said? text = some said := by
  obtain ⟨body, spells, rfl⟩ := writes
  rw [Json.said?, List.cons_append, List.tail_cons, readString_of_spells spells]

theorem writes_of_said? (string : IsString text) (known : said? text = some said) :
    Writes said text := by
  obtain ⟨body, isBody, rfl⟩ := string
  rw [said?, List.cons_append, List.tail_cons] at known
  split at known
  · rename_i rest read
    cases known
    obtain ⟨text', writes, same⟩ := writes_of_readString read
    obtain ⟨rfl, -⟩ := eq_of_isString_append ⟨body, isBody, rfl⟩ writes.isString
      ((List.append_nil _).trans same)
    exact writes
  · cases known

theorem comes_readString (string : IsString text) (rest : Bytes) :
    Comes (said? text) rest (readString (text.tail ++ rest)) := by
  cases known : said? text with
  | some said =>
      obtain ⟨body, spells, rfl⟩ := writes_of_said? string known
      rw [List.cons_append, List.tail_cons, List.append_assoc]
      exact readString_of_spells spells rest
  | none =>
      cases read : readString (text.tail ++ rest) with
      | error fault => exact .error fault rest
      | ok got =>
          obtain ⟨said, rest'⟩ := got
          obtain ⟨text', writes, same⟩ := writes_of_readString read
          obtain ⟨body, isBody, rfl⟩ := string
          obtain ⟨rfl, -⟩ := eq_of_isString_append ⟨body, isBody, rfl⟩ writes.isString same
          rw [writes.said?] at known
          cases known

/-! Readers of values -/

/-- What a reader makes of the text of a value, wherever it stands. -/
def Makes (read : Nat → Bytes → Result α) (text : Bytes) (made : Option α) : Prop :=
  ∀ fuel gap rest, IsBlank gap → Ends rest → (gap ++ (text ++ rest)).length < fuel →
    Comes made rest (read fuel (gap ++ (text ++ rest)))

/-- What a reader makes of a text that stands alone. -/
def alone (read : Nat → Bytes → Result α) (text : Bytes) : Option α :=
  match read (text.length + 1) text with
  | .ok (value, _) => some value
  | .error _ => none

/-- A reader makes the same of a value, wherever it stands, and of its compact text. -/
structure Settles (read : Nat → Bytes → Result α) (text : Bytes) : Prop where
  makes : Makes read text (alone read text)
  tight : Makes read (compact text) (alone read text)

section

variable {read : Nat → Bytes → Result α} {made : Option α}

theorem Makes.alone_eq (makes : Makes read text made) : alone read text = made := by
  have comes := makes (text.length + 1) [] [] isBlank_nil nofun (by
    rw [List.nil_append, List.append_nil]
    exact Nat.lt_succ_self _)
  rw [List.nil_append, List.append_nil] at comes
  unfold alone
  cases made with
  | none =>
      obtain ⟨fault, failed⟩ := comes
      rw [failed]
  | some value => rw [show read (text.length + 1) text = .ok (value, []) from comes]

theorem Makes.settles (makes : Makes read text made) (makes' : Makes read (compact text) made) :
    Settles read text := by
  refine ⟨?_, ?_⟩
  · rw [makes.alone_eq]
    exact makes
  · rw [makes.alone_eq]
    exact makes'

theorem Settles.alone_compact (settles : Settles read text) :
    alone read (compact text) = alone read text :=
  settles.tight.alone_eq

end

end Heartbeat.Json
