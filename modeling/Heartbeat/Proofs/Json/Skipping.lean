import Heartbeat.Proofs.Json.Numbers
import Heartbeat.Proofs.Json.Strings

/-!
Values that are skipped are the values of the grammar. The reader keeps a stack of open brackets;
what that stack still wants of a text is `Closes`.
-/

namespace Heartbeat.Json

/-! Where a value begins and what may follow it -/

/-- A byte that a value can begin with. -/
def startsValue (b : UInt8) : Bool :=
  b == 0x6E || b == 0x74 || b == 0x66 || b == 0x22 || b == 0x2D || b == 0x5B || b == 0x7B ||
    isDigit b

theorem startsValue_of_isDigit (digit : isDigit b = true) : startsValue b = true := by
  rw [startsValue, digit, Bool.or_true]

theorem solid_of_startsValue {b : UInt8} (starts : startsValue b = true) : isSpace b = false := by
  refine Bool.eq_false_iff.mpr fun space => ?_
  simp only [isSpace, Bool.or_eq_true, beq_iff_eq] at space
  rcases space with ((rfl | rfl) | rfl) | rfl
  all_goals exact absurd starts (by decide)

theorem IsSize.starts (size : IsSize text) :
    ∃ b more, text = b :: more ∧ isDigit b = true := by
  obtain ⟨whole, fraction, exponent, isWhole, -, -, rfl⟩ := size
  cases isWhole with
  | zero => exact ⟨0x30, _, rfl, rfl⟩
  | digits digit _ _ => exact ⟨_, _, rfl, digit⟩

theorem Derives.starts (derives : Derives .value text) :
    ∃ b more, text = b :: more ∧ startsValue b = true := by
  cases derives with
  | null => exact ⟨_, _, rfl, rfl⟩
  | yes => exact ⟨_, _, rfl, rfl⟩
  | no => exact ⟨_, _, rfl, rfl⟩
  | number number =>
      cases number with
      | positive size =>
          obtain ⟨b, more, rfl, digit⟩ := size.starts
          exact ⟨b, more, rfl, startsValue_of_isDigit digit⟩
      | negative size => exact ⟨_, _, rfl, rfl⟩
  | string string =>
      obtain ⟨body, -, rfl⟩ := string
      exact ⟨_, _, rfl, rfl⟩
  | emptyList _ => exact ⟨_, _, rfl, rfl⟩
  | list _ => exact ⟨_, _, rfl, rfl⟩
  | emptyObject _ => exact ⟨_, _, rfl, rfl⟩
  | object _ => exact ⟨_, _, rfl, rfl⟩

theorem ends_cons (apart : continuesNumber b = false) (rest : Bytes) : Ends (b :: rest) := by
  rintro c ⟨⟩
  exact apart

theorem ends_gap (blank : IsBlank gap) (ends : Ends rest) : Ends (gap ++ rest) := by
  cases gap with
  | nil => exact ends
  | cons b gap =>
      refine ends_cons ?_ _
      have space := blank b List.mem_cons_self
      simp only [isSpace, Bool.or_eq_true, beq_iff_eq] at space
      rcases space with ((rfl | rfl) | rfl) | rfl
      all_goals rfl

theorem IsNumber.head?_ne (number : IsNumber text) (notDigit : isDigit b = false)
    (notMinus : b ≠ 0x2D) : text.head? ≠ some b := by
  cases number with
  | positive size =>
      obtain ⟨c, more, rfl, digit⟩ := size.starts
      rintro ⟨⟩
      exact absurd (digit.symm.trans notDigit) (by decide)
  | negative size =>
      rintro ⟨⟩
      exact notMinus rfl

theorem IsString.head?_ne (string : IsString text) (notQuote : b ≠ 0x22) :
    text.head? ≠ some b := by
  obtain ⟨body, -, rfl⟩ := string
  rintro ⟨⟩
  exact notQuote rfl

theorem Derives.elements_start (derives : Derives (.elements texts) text) :
    ∃ gap b more, IsBlank gap ∧ startsValue b = true ∧ text = gap ++ b :: more := by
  have atElement : ∀ {value part}, Derives (.element value) part →
      ∃ gap b more, IsBlank gap ∧ startsValue b = true ∧ part = gap ++ b :: more := by
    intro value part element
    cases element with
    | element blank derives _ =>
        obtain ⟨b, more, rfl, starts⟩ := derives.starts
        exact ⟨_, b, _, blank, starts, rfl⟩
  cases derives with
  | lastElement element => exact atElement element
  | moreElements element _ =>
      obtain ⟨gap, b, more, blank, starts, rfl⟩ := atElement element
      exact ⟨gap, b, _, blank, starts, List.append_assoc ..⟩

theorem Derives.members_start (derives : Derives (.members pairs) text) :
    ∃ gap more, IsBlank gap ∧ text = gap ++ 0x22 :: more := by
  have atMember : ∀ {name value part}, Derives (.member name value) part →
      ∃ gap more, IsBlank gap ∧ part = gap ++ 0x22 :: more := by
    intro name value part member
    cases member with
    | member blank string _ _ =>
        obtain ⟨body, -, rfl⟩ := string
        exact ⟨_, _, blank, rfl⟩
  cases derives with
  | lastMember member => exact atMember member
  | moreMembers member _ =>
      obtain ⟨gap, more, blank, rfl⟩ := atMember member
      exact ⟨gap, _, blank, List.append_assoc ..⟩

theorem skipSpace_of_derives (derives : Derives .value text) (rest : Bytes) :
    skipSpace (text ++ rest) = text ++ rest := by
  obtain ⟨b, more, rfl, starts⟩ := derives.starts
  exact skipSpace_cons (solid_of_startsValue starts) _

/-! Scalars -/

theorem expectWord_append (word rest : Bytes) : expectWord word (word ++ rest) = .ok rest := by
  induction word with
  | nil => rfl
  | cons b word ih => rw [List.cons_append, expectWord, if_pos rfl, ih]

theorem eq_of_expectWord {word bytes rest : Bytes} (taken : expectWord word bytes = .ok rest) :
    bytes = word ++ rest := by
  fun_induction expectWord word bytes with
  | case1 bytes =>
      cases taken
      rfl
  | case2 b word => cases taken
  | case3 word b bytes ih => rw [ih taken, List.cons_append]
  | case4 b word c bytes differs => cases taken

theorem skipScalar_of_isDigit (digit : isDigit b = true) (bytes : Bytes) :
    skipScalar (b :: bytes) = skipNumber (b :: bytes) := by
  unfold skipScalar
  split
  case h_7 same =>
      cases same
      rw [if_pos digit]
  case h_1 same => cases same
  all_goals
    rename_i same
    cases same
    exact absurd digit (by decide)

theorem skipScalar_of_isNumber (number : IsNumber text) (ends : Ends rest) :
    skipScalar (text ++ rest) = .ok rest := by
  cases number with
  | positive size =>
      have skipped := skipNumber_of_isSize size ends
      obtain ⟨b, more, rfl, digit⟩ := size.starts
      rw [List.cons_append, skipScalar_of_isDigit digit]
      exact skipped
  | negative size => exact skipNumber_of_isSize size ends

theorem skipScalar_of_isString (string : IsString text) (rest : Bytes) :
    skipScalar (text ++ rest) = .ok rest := by
  obtain ⟨body, isBody, rfl⟩ := string
  have skipped := skipString_of_isBody isBody rest
  rw [quoted_append]
  exact skipped

theorem derives_of_skipScalar {bytes rest : Bytes} (skipped : skipScalar bytes = .ok rest) :
    ∃ text, Derives .value text ∧ bytes = text ++ rest := by
  unfold skipScalar at skipped
  split at skipped
  · cases skipped
  · rw [eq_of_expectWord skipped]
    exact ⟨_, .null, rfl⟩
  · rw [eq_of_expectWord skipped]
    exact ⟨_, .yes, rfl⟩
  · rw [eq_of_expectWord skipped]
    exact ⟨_, .no, rfl⟩
  · obtain ⟨text, body, rfl⟩ := isBody_of_skipString skipped
    exact ⟨_, .string ⟨text, body, rfl⟩, (quoted_append text rest).symm⟩
  · obtain ⟨text, size, rfl⟩ := isSize_of_skipNumber skipped
    exact ⟨_, .number (.negative size), rfl⟩
  · split at skipped
    · obtain ⟨text, size, same⟩ := isSize_of_skipNumber skipped
      exact ⟨text, .number (.positive size), same⟩
    · cases skipped

/-! Names -/

theorem skipColon_gap (blank : IsBlank gap) (bytes : Bytes) :
    skipColon (gap ++ 0x3A :: bytes) = .ok bytes := by
  rw [skipColon, skipSpace_gap blank rfl]
  rfl

theorem colon_of_skipColon {bytes rest : Bytes} (skipped : skipColon bytes = .ok rest) :
    ∃ gap, IsBlank gap ∧ bytes = gap ++ 0x3A :: rest := by
  unfold skipColon at skipped
  split at skipped
  · rename_i more same
    cases skipped
    exact gap_of_skipSpace same
  · cases skipped
  · cases skipped

theorem skipName_of_isString (blank : IsBlank before) (string : IsString name)
    (blank' : IsBlank behind) (rest : Bytes) :
    skipName (before ++ (name ++ (behind ++ 0x3A :: rest))) = .ok rest := by
  obtain ⟨body, isBody, rfl⟩ := string
  rw [quoted_append, skipName, skipSpace_gap blank rfl]
  simp only [skipString_of_isBody isBody, bind, Except.bind, skipColon_gap blank']

theorem isString_of_skipName {bytes rest : Bytes} (skipped : skipName bytes = .ok rest) :
    ∃ before name behind, IsBlank before ∧ IsString name ∧ IsBlank behind ∧
      bytes = before ++ (name ++ (behind ++ 0x3A :: rest)) := by
  unfold skipName at skipped
  split at skipped
  · rename_i more same
    obtain ⟨before, blank, rfl⟩ := gap_of_skipSpace same
    cases taken : skipString more with
    | error fault =>
        rw [taken] at skipped
        cases skipped
    | ok after =>
        rw [taken] at skipped
        obtain ⟨body, isBody, rfl⟩ := isBody_of_skipString taken
        obtain ⟨behind, blank', rfl⟩ := colon_of_skipColon skipped
        refine ⟨before, _, behind, blank, ⟨body, isBody, rfl⟩, blank', ?_⟩
        rw [quoted_append]
  · cases skipped
  · cases skipped

/-! What a stack of brackets wants of a text -/

/-- A text that follows a value and closes all brackets around it. -/
inductive Closes : List Bracket → Bytes → Prop
  | done : Closes [] []
  | endList : IsBlank gap → Closes outer text → Closes (.list :: outer) (gap ++ 0x5D :: text)
  | elements : IsBlank gap → Derives (.elements texts) more → Closes outer text →
      Closes (.list :: outer) (gap ++ 0x2C :: (more ++ 0x5D :: text))
  | endObject : IsBlank gap → Closes outer text → Closes (.object :: outer) (gap ++ 0x7D :: text)
  | members : IsBlank gap → Derives (.members pairs) more → Closes outer text →
      Closes (.object :: outer) (gap ++ 0x2C :: (more ++ 0x7D :: text))

/-- A text that begins with a value and then closes all brackets around it. -/
def Completes (inside : List Bracket) (text : Bytes) : Prop :=
  ∃ before value tail, IsBlank before ∧ Derives .value value ∧ Closes inside tail ∧
    text = before ++ (value ++ tail)

theorem Completes.after_gap (blank : IsBlank gap) (completes : Completes inside text) :
    Completes inside (gap ++ text) := by
  obtain ⟨before, value, tail, blank', derives, closes, rfl⟩ := completes
  refine ⟨gap ++ before, value, tail, blank.append blank', derives, closes, ?_⟩
  rw [List.append_assoc]

theorem Completes.elements (completes : Completes (.list :: outer) text) :
    ∃ texts more tail, Derives (.elements texts) more ∧ Closes outer tail ∧
      text = more ++ 0x5D :: tail := by
  obtain ⟨before, value, tail, blank, derives, closes, rfl⟩ := completes
  cases closes with
  | endList blank' closes =>
      refine ⟨_, _, _, .lastElement (.element blank derives blank'), closes, ?_⟩
      simp only [List.append_assoc]
  | elements blank' more closes =>
      refine ⟨_, _, _, .moreElements (.element blank derives blank') more, closes, ?_⟩
      simp only [List.append_assoc, List.cons_append]

theorem Completes.members (completes : Completes (.object :: outer) text)
    (blank : IsBlank before) (string : IsString name) (blank' : IsBlank behind) :
    ∃ pairs more tail, Derives (.members pairs) more ∧ Closes outer tail ∧
      before ++ (name ++ (behind ++ 0x3A :: text)) = more ++ 0x7D :: tail := by
  obtain ⟨gap, value, tail, blank'', derives, closes, rfl⟩ := completes
  cases closes with
  | endObject last closes =>
      have member := Derives.member blank string blank' (.element blank'' derives last)
      refine ⟨_, _, _, .lastMember member, closes, ?_⟩
      simp only [List.append_assoc, List.cons_append]
  | members last more closes =>
      have member := Derives.member blank string blank' (.element blank'' derives last)
      refine ⟨_, _, _, .moreMembers member more, closes, ?_⟩
      simp only [List.append_assoc, List.cons_append]

/-- What a skip has taken when it stops: all that was wanted, or what comes before a value. -/
def Skipped.Took (wanted : List Bracket → Bytes → Prop) (inside : List Bracket) (bytes : Bytes) :
    Skipped → Prop
  | .whole rest => ∃ text, wanted inside text ∧ bytes = text ++ rest
  | .upToValue inside' rest =>
      ∃ head, head ≠ [] ∧ bytes = head ++ rest ∧
        ∀ text, Completes inside' text → wanted inside (head ++ text)

theorem Skipped.Took.after {skipped : Skipped} {wanted wanted' : List Bracket → Bytes → Prop}
    {inside outer : List Bracket} {bytes : Bytes} (took : skipped.Took wanted inside bytes)
    (head : Bytes) (goesOn : ∀ text, wanted inside text → wanted' outer (head ++ text)) :
    skipped.Took wanted' outer (head ++ bytes) := by
  cases skipped with
  | whole rest =>
      obtain ⟨text, done, rfl⟩ := took
      exact ⟨head ++ text, goesOn text done, (List.append_assoc ..).symm⟩
  | upToValue inside' rest =>
      obtain ⟨head', some, rfl, completes⟩ := took
      refine ⟨head ++ head', List.append_ne_nil_of_right_ne_nil _ some,
        (List.append_assoc ..).symm, fun text next => ?_⟩
      rw [List.append_assoc]
      exact goesOn _ (completes text next)

theorem took_of_skipName {wanted : List Bracket → Bytes → Prop} {inside outer : List Bracket}
    {bytes : Bytes} {skipped : Skipped}
    (done : (skipName bytes).map (.upToValue (.object :: inside)) = .ok skipped)
    {head : Bytes}
    (goesOn : ∀ pairs more tail, Derives (.members pairs) more → Closes inside tail →
      wanted outer (head ++ (more ++ 0x7D :: tail))) :
    skipped.Took wanted outer (head ++ bytes) := by
  cases taken : skipName bytes with
  | error fault =>
      rw [taken] at done
      cases done
  | ok rest =>
      rw [taken] at done
      cases done
      obtain ⟨before, name, behind, blank, string, blank', rfl⟩ := isString_of_skipName taken
      refine ⟨head ++ (before ++ (name ++ (behind ++ [0x3A]))), ?_, ?_, fun text completes => ?_⟩
      · simp only [ne_eq, List.append_eq_nil_iff, List.cons_ne_self, and_false, not_false_eq_true]
      · simp only [List.append_assoc, List.singleton_append]
      · obtain ⟨pairs, more, tail, derives, closes, same⟩ :=
          completes.members blank string blank'
        have whole := goesOn pairs more tail derives closes
        rw [← same] at whole
        simpa only [List.append_assoc, List.singleton_append] using whole

theorem took_of_skipAfterValue {inside : List Bracket} {bytes : Bytes} {skipped : Skipped}
    (done : skipAfterValue inside bytes = .ok skipped) : skipped.Took Closes inside bytes := by
  fun_induction skipAfterValue inside bytes with
  | case1 bytes =>
      cases done
      exact ⟨[], .done, rfl⟩
  | case2 outer bytes more same =>
      cases done
      obtain ⟨gap, blank, rfl⟩ := gap_of_skipSpace same
      refine ⟨gap ++ [0x2C], List.append_ne_nil_of_right_ne_nil _ (List.cons_ne_nil _ _),
        List.append_cons .., fun text completes => ?_⟩
      obtain ⟨texts, part, tail, derives, closes, rfl⟩ := completes.elements
      rw [← List.append_cons]
      exact .elements blank derives closes
  | case3 outer bytes more same ih =>
      obtain ⟨gap, blank, rfl⟩ := gap_of_skipSpace same
      rw [List.append_cons]
      refine (ih done).after _ fun text closes => ?_
      rw [← List.append_cons]
      exact .endList blank closes
  | case4 outer bytes same => cases done
  | case5 outer bytes => cases done
  | case6 outer bytes more same =>
      obtain ⟨gap, blank, rfl⟩ := gap_of_skipSpace same
      rw [List.append_cons]
      refine took_of_skipName done fun pairs part tail derives closes => ?_
      rw [← List.append_cons]
      exact .members blank derives closes
  | case7 outer bytes more same ih =>
      obtain ⟨gap, blank, rfl⟩ := gap_of_skipSpace same
      rw [List.append_cons]
      refine (ih done).after _ fun text closes => ?_
      rw [← List.append_cons]
      exact .endObject blank closes
  | case8 outer bytes same => cases done
  | case9 outer bytes => cases done

theorem took_of_value {inside : List Bracket} {before value rest : Bytes} {skipped : Skipped}
    (blank : IsBlank before) (derives : Derives .value value)
    (done : skipAfterValue inside rest = .ok skipped) :
    skipped.Took Completes inside (before ++ (value ++ rest)) := by
  rw [← List.append_assoc]
  refine (took_of_skipAfterValue done).after _ fun text closes => ?_
  rw [List.append_assoc]
  exact ⟨before, value, text, blank, derives, closes, rfl⟩

theorem took_of_skipStep {inside : List Bracket} {bytes : Bytes} {skipped : Skipped}
    (done : skipStep inside bytes = .ok skipped) : skipped.Took Completes inside bytes := by
  unfold skipStep at done
  split at done
  · rename_i more same
    obtain ⟨before, blank, rfl⟩ := gap_of_skipSpace same
    split at done
    · rename_i rest same'
      obtain ⟨gap, blank', rfl⟩ := gap_of_skipSpace same'
      have took := took_of_value blank (.emptyList blank') done
      rw [List.cons_append, List.append_assoc, List.singleton_append] at took
      exact took
    · cases done
    · cases done
      obtain ⟨gap, blank', same'⟩ := exists_gap more
      refine ⟨before ++ 0x5B :: gap, List.append_ne_nil_of_right_ne_nil _ (List.cons_ne_nil _ _),
        ?_, fun text completes => ?_⟩
      · rw [List.append_assoc, List.cons_append, ← same']
      · obtain ⟨texts, part, tail, derives, closes, inner⟩ := (completes.after_gap blank').elements
        refine ⟨before, _, tail, blank, .list derives, closes, ?_⟩
        rw [List.append_assoc, List.cons_append, inner, List.cons_append, List.append_assoc,
          List.singleton_append]
  · rename_i more same
    obtain ⟨before, blank, rfl⟩ := gap_of_skipSpace same
    split at done
    · rename_i rest same'
      obtain ⟨gap, blank', rfl⟩ := gap_of_skipSpace same'
      have took := took_of_value blank (.emptyObject blank') done
      rw [List.cons_append, List.append_assoc, List.singleton_append] at took
      exact took
    · obtain ⟨gap, blank', same'⟩ := exists_gap more
      rw [same', ← List.cons_append, ← List.append_assoc]
      refine took_of_skipName done fun pairs part tail derives closes => ?_
      refine ⟨before, _, tail, blank, .object (derives.members_after_gap blank'), closes, ?_⟩
      simp only [List.cons_append, List.append_assoc, List.nil_append]
  · obtain ⟨before, blank, same⟩ := exists_gap bytes
    rw [same]
    cases taken : skipScalar (skipSpace bytes) with
    | error fault =>
        rw [taken] at done
        cases done
    | ok rest =>
        rw [taken] at done
        obtain ⟨value, derives, same'⟩ := derives_of_skipScalar taken
        rw [same']
        exact took_of_value blank derives done

theorem completes_of_skipFrom {fuel : Nat} {inside : List Bracket} {bytes rest : Bytes}
    (skipped : skipFrom fuel inside bytes = .ok rest) :
    ∃ text, Completes inside text ∧ bytes = text ++ rest := by
  induction fuel generalizing inside bytes with
  | zero => cases skipped
  | succ fuel ih =>
      rw [skipFrom] at skipped
      split at skipped
      · cases skipped
      · rename_i done
        cases skipped
        exact took_of_skipStep done
      · rename_i inside' more done
        obtain ⟨head, -, rfl, goesOn⟩ := took_of_skipStep done
        obtain ⟨text, completes, rfl⟩ := ih skipped
        exact ⟨head ++ text, goesOn text completes, (List.append_assoc ..).symm⟩

/-- What is skipped is a value. -/
theorem derives_of_skipValue {fuel : Nat} {bytes rest : Bytes}
    (skipped : skipValue fuel bytes = .ok rest) :
    ∃ gap text, IsBlank gap ∧ Derives .value text ∧ bytes = gap ++ (text ++ rest) := by
  obtain ⟨whole, ⟨gap, text, tail, blank, derives, closes, rfl⟩, rfl⟩ :=
    completes_of_skipFrom skipped
  cases closes
  refine ⟨gap, text, blank, derives, ?_⟩
  rw [List.append_nil, List.append_assoc]

/-! Enough fuel is as good as any -/

theorem length_of_skipStep {inside inside' : List Bracket} {bytes rest : Bytes}
    (done : skipStep inside bytes = .ok (.upToValue inside' rest)) :
    rest.length < bytes.length := by
  obtain ⟨head, some, rfl, -⟩ := took_of_skipStep done
  have pos := List.length_pos_iff.mpr some
  rw [List.length_append]
  omega

theorem skipFrom_congr {fuel fuel' : Nat} {inside : List Bracket} {bytes : Bytes}
    (enough : bytes.length < fuel) (enough' : bytes.length < fuel') :
    skipFrom fuel inside bytes = skipFrom fuel' inside bytes := by
  induction fuel generalizing fuel' inside bytes with
  | zero => exact absurd enough (Nat.not_lt_zero _)
  | succ fuel ih =>
      cases fuel' with
      | zero => exact absurd enough' (Nat.not_lt_zero _)
      | succ fuel' =>
          rw [skipFrom, skipFrom]
          cases done : skipStep inside bytes with
          | error fault => rfl
          | ok skipped =>
              cases skipped with
              | whole rest => rfl
              | upToValue inside' rest =>
                  have shorter := length_of_skipStep done
                  exact ih (by omega) (by omega)

/-- Skips what is wanted with all the fuel that takes. -/
def skipRest (inside : List Bracket) (bytes : Bytes) : Except Fault Bytes :=
  skipFrom (bytes.length + 1) inside bytes

def finishSkip : Except Fault Skipped → Except Fault Bytes
  | .error fault => .error fault
  | .ok (.whole rest) => .ok rest
  | .ok (.upToValue inside rest) => skipRest inside rest

theorem skipFrom_eq_skipRest {fuel : Nat} {inside : List Bracket} {bytes : Bytes}
    (enough : bytes.length < fuel) : skipFrom fuel inside bytes = skipRest inside bytes :=
  skipFrom_congr enough (Nat.lt_succ_self _)

theorem skipRest_eq (inside : List Bracket) (bytes : Bytes) :
    skipRest inside bytes = finishSkip (skipStep inside bytes) := by
  rw [skipRest, skipFrom]
  cases done : skipStep inside bytes with
  | error fault => rfl
  | ok skipped =>
      cases skipped with
      | whole rest => rfl
      | upToValue inside' rest => exact skipFrom_eq_skipRest (length_of_skipStep done)

/-! All of the grammar is skipped -/

theorem skipRest_gap (blank : IsBlank gap) (inside : List Bracket) (bytes : Bytes) :
    skipRest inside (gap ++ bytes) = skipRest inside bytes := by
  rw [skipRest_eq, skipRest_eq, skipStep, skipStep, skipSpace_append blank]

theorem skipRest_skipSpace (inside : List Bracket) (bytes : Bytes) :
    skipRest inside (skipSpace bytes) = skipRest inside bytes := by
  obtain ⟨gap, blank, same⟩ := exists_gap bytes
  rw [same, skipRest_gap blank, ← same]

theorem skipAfterValue_gap (blank : IsBlank gap) (bracket : Bracket) (inside : List Bracket)
    (bytes : Bytes) :
    skipAfterValue (bracket :: inside) (gap ++ bytes) =
      skipAfterValue (bracket :: inside) bytes := by
  cases bracket with
  | list => rw [skipAfterValue, skipAfterValue, skipSpace_append blank]
  | object => rw [skipAfterValue, skipAfterValue, skipSpace_append blank]

theorem skipStep_of_scalar (starts : startsValue b = true) (notList : b ≠ 0x5B)
    (notObject : b ≠ 0x7B) (inside : List Bracket) (bytes : Bytes) :
    skipStep inside (b :: bytes) = skipScalar (b :: bytes) >>= skipAfterValue inside := by
  rw [skipStep, skipSpace_cons (solid_of_startsValue starts)]
  split
  · rename_i same
    cases same
    exact absurd rfl notList
  · rename_i same
    cases same
    exact absurd rfl notObject
  · rfl

/-- What comes next is the value of a member. -/
def skipMember (inside : List Bracket) (bytes : Bytes) : Except Fault Bytes :=
  finishSkip ((skipName bytes).map (.upToValue (.object :: inside)))

/-- What skipping does with a text that derives from a symbol. -/
def Passes : Symbol → Bytes → Prop
  | .value, text => ∀ inside rest, Ends rest →
      skipRest inside (text ++ rest) = finishSkip (skipAfterValue inside rest)
  | .element _, part => ∀ bracket inside rest, Ends rest →
      skipRest (bracket :: inside) (part ++ rest) =
        finishSkip (skipAfterValue (bracket :: inside) rest)
  | .elements _, text => ∀ inside rest,
      skipRest (.list :: inside) (text ++ 0x5D :: rest) = finishSkip (skipAfterValue inside rest)
  | .member _ _, part => ∀ inside rest, Ends rest →
      skipMember inside (part ++ rest) = finishSkip (skipAfterValue (.object :: inside) rest)
  | .members _, text => ∀ inside rest,
      skipMember inside (text ++ 0x7D :: rest) = finishSkip (skipAfterValue inside rest)

theorem passes_of_scalar (derives : Derives .value text)
    (skipped : ∀ rest, Ends rest → skipScalar (text ++ rest) = .ok rest)
    (notList : text.head? ≠ some 0x5B) (notObject : text.head? ≠ some 0x7B) :
    Passes .value text := by
  intro inside rest ends
  have whole := skipped rest ends
  obtain ⟨b, more, rfl, starts⟩ := derives.starts
  rw [List.cons_append] at whole ⊢
  rw [skipRest_eq, skipStep_of_scalar starts (fun same => notList (congrArg some same))
    (fun same => notObject (congrArg some same)), whole]
  rfl

theorem skipStep_of_elements (derives : Derives (.elements texts) text) (inside : List Bracket)
    (rest : Bytes) :
    skipStep inside (0x5B :: (text ++ rest)) =
      .ok (.upToValue (.list :: inside) (skipSpace (text ++ rest))) := by
  obtain ⟨gap, b, more, blank, starts, rfl⟩ := derives.elements_start
  have skipped : skipSpace (gap ++ b :: more ++ rest) = b :: (more ++ rest) := by
    rw [List.append_assoc, List.cons_append, skipSpace_gap blank (solid_of_startsValue starts)]
  rw [skipStep, skipSpace_cons rfl]
  simp only [skipped]
  split
  · rename_i same
    cases same
    exact absurd starts (by decide)
  · rename_i same
    cases same
  · rfl

theorem skipStep_of_members (derives : Derives (.members pairs) text) (inside : List Bracket)
    (rest : Bytes) :
    skipStep inside (0x7B :: (text ++ rest)) =
      (skipName (text ++ rest)).map (.upToValue (.object :: inside)) := by
  obtain ⟨gap, more, blank, rfl⟩ := derives.members_start
  have skipped : skipSpace (gap ++ 0x22 :: more ++ rest) = 0x22 :: (more ++ rest) := by
    rw [List.append_assoc, List.cons_append, skipSpace_gap blank rfl]
  have same : skipName (0x22 :: (more ++ rest)) = skipName (gap ++ 0x22 :: more ++ rest) := by
    rw [skipName, skipName, skipped, skipSpace_cons rfl]
  rw [skipStep, skipSpace_cons rfl]
  simp only [skipped]
  rw [← same]
  rfl

theorem passes (derives : Derives symbol text) : Passes symbol text := by
  induction derives with
  | null => exact passes_of_scalar .null (fun rest _ => expectWord_append afterN rest) nofun nofun
  | yes => exact passes_of_scalar .yes (fun rest _ => expectWord_append afterT rest) nofun nofun
  | no => exact passes_of_scalar .no (fun rest _ => expectWord_append afterF rest) nofun nofun
  | number number =>
      exact passes_of_scalar (.number number) (fun rest ends => skipScalar_of_isNumber number ends)
        (number.head?_ne rfl (by decide)) (number.head?_ne rfl (by decide))
  | string string =>
      exact passes_of_scalar (.string string) (fun rest _ => skipScalar_of_isString string rest)
        (string.head?_ne (by decide)) (string.head?_ne (by decide))
  | emptyList blank =>
      intro inside rest ends
      rw [List.cons_append, List.append_assoc, List.singleton_append, skipRest_eq, skipStep,
        skipSpace_cons rfl]
      simp only [skipSpace_gap blank (show isSpace 0x5D = false from rfl)]
  | list derives ih =>
      intro inside rest ends
      rw [List.cons_append, List.append_assoc, List.singleton_append, skipRest_eq,
        skipStep_of_elements derives, ← ih]
      exact (skipRest_skipSpace ..)
  | emptyObject blank =>
      intro inside rest ends
      rw [List.cons_append, List.append_assoc, List.singleton_append, skipRest_eq, skipStep,
        skipSpace_cons rfl]
      simp only [skipSpace_gap blank (show isSpace 0x7D = false from rfl)]
  | object derives ih =>
      intro inside rest ends
      rw [List.cons_append, List.append_assoc, List.singleton_append, skipRest_eq,
        skipStep_of_members derives, ← ih]
      rfl
  | element blank derives blank' ih =>
      intro bracket inside rest ends
      rw [List.append_assoc, List.append_assoc, skipRest_gap blank, ih _ _ (ends_gap blank' ends),
        skipAfterValue_gap blank']
  | lastElement element ih =>
      intro inside rest
      rw [ih _ _ _ (ends_cons rfl rest), skipAfterValue, skipSpace_cons rfl]
      rfl
  | moreElements element more ih ih' =>
      intro inside rest
      rw [List.append_assoc, List.cons_append, ih _ _ _ (ends_cons rfl _), skipAfterValue,
        skipSpace_cons rfl, ← ih']
      rfl
  | member blank string blank' element ih =>
      intro inside rest ends
      rw [List.append_assoc, List.append_assoc, List.append_assoc, List.cons_append, skipMember,
        skipName_of_isString blank string blank', ← ih _ _ _ ends]
      rfl
  | lastMember member ih =>
      intro inside rest
      rw [ih _ _ (ends_cons rfl rest), skipAfterValue, skipSpace_cons rfl]
      rfl
  | moreMembers member more ih ih' =>
      intro inside rest
      rw [List.append_assoc, List.cons_append, ih _ _ (ends_cons rfl _), skipAfterValue,
        skipSpace_cons rfl, ← ih']
      rfl

theorem skipValue_of_derives (derives : Derives .value text) (blank : IsBlank gap)
    (ends : Ends rest) {fuel : Nat} (enough : (gap ++ (text ++ rest)).length < fuel) :
    skipValue fuel (gap ++ (text ++ rest)) = .ok rest := by
  rw [skipValue, skipFrom_eq_skipRest enough, skipRest_gap blank, passes derives [] rest ends]
  rfl

end Heartbeat.Json
