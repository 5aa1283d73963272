import Heartbeat.Proofs.Json.Reading

/-!
What the typed readers take: numbers, strings, names in their two spellings, and the elements of a
list that need not all be there.
-/

namespace Heartbeat.Json

/-- A name in its other spelling, as the only member of an object. -/
def Wraps (name : String) (text : Bytes) : Prop :=
  ∃ key inside, Writes name key ∧ Derives (.members [(key, wordNull)]) inside ∧
    text = 0x7B :: (inside ++ [0x7D])

/-- The text between an element and the end of its list. -/
inductive ListTail : List Bytes → Bytes → Prop
  | done : IsBlank gap → ListTail [] (gap ++ [0x5D])
  | more : IsBlank gap → Derives (.elements texts) inside →
      ListTail texts (gap ++ 0x2C :: (inside ++ [0x5D]))

theorem ListTail.elements (tail : ListTail texts rest) (blank : IsBlank before)
    (derives : Derives .value text) :
    ∃ inside, Derives (.elements (text :: texts)) inside ∧
      before ++ (text ++ rest) = inside ++ [0x5D] := by
  cases tail with
  | done blank' =>
      refine ⟨_, .lastElement (.element blank derives blank'), ?_⟩
      simp only [List.append_assoc]
  | more blank' elements =>
      refine ⟨_, .moreElements (.element blank derives blank') elements, ?_⟩
      simp only [List.append_assoc, List.cons_append]

theorem ListTail.cons (tail : ListTail texts rest) (blank : IsBlank gap) (blank' : IsBlank gap')
    (blank'' : IsBlank before) (derives : Derives .value text) :
    ListTail (text :: texts) (gap ++ 0x2C :: (gap' ++ (before ++ (text ++ rest)))) := by
  obtain ⟨inside, elements, whole⟩ := tail.elements blank'' derives
  rw [whole, ← List.append_assoc]
  exact .more blank (elements.elements_after_gap blank')

/-! Typed readers -/

theorem readsValue_readWord32 : ReadsValue readWord32 := by
  have ofNumber : ∀ {number : Result Number} {word : UInt32} {rest : Bytes},
      readWord32Of number = .ok (word, rest) → ∃ n, number = .ok (n, rest) := by
    intro number word rest read
    unfold readWord32Of at read
    split at read
    · cases read
    · split at read
      · cases read
      · cases read
        exact ⟨_, rfl⟩
  intro bytes word rest read
  obtain ⟨gap, blank, whole⟩ := exists_gap bytes
  unfold readWord32 at read
  split at read
  · cases read
  · rename_i same
    obtain ⟨n, taken⟩ := ofNumber read
    obtain ⟨text, number, same'⟩ := isNumber_of_readNegative taken
    rw [whole, same, same']
    exact ⟨gap, text, blank, .number number, rfl⟩
  · rename_i same
    split at read
    · obtain ⟨n, taken⟩ := ofNumber read
      obtain ⟨text, number, same'⟩ := isNumber_of_readPositive taken
      rw [whole, same, same']
      exact ⟨gap, text, blank, .number number, rfl⟩
    · cases read

theorem writes_of_readText {expected : Shape} {said : String} {bytes rest : Bytes}
    (read : readText expected bytes = .ok (said, rest)) :
    ∃ gap text, IsBlank gap ∧ Writes said text ∧ bytes = gap ++ (text ++ rest) := by
  unfold readText at read
  split at read
  · cases read
  · rename_i same
    obtain ⟨gap, blank, rfl⟩ := gap_of_skipSpace same
    obtain ⟨text, writes, same'⟩ := writes_of_readString read
    exact ⟨gap, text, blank, writes, congrArg (gap ++ ·) same'⟩
  · cases read

theorem null_of_readUnit {bytes rest : Bytes} (read : readUnit bytes = .ok ((), rest)) :
    ∃ gap, IsBlank gap ∧ bytes = gap ++ (wordNull ++ rest) := by
  unfold readUnit at read
  split at read
  · cases read
  · rename_i same
    obtain ⟨gap, blank, rfl⟩ := gap_of_skipSpace same
    obtain ⟨rest', taken, same'⟩ := eq_of_map_ok read
    cases same'
    exact ⟨gap, blank, congrArg (gap ++ 0x6E :: ·) (eq_of_expectWord taken)⟩
  · cases read

theorem writes_of_readKnown {known : List String} {ofName? : String → Option α} {value : α}
    {bytes rest : Bytes} (read : readKnown known ofName? bytes = .ok (value, rest)) :
    ∃ name text, ofName? name = some value ∧ Writes name text ∧ 0x22 :: bytes = text ++ rest := by
  unfold readKnown at read
  split at read
  · cases read
  · rename_i name rest' taken
    split at read
    · rename_i found
      cases read
      obtain ⟨text, writes, same⟩ := writes_of_readString taken
      exact ⟨name, text, found, writes, same⟩
    · cases read

theorem member_of_readSole {known : List String} {ofName? : String → Option α} {value : α}
    {bytes rest : Bytes} (read : readSole known ofName? bytes = .ok (value, rest)) :
    ∃ name key inside, ofName? name = some value ∧ Writes name key ∧
      Derives (.members [(key, wordNull)]) inside ∧ 0x22 :: bytes = inside ++ 0x7D :: rest := by
  obtain ⟨⟨value', afterName⟩, known, read⟩ := eq_of_bind_ok read
  obtain ⟨afterColon, colon, read⟩ := eq_of_bind_ok read
  obtain ⟨⟨_, afterUnit⟩, unit, read⟩ := eq_of_bind_ok read
  simp only at read
  split at read
  · rename_i close
    cases read
    obtain ⟨name, key, found, writes, same⟩ := writes_of_readKnown known
    obtain ⟨gap, blank, rfl⟩ := colon_of_skipColon colon
    obtain ⟨gap', blank', rfl⟩ := null_of_readUnit unit
    obtain ⟨gap'', blank'', rfl⟩ := gap_of_skipSpace close
    have member := Derives.member isBlank_nil writes.isString blank
      (.element blank' .null blank'')
    refine ⟨name, key, _, found, writes, .lastMember member, ?_⟩
    rw [same]
    simp only [List.append_assoc, List.cons_append, List.nil_append]
  · cases read
  · cases read

theorem names_of_readVariant {known : List String} {ofName? : String → Option α} {value : α}
    {bytes rest : Bytes} (read : readVariant known ofName? bytes = .ok (value, rest)) :
    ∃ gap text name, IsBlank gap ∧ ofName? name = some value ∧
      (Writes name text ∨ Wraps name text) ∧ bytes = gap ++ (text ++ rest) := by
  unfold readVariant at read
  split at read
  · cases read
  · rename_i same
    obtain ⟨gap, blank, rfl⟩ := gap_of_skipSpace same
    obtain ⟨name, text, found, writes, same'⟩ := writes_of_readKnown read
    exact ⟨gap, text, name, blank, found, .inl writes, congrArg (gap ++ ·) same'⟩
  · rename_i more same
    obtain ⟨gap, blank, rfl⟩ := gap_of_skipSpace same
    split at read
    · cases read
    · rename_i same'
      obtain ⟨gap', blank', rfl⟩ := gap_of_skipSpace same'
      obtain ⟨name, key, inside, found, writes, derives, whole⟩ := member_of_readSole read
      refine ⟨gap, _, name, blank, found,
        .inr ⟨key, gap' ++ inside, writes, derives.members_after_gap blank', rfl⟩, ?_⟩
      rw [whole]
      simp only [List.append_assoc, List.cons_append, List.nil_append]
    · cases read
    · cases read
  · cases read

/-! Elements that need not be there -/

theorem readOptional_none {read : Bytes → Result α} {first : Bool} {bytes rest : Bytes}
    (taken : readOptional read first bytes = .ok (none, rest)) :
    rest = bytes ∧ ∃ gap more, IsBlank gap ∧ bytes = gap ++ 0x5D :: more := by
  unfold readOptional at taken
  split at taken
  · cases taken
  · rename_i next
    cases taken
    obtain ⟨gap, blank, whole⟩ := gap_of_nextElement_closed next
    exact ⟨rfl, gap, _, blank, whole⟩
  · obtain ⟨⟨value, rest'⟩, -, same⟩ := eq_of_map_ok taken
    cases same

theorem readOptional_some {read : Bytes → Result α} {value : α} {bytes rest : Bytes}
    (taken : readOptional read false bytes = .ok (some value, rest)) :
    ∃ gap gap' more, IsBlank gap ∧ IsBlank gap' ∧ bytes = gap ++ 0x2C :: (gap' ++ more) ∧
      read more = .ok (value, rest) := by
  unfold readOptional at taken
  split at taken
  · cases taken
  · cases taken
  · rename_i next
    obtain ⟨⟨value', rest'⟩, got, same⟩ := eq_of_map_ok taken
    cases same
    obtain ⟨gap, gap', blank, blank', whole⟩ := comma_of_next_element next
    exact ⟨gap, gap', _, blank, blank', whole, got⟩

theorem readOptional_first {read : Bytes → Result α} {value : α} {bytes rest : Bytes}
    (taken : readOptional read true bytes = .ok (some value, rest)) :
    ∃ gap more, IsBlank gap ∧ bytes = gap ++ more ∧ read more = .ok (value, rest) := by
  unfold readOptional at taken
  split at taken
  · cases taken
  · cases taken
  · rename_i next
    obtain ⟨⟨value', rest'⟩, got, same⟩ := eq_of_map_ok taken
    cases same
    obtain ⟨gap, blank, whole⟩ := gap_of_first_element next
    exact ⟨gap, _, blank, whole, got⟩

theorem listTail_of_readOptional {read : Bytes → Result α} (reads : ReadsValue read)
    {value : Option α} {bytes rest behind : Bytes}
    (taken : readOptional read false bytes = .ok (value, rest))
    (tail : ∃ texts text, ListTail texts text ∧ rest = text ++ behind) :
    ∃ texts text, ListTail texts text ∧ bytes = text ++ behind := by
  obtain ⟨texts, text, isTail, rfl⟩ := tail
  cases value with
  | none =>
      obtain ⟨rfl, -⟩ := readOptional_none taken
      exact ⟨texts, text, isTail, rfl⟩
  | some value =>
      obtain ⟨gap, gap', more, blank, blank', rfl, got⟩ := readOptional_some taken
      obtain ⟨before, value, blank'', derives, rfl⟩ := reads _ _ _ got
      refine ⟨_, _, isTail.cons blank blank' blank'' derives, ?_⟩
      simp only [List.append_assoc, List.cons_append]

theorem close_of_expectListEnd {bytes rest : Bytes} (taken : expectListEnd bytes = .ok rest) :
    ∃ gap, IsBlank gap ∧ bytes = gap ++ 0x5D :: rest := by
  unfold expectListEnd at taken
  split at taken
  · cases taken
  · rename_i same
    cases taken
    exact gap_of_skipSpace same
  · split at taken
    · cases taken
    · cases taken
  · cases taken

end Heartbeat.Json
