import Heartbeat.Json.Typed
import Heartbeat.Proofs.Json.Unambiguity

/-!
What is read and kept follows the grammar too. The walks over lists and objects are taken with any
reader of an element or a member, so that what is said of them holds of the typed readers as well.
-/

namespace Heartbeat.Json

theorem eq_of_map_ok {result : Except ε α} {f : α → β} {b : β} (mapped : result.map f = .ok b) :
    ∃ a, result = .ok a ∧ f a = b := by
  cases result with
  | error fault => cases mapped
  | ok a =>
      cases mapped
      exact ⟨a, rfl, rfl⟩

theorem eq_of_mapError_ok {result : Except ε α} {f : ε → ε'} {a : α}
    (mapped : result.mapError f = .ok a) : result = .ok a := by
  cases result with
  | error fault => cases mapped
  | ok b =>
      cases mapped
      rfl

theorem eq_of_bind_ok {result : Except ε α} {f : α → Except ε β} {b : β}
    (bound : result >>= f = .ok b) : ∃ a, result = .ok a ∧ f a = .ok b := by
  cases result with
  | error fault => cases bound
  | ok a => exact ⟨a, rfl, bound⟩

/-! Scalars -/

theorem writes_of_readString {said : String} {bytes rest : Bytes}
    (read : readString bytes = .ok (said, rest)) :
    ∃ text, Writes said text ∧ 0x22 :: bytes = text ++ rest := by
  obtain ⟨body, spells, rfl⟩ := spells_of_readString read
  exact ⟨_, ⟨body, spells, rfl⟩, (quoted_append body rest).symm⟩

theorem derives_of_readScalar {bytes rest : Bytes} {value : Value}
    (read : readScalar bytes = .ok (value, rest)) :
    ∃ text, Derives .value text ∧ bytes = text ++ rest := by
  unfold readScalar at read
  split at read
  · cases read
  · obtain ⟨rest', taken, same⟩ := eq_of_map_ok read
    cases same
    exact ⟨_, .null, congrArg (0x6E :: ·) (eq_of_expectWord taken)⟩
  · obtain ⟨rest', taken, same⟩ := eq_of_map_ok read
    cases same
    exact ⟨_, .yes, congrArg (0x74 :: ·) (eq_of_expectWord taken)⟩
  · obtain ⟨rest', taken, same⟩ := eq_of_map_ok read
    cases same
    exact ⟨_, .no, congrArg (0x66 :: ·) (eq_of_expectWord taken)⟩
  · obtain ⟨⟨said, rest'⟩, taken, same⟩ := eq_of_map_ok read
    cases same
    obtain ⟨text, writes, whole⟩ := writes_of_readString taken
    exact ⟨text, .string writes.isString, whole⟩
  · obtain ⟨⟨n, rest'⟩, taken, same⟩ := eq_of_map_ok read
    cases same
    obtain ⟨text, number, whole⟩ := isNumber_of_readNegative taken
    exact ⟨text, .number number, whole⟩
  · split at read
    · obtain ⟨⟨n, rest'⟩, taken, same⟩ := eq_of_map_ok read
      cases same
      obtain ⟨text, number, whole⟩ := isNumber_of_readPositive taken
      exact ⟨text, .number number, whole⟩
    · cases read

/-! Lists -/

theorem gap_of_nextElement_closed {first : Bool} {bytes rest : Bytes}
    (next : nextElement first bytes = .ok (.closed rest)) :
    ∃ gap, IsBlank gap ∧ bytes = gap ++ 0x5D :: rest := by
  unfold nextElement at next
  split at next
  · cases next
  · rename_i same
    cases next
    exact gap_of_skipSpace same
  · split at next
    · cases next
    · split at next
      · cases next
      · cases next
      · cases next
  · split at next
    · cases next
    · cases next

theorem gap_of_first_element {bytes rest : Bytes}
    (next : nextElement true bytes = .ok (.element rest)) :
    ∃ gap, IsBlank gap ∧ bytes = gap ++ rest := by
  unfold nextElement at next
  split at next
  · cases next
  · cases next
  · rename_i same
    cases next
    exact gap_of_skipSpace same
  · cases next
    exact exists_gap bytes

theorem comma_of_next_element {bytes rest : Bytes}
    (next : nextElement false bytes = .ok (.element rest)) :
    ∃ gap gap', IsBlank gap ∧ IsBlank gap' ∧ bytes = gap ++ 0x2C :: (gap' ++ rest) := by
  unfold nextElement at next
  split at next
  · cases next
  · cases next
  · rename_i more same
    obtain ⟨gap, blank, rfl⟩ := gap_of_skipSpace same
    rw [if_neg Bool.false_ne_true] at next
    split at next
    · cases next
    · cases next
    · cases next
      obtain ⟨gap', blank', same'⟩ := exists_gap more
      refine ⟨gap, gap', blank, blank', ?_⟩
      rw [← same']
  · cases next

/-! Objects -/

theorem gap_of_nextMember_closed {first : Bool} {bytes rest : Bytes}
    (next : nextMember first bytes = .ok (.closed rest)) :
    ∃ gap, IsBlank gap ∧ bytes = gap ++ 0x7D :: rest := by
  unfold nextMember at next
  split at next
  · cases next
  · rename_i same
    cases next
    exact gap_of_skipSpace same
  · split at next
    · cases next
    · split at next
      · cases next
      · cases next
      · cases next
      · cases next
  · split at next
    · cases next
    · cases next
  · cases next

theorem gap_of_first_member {bytes rest : Bytes}
    (next : nextMember true bytes = .ok (.element rest)) :
    ∃ gap, IsBlank gap ∧ bytes = gap ++ 0x22 :: rest := by
  unfold nextMember at next
  split at next
  · cases next
  · cases next
  · cases next
  · rename_i same
    cases next
    exact gap_of_skipSpace same
  · cases next

theorem comma_of_next_member {bytes rest : Bytes}
    (next : nextMember false bytes = .ok (.element rest)) :
    ∃ gap gap', IsBlank gap ∧ IsBlank gap' ∧ bytes = gap ++ 0x2C :: (gap' ++ 0x22 :: rest) := by
  unfold nextMember at next
  split at next
  · cases next
  · cases next
  · rename_i more same
    obtain ⟨gap, blank, rfl⟩ := gap_of_skipSpace same
    rw [if_neg Bool.false_ne_true] at next
    split at next
    · cases next
    · rename_i same'
      cases next
      obtain ⟨gap', blank', rfl⟩ := gap_of_skipSpace same'
      exact ⟨gap, gap', blank, blank', rfl⟩
    · cases next
    · cases next
  · cases next
  · cases next

/-- The members that take what is held from one state to another, one by one. -/
inductive Gathers (gets : α → Bytes → Bytes → α → Prop) : α → List (Bytes × Bytes) → α → Prop
  | nil : Gathers gets held [] held
  | cons : gets held name text held' → Gathers gets held' pairs held'' →
      Gathers gets held ((name, text) :: pairs) held''

/-- The text between a member and the end of its object. -/
inductive ObjectTail : List (Bytes × Bytes) → Bytes → Prop
  | done : IsBlank gap → ObjectTail [] (gap ++ [0x7D])
  | more : IsBlank gap → Derives (.members pairs) inside →
      ObjectTail pairs (gap ++ 0x2C :: (inside ++ [0x7D]))

theorem Derives.member_before_gap (derives : Derives (.member name text) part)
    (blank : IsBlank gap) : Derives (.member name text) (part ++ gap) := by
  cases derives with
  | member before string behind element =>
  cases element with
  | element before' derives behind' =>
      have wider := Derives.member before string behind
        (.element before' derives (behind'.append blank))
      simpa only [List.append_assoc, List.cons_append] using wider

theorem ObjectTail.members (tail : ObjectTail pairs rest)
    (member : Derives (.member name text) part) :
    ∃ inside, Derives (.members ((name, text) :: pairs)) inside ∧
      part ++ rest = inside ++ [0x7D] := by
  cases tail with
  | done blank =>
      exact ⟨_, .lastMember (member.member_before_gap blank), (List.append_assoc ..).symm⟩
  | more blank derives =>
      refine ⟨_, .moreMembers (member.member_before_gap blank) derives, ?_⟩
      simp only [List.append_assoc, List.cons_append]

/-- A reader of members takes members, and `gets` tells what it makes of them. -/
def ReadsMember (gets : α → Bytes → Bytes → α → Prop) (member : α → Bytes → Result α) : Prop :=
  ∀ held bytes held' rest, member held bytes = .ok (held', rest) →
    ∃ name text part, Derives (.member name text) part ∧ 0x22 :: bytes = part ++ rest ∧
      gets held name text held'

section

variable {gets : α → Bytes → Bytes → α → Prop} {member : α → Bytes → Result α}

theorem objectTail_of_readMembers (reads : ReadsMember gets member) {fuel : Nat} {held held' : α}
    {bytes rest : Bytes} (read : readMembers member fuel false held bytes = .ok (held', rest)) :
    ∃ pairs text, ObjectTail pairs text ∧ Gathers gets held pairs held' ∧
      bytes = text ++ rest := by
  induction fuel generalizing held bytes with
  | zero => cases read
  | succ fuel ih =>
      rw [readMembers] at read
      split at read
      · cases read
      · rename_i next
        cases read
        obtain ⟨gap, blank, rfl⟩ := gap_of_nextMember_closed next
        exact ⟨[], _, .done blank, .nil, (List.append_cons ..)⟩
      · rename_i more next
        obtain ⟨gap, gap', blank, blank', rfl⟩ := comma_of_next_member next
        split at read
        · cases read
        · rename_i held'' rest' got
          obtain ⟨name, text, part, derives, same, gets⟩ := reads _ _ _ _ got
          obtain ⟨pairs, tail, isTail, gathers, rfl⟩ := ih read
          obtain ⟨inside, members, whole⟩ := isTail.members derives
          refine ⟨_, _, .more blank (members.members_after_gap blank'), .cons gets gathers, ?_⟩
          rw [same, ← List.append_assoc part, whole]
          simp only [List.append_assoc, List.cons_append]

/-- An object that is read has the members that were gathered from it. -/
theorem members_of_readMembers (reads : ReadsMember gets member) {fuel : Nat} {held held' : α}
    {bytes rest : Bytes} (read : readMembers member fuel true held bytes = .ok (held', rest)) :
    ∃ pairs inside, (Derives (.members pairs) inside ∨ pairs = [] ∧ IsBlank inside) ∧
      Gathers gets held pairs held' ∧ bytes = inside ++ 0x7D :: rest := by
  cases fuel with
  | zero => cases read
  | succ fuel =>
      rw [readMembers] at read
      split at read
      · cases read
      · rename_i next
        cases read
        obtain ⟨gap, blank, rfl⟩ := gap_of_nextMember_closed next
        exact ⟨[], gap, .inr ⟨rfl, blank⟩, .nil, rfl⟩
      · rename_i more next
        obtain ⟨gap, blank, rfl⟩ := gap_of_first_member next
        split at read
        · cases read
        · rename_i held'' rest' got
          obtain ⟨name, text, part, derives, same, gets⟩ := reads _ _ _ _ got
          obtain ⟨pairs, tail, isTail, gathers, rfl⟩ := objectTail_of_readMembers reads read
          obtain ⟨inside, members, whole⟩ := isTail.members derives
          refine ⟨_, _, .inl (members.members_after_gap blank), .cons gets gathers, ?_⟩
          rw [same, ← List.append_assoc part, whole]
          simp only [List.append_assoc, List.singleton_append]

end

/-! Values -/

/-- A reader of values takes values, with the blanks before them. -/
def ReadsValue (read : Bytes → Result α) : Prop :=
  ∀ bytes value rest, read bytes = .ok (value, rest) →
    ∃ gap text, IsBlank gap ∧ Derives .value text ∧ bytes = gap ++ (text ++ rest)

theorem readsMember_readMember {read : Bytes → Result Value} (reads : ReadsValue read) :
    ReadsMember (fun _ _ _ _ => True) (readMember read) := by
  intro held bytes held' rest got
  obtain ⟨⟨said, afterName⟩, named, got⟩ := eq_of_bind_ok got
  obtain ⟨afterColon, colon, got⟩ := eq_of_bind_ok got
  obtain ⟨⟨value, afterValue⟩, valued, got⟩ := eq_of_bind_ok got
  cases got
  obtain ⟨name, writes, whole⟩ := writes_of_readString named
  obtain ⟨behind, blank, rfl⟩ := colon_of_skipColon colon
  obtain ⟨before, text, blank', derives, rfl⟩ := reads _ _ _ valued
  have member := Derives.member isBlank_nil writes.isString blank
    (.element blank' derives isBlank_nil)
  refine ⟨name, text, _, member, ?_, trivial⟩
  rw [whole]
  simp only [List.append_assoc, List.cons_append, List.nil_append]

theorem closes_of_readElements {read : Bytes → Result Value} (reads : ReadsValue read) {fuel : Nat}
    {held held' : List Value} {bytes rest : Bytes}
    (got : readElements (readItem read) fuel false held bytes = .ok (held', rest)) :
    ∃ text, Closes [.list] text ∧ bytes = text ++ rest := by
  induction fuel generalizing held bytes with
  | zero => cases got
  | succ fuel ih =>
      rw [readElements] at got
      split at got
      · cases got
      · rename_i next
        cases got
        obtain ⟨gap, blank, rfl⟩ := gap_of_nextElement_closed next
        exact ⟨_, .endList blank .done, List.append_cons ..⟩
      · rename_i more next
        obtain ⟨gap, gap', blank, blank', rfl⟩ := comma_of_next_element next
        split at got
        · cases got
        · rename_i held'' rest' item
          obtain ⟨⟨value, rest''⟩, valued, same⟩ := eq_of_map_ok item
          cases same
          obtain ⟨before, text, blank'', derives, rfl⟩ := reads _ _ _ valued
          obtain ⟨tail, closes, rfl⟩ := ih got
          have completes : Completes [.list] (gap' ++ (before ++ (text ++ tail))) :=
            .after_gap blank' ⟨before, text, tail, blank'', derives, closes, rfl⟩
          obtain ⟨texts, inside, tail', elements, closed, same⟩ := completes.elements
          cases closed
          refine ⟨_, .elements blank elements .done, ?_⟩
          rw [← same]
          simp only [List.append_assoc, List.cons_append]

theorem derives_of_readElements {read : Bytes → Result Value} (reads : ReadsValue read)
    {fuel : Nat} {held held' : List Value} {bytes rest : Bytes}
    (got : readElements (readItem read) fuel true held bytes = .ok (held', rest)) :
    ∃ text, Derives .value (0x5B :: text) ∧ bytes = text ++ rest := by
  cases fuel with
  | zero => cases got
  | succ fuel =>
      rw [readElements] at got
      split at got
      · cases got
      · rename_i next
        cases got
        obtain ⟨gap, blank, rfl⟩ := gap_of_nextElement_closed next
        exact ⟨_, .emptyList blank, List.append_cons ..⟩
      · rename_i more next
        obtain ⟨gap, blank, rfl⟩ := gap_of_first_element next
        split at got
        · cases got
        · rename_i held'' rest' item
          obtain ⟨⟨value, rest''⟩, valued, same⟩ := eq_of_map_ok item
          cases same
          obtain ⟨before, text, blank', derives, rfl⟩ := reads _ _ _ valued
          obtain ⟨tail, closes, rfl⟩ := closes_of_readElements reads got
          have completes : Completes [.list] (gap ++ (before ++ (text ++ tail))) :=
            .after_gap blank ⟨before, text, tail, blank', derives, closes, rfl⟩
          obtain ⟨texts, inside, tail', elements, closed, same⟩ := completes.elements
          cases closed
          refine ⟨_, .list elements, ?_⟩
          rw [← same]
          simp only [List.append_assoc]

theorem derives_of_readMembers {gets : α → Bytes → Bytes → α → Prop}
    {member : α → Bytes → Result α} (reads : ReadsMember gets member) {fuel : Nat} {held held' : α}
    {bytes rest : Bytes} (got : readMembers member fuel true held bytes = .ok (held', rest)) :
    ∃ text, Derives .value (0x7B :: text) ∧ bytes = text ++ rest := by
  obtain ⟨pairs, inside, derives | ⟨-, blank⟩, -, rfl⟩ := members_of_readMembers reads got
  · exact ⟨_, .object derives, List.append_cons ..⟩
  · exact ⟨_, .emptyObject blank, List.append_cons ..⟩

theorem readsValue_readWith {fuel : Nat} {inner : Option (Bytes → Result Value)}
    (reads : ∀ read ∈ inner, ReadsValue read) : ReadsValue (readWith fuel inner) := by
  intro bytes value rest got
  obtain ⟨gap, blank, whole⟩ := exists_gap bytes
  unfold readWith at got
  split at got
  · rename_i more same
    rw [whole, same]
    split at got
    · cases got
    · rename_i read
      obtain ⟨⟨items, rest'⟩, elements, same'⟩ := eq_of_map_ok got
      cases same'
      obtain ⟨text, derives, rfl⟩ := derives_of_readElements (reads read rfl) elements
      exact ⟨gap, _, blank, derives, rfl⟩
  · rename_i more same
    rw [whole, same]
    split at got
    · cases got
    · rename_i read
      obtain ⟨⟨members, rest'⟩, taken, same'⟩ := eq_of_map_ok got
      cases same'
      obtain ⟨text, derives, rfl⟩ :=
        derives_of_readMembers (readsMember_readMember (reads read rfl)) taken
      exact ⟨gap, _, blank, derives, rfl⟩
  · obtain ⟨text, derives, same⟩ := derives_of_readScalar got
    rw [whole, same]
    exact ⟨gap, text, blank, derives, rfl⟩

theorem readsValue_readValue (fuel depth : Nat) : ReadsValue (readValue fuel depth) := by
  induction depth with
  | zero => exact readsValue_readWith nofun
  | succ depth ih =>
      refine readsValue_readWith fun read same => ?_
      cases same
      exact ih

end Heartbeat.Json
