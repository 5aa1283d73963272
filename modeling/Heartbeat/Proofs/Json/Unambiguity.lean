import Heartbeat.Proofs.Json.Skipping

/-!
An object is written by its members in one way only: no text derives from two lists of members.
-/

namespace Heartbeat.Json

theorem skipSpace_of_isString (string : IsString text) (rest : Bytes) :
    skipSpace (text ++ rest) = text ++ rest := by
  obtain ⟨body, -, rfl⟩ := string
  rfl

theorem eq_of_gap_append {gap gap' text text' : Bytes} (blank : IsBlank gap)
    (blank' : IsBlank gap') (solid : skipSpace text = text) (solid' : skipSpace text' = text')
    (same : gap ++ text = gap' ++ text') : text = text' := by
  rw [← solid, ← skipSpace_append blank, same, skipSpace_append blank', solid']

theorem eq_of_value_append {text text' rest rest' : Bytes} (derives : Derives .value text)
    (derives' : Derives .value text') (ends : Ends rest) (ends' : Ends rest')
    (same : text ++ rest = text' ++ rest') : text = text' ∧ rest = rest' := by
  have skipped := skipValue_of_derives derives isBlank_nil ends (Nat.lt_succ_self _)
  have skipped' := skipValue_of_derives derives' isBlank_nil ends' (Nat.lt_succ_self _)
  rw [same, skipped'] at skipped
  cases skipped
  exact ⟨List.append_cancel_right same, rfl⟩

/-- A member is told from what follows it, if that begins as what follows a member does. -/
theorem eq_of_member_append {name name' text text' part part' rest rest' : Bytes}
    (member : Derives (.member name text) part) (member' : Derives (.member name' text') part')
    (ends : Ends rest) (ends' : Ends rest') (solid : skipSpace rest = rest)
    (solid' : skipSpace rest' = rest') (same : part ++ rest = part' ++ rest') :
    name = name' ∧ text = text' ∧ rest = rest' := by
  cases member with
  | member blank string gap element =>
  cases member' with
  | member blank' string' gap' element' =>
  cases element with
  | element before derives behind =>
  cases element' with
  | element before' derives' behind' =>
      simp only [List.append_assoc, List.cons_append] at same
      have named := eq_of_gap_append blank blank' (skipSpace_of_isString string _)
        (skipSpace_of_isString string' _) same
      obtain ⟨rfl, colon⟩ := eq_of_isString_append string string' named
      have valued := List.tail_eq_of_cons_eq (eq_of_gap_append gap gap' rfl rfl colon)
      have values := eq_of_gap_append before before' (skipSpace_of_derives derives _)
        (skipSpace_of_derives derives' _) valued
      obtain ⟨rfl, after⟩ := eq_of_value_append derives derives'
        (ends_gap behind ends) (ends_gap behind' ends') values
      exact ⟨rfl, rfl, eq_of_gap_append behind behind' solid solid' after⟩

theorem eq_of_members_append {pairs pairs' : List (Bytes × Bytes)} {text text' rest rest' : Bytes}
    (derives : Derives (.members pairs) text) (derives' : Derives (.members pairs') text')
    (same : text ++ 0x7D :: rest = text' ++ 0x7D :: rest') : pairs = pairs' := by
  generalize symbol : Symbol.members pairs = row at derives
  induction derives generalizing pairs pairs' text' rest with
  | lastMember member ih =>
      cases symbol
      cases derives' with
      | lastMember member' =>
          obtain ⟨rfl, rfl, -⟩ := eq_of_member_append member member' (ends_cons rfl _)
            (ends_cons rfl _) rfl rfl same
          rfl
      | moreMembers member' more' =>
          rw [List.append_assoc, List.cons_append] at same
          obtain ⟨-, -, behind⟩ := eq_of_member_append member member' (ends_cons rfl _)
            (ends_cons rfl _) rfl rfl same
          cases behind
  | moreMembers member more ih ih' =>
      cases symbol
      rw [List.append_assoc, List.cons_append] at same
      cases derives' with
      | lastMember member' =>
          obtain ⟨-, -, behind⟩ := eq_of_member_append member member' (ends_cons rfl _)
            (ends_cons rfl _) rfl rfl same
          cases behind
      | moreMembers member' more' =>
          rw [List.append_assoc, List.cons_append] at same
          obtain ⟨rfl, rfl, behind⟩ := eq_of_member_append member member' (ends_cons rfl _)
            (ends_cons rfl _) rfl rfl same
          rw [ih' more' (List.tail_eq_of_cons_eq behind) rfl]
  | _ => cases symbol

theorem IsObject.unique {pairs pairs' : List (Bytes × Bytes)} (object : IsObject pairs text)
    (object' : IsObject pairs' text) : pairs = pairs' := by
  obtain ⟨before, inside, behind, blank, -, rfl, holds⟩ := object
  obtain ⟨before', inside', behind', blank', -, same, holds'⟩ := object'
  have opened := List.tail_eq_of_cons_eq (eq_of_gap_append blank blank' rfl rfl same)
  rcases holds with derives | ⟨rfl, empty⟩
  · rcases holds' with derives' | ⟨rfl, empty'⟩
    · exact eq_of_members_append derives derives' opened
    · obtain ⟨gap, more, start, rfl⟩ := derives.members_start
      rw [List.append_assoc] at opened
      cases eq_of_gap_append start empty' rfl rfl opened
  · rcases holds' with derives' | ⟨rfl, empty'⟩
    · obtain ⟨gap, more, start, rfl⟩ := derives'.members_start
      rw [List.append_assoc] at opened
      cases eq_of_gap_append empty start rfl rfl opened
    · rfl

theorem IsObject.not_isList (object : IsObject pairs text) (texts : List Bytes) :
    ¬ IsList texts text := by
  rintro ⟨before, inside, behind, blank, -, rfl, -⟩
  obtain ⟨before', inside', behind', blank', -, same, -⟩ := object
  cases eq_of_gap_append blank blank' rfl rfl same

theorem Sole.unique {pairs : List (Bytes × Bytes)} (sole : Sole name text pairs)
    (sole' : Sole name text' pairs) : text = text' := by
  obtain ⟨before, key, behind, rfl, -, others⟩ := sole
  obtain ⟨before', key', behind', same, writes', -⟩ := sole'
  have member : (key', text') ∈ before ++ (key, text) :: behind := by
    rw [same]
    exact List.mem_append_right before' List.mem_cons_self
  rcases List.mem_append.mp member with first | rest
  · exact absurd writes' (others _ (List.mem_append_left behind first))
  · rcases List.mem_cons.mp rest with found | last
    · exact (Prod.mk.inj found).2.symm
    · exact absurd writes' (others _ (List.mem_append_right before last))

end Heartbeat.Json
