import Heartbeat.Proofs.Json.Printed
import Heartbeat.Proofs.Json.Unambiguity
import Heartbeat.Proofs.Message.Acceptance
import Heartbeat.Proofs.Message.Listed

/-!
Where the text of an envelope ends. Nothing but blanks may follow it, and no part of what is sent
is an envelope by itself: a datagram that was cut, or that has something behind it, is malformed.
-/

namespace Heartbeat

namespace Json

/-- The text is one object or one list. -/
def IsBracketed (text : Bytes) : Prop :=
  (∃ pairs, IsObject pairs text) ∨ ∃ texts, IsList texts text

theorem IsObject.append (object : IsObject pairs text) (blank : IsBlank gap) :
    IsObject pairs (text ++ gap) := by
  obtain ⟨before, inside, behind, blankBefore, blankBehind, rfl, holds⟩ := object
  refine ⟨before, inside, behind ++ gap, blankBefore, blankBehind.append blank, ?_, holds⟩
  simp only [List.append_assoc, List.cons_append]

theorem IsList.append (list : IsList texts text) (blank : IsBlank gap) :
    IsList texts (text ++ gap) := by
  obtain ⟨before, inside, behind, blankBefore, blankBehind, rfl, derives⟩ := list
  refine ⟨before, inside, behind ++ gap, blankBefore, blankBehind.append blank, ?_, derives⟩
  simp only [List.append_assoc, List.cons_append]

/-- Unlike a number, an object is skipped up to its brace whatever comes behind it. -/
theorem skipRest_object (holds : Derives (.members pairs) inside ∨ pairs = [] ∧ IsBlank inside)
    (rest : Bytes) : skipRest [] (0x7B :: (inside ++ 0x7D :: rest)) = .ok rest := by
  rw [skipRest_eq]
  rcases holds with derives | ⟨-, blank⟩
  · rw [skipStep_of_members derives]
    exact passes derives [] rest
  · rw [skipStep, skipSpace_cons rfl]
    simp only [skipSpace_gap blank (show isSpace 0x7D = false from rfl)]
    rfl

theorem skipRest_list (derives : Derives (.elements texts) inside) (rest : Bytes) :
    skipRest [] (0x5B :: (inside ++ 0x5D :: rest)) = .ok rest := by
  rw [skipRest_eq, skipStep_of_elements derives]
  show skipRest [.list] (skipSpace _) = _
  rw [skipRest_skipSpace]
  exact passes derives [] rest

/-- The blanks at the end are what is left of the text, even if it goes on. -/
theorem IsBracketed.behind (bracketed : IsBracketed text) :
    ∃ behind, IsBlank behind ∧ ∀ tail, skipRest [] (text ++ tail) = .ok (behind ++ tail) := by
  rcases bracketed with ⟨pairs, object⟩ | ⟨texts, list⟩
  · obtain ⟨before, inside, behind, blank, blankBehind, rfl, holds⟩ := object
    refine ⟨behind, blankBehind, fun tail => ?_⟩
    simp only [List.append_assoc, List.cons_append]
    rw [skipRest_gap blank, skipRest_object holds]
  · obtain ⟨before, inside, behind, blank, blankBehind, rfl, derives⟩ := list
    refine ⟨behind, blankBehind, fun tail => ?_⟩
    simp only [List.append_assoc, List.cons_append]
    rw [skipRest_gap blank, skipRest_list derives]

/-- A text of this kind goes on with blanks only to be one still. -/
theorem IsBracketed.isBlank_tail (bracketed : IsBracketed text)
    (goesOn : IsBracketed (text ++ tail)) : IsBlank tail := by
  obtain ⟨behind, -, skips⟩ := bracketed.behind
  obtain ⟨behind', blank, skips'⟩ := goesOn.behind
  have left := skips' []
  rw [List.append_nil, skips tail, List.append_nil] at left
  have same := Except.ok.inj left
  intro b member
  refine blank b ?_
  rw [← same]
  exact List.mem_append_right behind member

/-- An object without blanks around it has no front that is an object or a list. -/
theorem eq_of_front (derives : Derives (.members pairs) inside) (bracketed : IsBracketed front)
    (isFront : front <+: 0x7B :: (inside ++ [0x7D])) : front = 0x7B :: (inside ++ [0x7D]) := by
  obtain ⟨tail, whole⟩ := isFront
  have object : IsObject pairs (0x7B :: (inside ++ [0x7D])) :=
    ⟨[], inside, [], isBlank_nil, isBlank_nil, rfl, .inl derives⟩
  rw [← whole] at object
  have blank := bracketed.isBlank_tail (.inl ⟨pairs, object⟩)
  rcases List.eq_nil_or_concat tail with rfl | ⟨tail, last, rfl⟩
  · rw [← whole, List.append_nil]
  · -- What is behind the front would end with a brace, which is not blank.
    rw [List.concat_eq_append, ← List.append_assoc, ← List.cons_append] at whole
    obtain ⟨-, same⟩ := List.append_inj' whole rfl
    cases same
    rw [List.concat_eq_append] at blank
    exact absurd (blank 0x7D (List.mem_append_right tail List.mem_cons_self)) (by decide)

end Json

namespace Envelope

open Json (IsBlank IsBracketed)

theorem Decodes.eq_some (decodes : Decodes made result) (taken : result = .ok envelope) :
    made = some envelope := by
  cases made with
  | none =>
      obtain ⟨diagnosis, failed⟩ := decodes
      rw [taken] at failed
      cases failed
  | some other =>
      rw [show result = .ok other from decodes] at taken
      rw [Except.ok.inj taken]

theorem form_of_decode {now : Calendar.Instant} {envelope : Envelope}
    (taken : decode now bytes = .ok envelope) :
    (∃ pairs, Json.IsObject pairs bytes) ∨ ∃ texts, Json.IsList texts bytes := by
  have parsed : parse now bytes = .ok envelope := by
    unfold decode at taken
    cases parsed : parse now bytes with
    | error fault =>
        rw [parsed] at taken
        cases taken
    | ok other =>
        rw [parsed] at taken
        rw [Except.ok.inj taken]
  rcases form_of_parse parsed with ⟨pairs, -, object, -⟩ | ⟨texts, -, list, -⟩
  · exact .inl ⟨pairs, object⟩
  · exact .inr ⟨texts, list⟩

theorem malformed_of_not_isBracketed (now : Calendar.Instant) (other : ¬ IsBracketed bytes) :
    ∃ diagnosis, decode now bytes = .error (.malformed diagnosis) := by
  cases taken : decode now bytes with
  | ok envelope => exact absurd (form_of_decode taken) other
  | error fault =>
      unfold decode at taken
      cases parsed : parse now bytes with
      | error fault =>
          rw [parsed] at taken
          cases taken
          exact ⟨_, rfl⟩
      | ok envelope =>
          rw [parsed] at taken
          cases taken

/-- Blanks behind an envelope make no difference. -/
theorem decode_append {now : Calendar.Instant} {envelope : Envelope}
    (taken : decode now bytes = .ok envelope) (blank : IsBlank tail) :
    decode now (bytes ++ tail) = .ok envelope := by
  rcases form_of_decode taken with ⟨pairs, object⟩ | ⟨texts, list⟩
  · have decodes := decodes_foldlM (object.append blank) now
    rw [(decodes_foldlM object now).eq_some taken] at decodes
    exact decodes
  · have decodes := decodes_ofTexts (list.append blank) now
    rw [(decodes_ofTexts list now).eq_some taken] at decodes
    exact decodes

theorem encode_eq (envelope : Envelope) :
    ∃ pairs inside, Json.Derives (.members pairs) inside ∧
      envelope.encode = 0x7B :: (inside ++ [0x7D]) :=
  ⟨_, _, Json.derives_renderMembers (List.cons_ne_nil _ _) fun member _ =>
    Json.derives_render member.2, rfl⟩

/-- An envelope can be followed by blanks, which change nothing, and by nothing else; and no front
of what is sent is taken for an envelope. -/
theorem decode_extent :
    (∀ {now : Calendar.Instant} {bytes : Bytes} {envelope : Envelope} (tail : Bytes),
      decode now bytes = .ok envelope →
        (IsBlank tail → decode now (bytes ++ tail) = .ok envelope) ∧
        (¬ IsBlank tail → ∀ later, ∃ diagnosis,
          decode later (bytes ++ tail) = .error (.malformed diagnosis))) ∧
      ∀ (envelope : Envelope) {front : Bytes}, front <+: envelope.encode →
        front ≠ envelope.encode → ∀ now, ∃ diagnosis,
          decode now front = .error (.malformed diagnosis) := by
  refine ⟨fun {now bytes envelope} tail taken => ⟨decode_append taken, fun solid later => ?_⟩,
    fun envelope {front} isFront differs now => ?_⟩
  · refine malformed_of_not_isBracketed later fun goesOn => solid ?_
    exact IsBracketed.isBlank_tail (form_of_decode taken) goesOn
  · refine malformed_of_not_isBracketed now fun bracketed => differs ?_
    obtain ⟨pairs, inside, derives, whole⟩ := envelope.encode_eq
    rw [whole] at isFront ⊢
    exact Json.eq_of_front derives bracketed isFront

/-- A list with a line feed behind it, with a bracket behind it, and a request without its end. -/
theorem decode_extent_of_requests :
    let now : Calendar.Instant := ⟨0, 0, 0⟩
    let list := Utf8.encode "[1,\"HealthCheckRequest\"]"
    decode now (list ++ [0x0A]) = .ok (.healthCheckRequest now) ∧
      (∃ diagnosis, decode now (list ++ [0x5D]) = .error (.malformed diagnosis)) ∧
      ∃ diagnosis, decode now ((healthCheckRequest now).encode.take 40) =
        .error (.malformed diagnosis) := by
  intro now list
  have taken : decode now list = .ok (.healthCheckRequest now) := by decide +kernel
  have solid : ¬ IsBlank [0x5D] := fun blank => absurd (blank 0x5D List.mem_cons_self) (by decide)
  exact ⟨(decode_extent.1 [0x0A] taken).1 (List.forall_mem_singleton.mpr rfl),
    (decode_extent.1 [0x5D] taken).2 solid now,
    decode_extent.2 (healthCheckRequest now) (List.take_prefix ..) (by decide +kernel) now⟩

end Envelope

end Heartbeat
