import Heartbeat.Proofs.Json.Typed
import Heartbeat.Proofs.Message.Members

/-!
What is read of a list is what is read of its elements by their places: the four fields in their
order, of which the last ones may be left out.
-/

namespace Heartbeat

namespace Json

/-- What comes of the first of these elements, if there is one. -/
def optional (read : Bytes → Option α) : List Bytes → Option (Option α)
  | [] => some none
  | text :: _ => (read text).map some

/-- The first element of a list, and what follows it up to the bracket. -/
theorem Derives.elements_split (derives : Derives (.elements texts) inside) :
    ∃ gap text texts' tail, texts = text :: texts' ∧ IsBlank gap ∧ Derives .value text ∧
      ListTail texts' tail ∧ ∀ rest, inside ++ 0x5D :: rest = gap ++ (text ++ (tail ++ rest)) := by
  cases derives with
  | lastElement element =>
      cases element with
      | element before derives behind =>
          refine ⟨_, _, [], _, rfl, before, derives, .done behind, fun rest => ?_⟩
          simp only [List.append_assoc, List.singleton_append]
  | moreElements element more =>
      cases element with
      | element before derives behind =>
          refine ⟨_, _, _, _, rfl, before, derives, .more behind more, fun rest => ?_⟩
          simp only [List.append_assoc, List.cons_append, List.nil_append]

theorem ListTail.ends (tail : ListTail texts bytes) (rest : Bytes) : Ends (bytes ++ rest) := by
  cases tail with
  | done blank =>
      rw [List.append_assoc]
      exact ends_gap blank (ends_cons rfl rest)
  | more blank _ =>
      rw [List.append_assoc]
      exact ends_gap blank (ends_cons rfl _)

section

variable {read : Nat → Bytes → Result α} {texts : List Bytes} {fuel : Nat}

/-- The next element is the first one of those that follow, behind a comma or not. -/
theorem comes_readOptional (settles : ∀ text, Derives .value text → Settles read text)
    (derives : Derives (.elements texts) inside) {first : Bool} {bytes rest : Bytes}
    (next : nextElement first bytes = nextElement true (inside ++ 0x5D :: rest))
    (enough : (inside ++ 0x5D :: rest).length < fuel) :
    ∃ tail, ListTail texts.tail tail ∧ (tail ++ rest).length < fuel ∧
      Comes (optional (alone read) texts) (tail ++ rest)
        (readOptional (read fuel) first bytes) := by
  obtain ⟨gap, text, texts', tail, rfl, blank, derives, isTail, split⟩ := derives.elements_split
  rw [split] at next enough
  rw [nextElement_gap blank, nextElement_first derives] at next
  rw [List.length_append] at enough
  have comes := (settles text derives).makes fuel [] (tail ++ rest) isBlank_nil
    (isTail.ends rest) (by rw [List.nil_append]; omega)
  rw [List.length_append] at enough
  refine ⟨tail, isTail, by omega, ?_⟩
  rw [readOptional, next]
  exact comes.map some

theorem comes_readOptional_tail (settles : ∀ text, Derives .value text → Settles read text)
    (tail : ListTail texts bytes) {rest : Bytes} (enough : (bytes ++ rest).length < fuel) :
    ∃ tail, ListTail texts.tail tail ∧ (tail ++ rest).length < fuel ∧
      Comes (optional (alone read) texts) (tail ++ rest)
        (readOptional (read fuel) false (bytes ++ rest)) := by
  cases tail with
  | done blank =>
      refine ⟨_, .done blank, enough, ?_⟩
      rw [readOptional, List.append_assoc, nextElement_gap blank]
      exact .ok none _
  | more blank derives =>
      simp only [List.append_assoc, List.cons_append, List.nil_append] at enough ⊢
      refine comes_readOptional settles derives (nextElement_separated blank derives _) ?_
      rw [List.length_append, List.length_cons] at enough
      omega

/-- Only a list without more elements is at its end. -/
theorem comes_expectListEnd (tail : ListTail texts bytes) (rest : Bytes) (value : α) :
    Comes (if texts = [] then some value else none) rest
      ((expectListEnd (bytes ++ rest)).map (value, ·)) := by
  cases tail with
  | done blank =>
      rw [expectListEnd, List.append_assoc, List.singleton_append, skipSpace_gap blank rfl]
      exact .ok value rest
  | more blank derives =>
      obtain ⟨_, _, _, _, rfl, -⟩ := derives.elements_split
      rw [if_neg (List.cons_ne_nil _ _), expectListEnd, List.append_assoc, List.cons_append,
        skipSpace_gap blank rfl]
      simp only
      split
      · exact .error _ rest
      · exact .error _ rest

end

end Json

namespace Envelope

open Json (IsBlank IsList Derives Comes optional)

/-- The envelope of these elements. -/
def ofTexts (now : Calendar.Instant) (texts : List Bytes) : Option Envelope :=
  optional version? texts >>= fun version =>
    optional topic? texts.tail >>= fun topic => topic >>= fun topic =>
      optional created? texts.tail.tail >>= fun created =>
        optional payload? texts.tail.tail.tail >>= fun payload =>
          if texts.tail.tail.tail.tail = [] then
            some ⟨version.getD currentVersion, topic, created.getD now, payload.getD .null⟩
          else none

theorem comes_readList {texts : List Bytes} (derives : Derives (.elements texts) inside)
    (now : Calendar.Instant) {rest : Bytes} {fuel : Nat}
    (enough : (inside ++ 0x5D :: rest).length < fuel) :
    Comes (ofTexts now texts) rest (readList now fuel (inside ++ 0x5D :: rest)) := by
  obtain ⟨tail, isTail, enough, version⟩ :=
    Json.comes_readOptional (fun _ => Json.settles_readWord32) derives rfl enough
  obtain ⟨tail, isTail, enough, topic⟩ :=
    Json.comes_readOptional_tail (fun _ => Topic.settles_read) isTail enough
  obtain ⟨tail, isTail, enough, created⟩ :=
    Json.comes_readOptional_tail (fun _ => settles_readCreated) isTail enough
  obtain ⟨tail, isTail, -, payload⟩ :=
    Json.comes_readOptional_tail (fun _ => settles_readPayload) isTail enough
  refine version.bind fun version => topic.bind fun topic => ?_
  cases topic with
  | none => exact .error _ rest
  | some topic =>
      refine created.bind fun created => payload.bind fun payload => ?_
      have ended := Json.comes_expectListEnd isTail rest (⟨version.getD currentVersion, topic,
        created.getD now, payload.getD .null⟩ : Envelope)
      cases closed : Json.expectListEnd (tail ++ rest) with
      | error fault =>
          rw [closed] at ended
          simp only [closed]
          exact ended
      | ok rest' =>
          rw [closed] at ended
          simp only [closed]
          exact ended

theorem decodes_ofTexts (list : IsList texts text) (now : Calendar.Instant) :
    Decodes (ofTexts now texts) (decode now text) := by
  obtain ⟨before, inside, behind, blank, blankBehind, rfl, derives⟩ := list
  have enough : (inside ++ 0x5D :: behind).length <
      (before ++ 0x5B :: (inside ++ 0x5D :: behind)).length + 1 := by
    simp only [List.length_append, List.length_cons]
    omega
  have comes := comes_readList derives now enough
  unfold decode parse read
  rw [Json.skipSpace_gap blank rfl]
  obtain ⟨made, fault, failed⟩ | ⟨envelope, made, taken⟩ := comes.cases
  · simp only [made, failed]
    exact ⟨_, rfl⟩
  · simp only [made, taken, expectEnd_of_isBlank blankBehind]
    rfl

end Envelope

end Heartbeat
