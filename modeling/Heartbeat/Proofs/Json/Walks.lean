import Heartbeat.Proofs.Json.Locality

/-!
The walks over lists and objects, on texts of the grammar. If the reader of one element makes a note
of it wherever it stands, the walk makes a note of them all, one after another.
-/

namespace Heartbeat.Json

/-! Lists -/

/-- A reader of elements makes a note of each of them, wherever it stands. -/
def NotesElement (element : Nat → α → Bytes → Result α) (note : α → Bytes → Option α)
    (text : Bytes) : Prop :=
  ∀ fuel held rest, Ends rest → (text ++ rest).length < fuel →
    Comes (note held text) rest (element fuel held (text ++ rest))

theorem nextElement_gap (blank : IsBlank gap) (first : Bool) (bytes : Bytes) :
    nextElement first (gap ++ bytes) = nextElement first bytes := by
  unfold nextElement
  rw [skipSpace_append blank]

theorem nextElement_first (derives : Derives .value text) (rest : Bytes) :
    nextElement true (text ++ rest) = .ok (.element (text ++ rest)) := by
  obtain ⟨b, more, rfl, starts⟩ := derives.starts
  exact nextElement_of_starts starts _

/-- After a comma an element stands as the first one does. -/
theorem nextElement_separated (blank : IsBlank gap) (derives : Derives (.elements texts) text)
    (rest : Bytes) :
    nextElement false (gap ++ 0x2C :: (text ++ rest)) = nextElement true (text ++ rest) := by
  obtain ⟨gap', b, more, blank', starts, rfl⟩ := derives.elements_start
  have separated : ∀ bytes,
      nextElement false (0x2C :: (gap' ++ bytes)) = nextElement false (0x2C :: bytes) := by
    intro bytes
    simp only [nextElement, skipSpace_cons (show isSpace 0x2C = false from rfl),
      skipSpace_append blank', Bool.false_eq_true, if_false]
  rw [nextElement_gap blank, List.append_assoc, nextElement_gap blank', List.cons_append,
    nextElement_of_starts starts, separated, nextElement_comma starts]

theorem readElements_separated (blank : IsBlank gap) (derives : Derives (.elements texts) text)
    (element : α → Bytes → Result α) (steps : Nat) (held : α) (rest : Bytes) :
    readElements element (steps + 1) false held (gap ++ 0x2C :: (text ++ rest)) =
      readElements element (steps + 1) true held (text ++ rest) := by
  rw [readElements, readElements, nextElement_separated blank derives]

section

variable {element : Nat → α → Bytes → Result α} {note : α → Bytes → Option α}

/-- One element is read, and then the others. -/
theorem comes_readElements_cons (notes : NotesElement element note text) {part tail rest : Bytes}
    (derives : Derives (.element text) part) (ends : Ends tail) {fuel steps : Nat} {held : α}
    (enough : (part ++ tail).length < fuel) {last : α → Option α}
    (others : ∀ held gap, IsBlank gap →
      Comes (last held) rest (readElements (element fuel) steps false held (gap ++ tail))) :
    Comes (note held text >>= last) rest
      (readElements (element fuel) (steps + 1) true held (part ++ tail)) := by
  cases derives with
  | @element before _ behind blank derives blank' =>
      have short : (text ++ (behind ++ tail)).length < fuel := by
        simp only [List.length_append] at enough ⊢
        omega
      have comes := notes fuel held (behind ++ tail) (ends_gap blank' ends) short
      rw [List.append_assoc, List.append_assoc, readElements, nextElement_gap blank,
        nextElement_first derives]
      obtain ⟨noted, fault, failed⟩ | ⟨held', noted, taken⟩ := comes.cases
      · simp only [noted, failed]
        exact .error fault rest
      · simp only [noted, taken]
        exact others held' behind blank'

theorem comes_readElements {texts : List Bytes} {inside : Bytes}
    (notes : ∀ text ∈ texts, NotesElement element note text)
    (derives : Derives (.elements texts) inside) (rest : Bytes) {fuel steps : Nat} (held : α)
    (enough : (inside ++ 0x5D :: rest).length < fuel)
    (enough' : (inside ++ 0x5D :: rest).length < steps) :
    Comes (texts.foldlM note held) rest
      (readElements (element fuel) steps true held (inside ++ 0x5D :: rest)) := by
  generalize symbol : Symbol.elements texts = row at derives
  induction derives generalizing texts steps held with
  | @lastElement text part derives _ =>
      cases symbol
      rw [List.length_append, List.length_cons] at enough'
      obtain ⟨steps, rfl⟩ : ∃ n, steps = n + 1 + 1 := ⟨steps - 2, by omega⟩
      have noted := notes text (List.mem_singleton_self text)
      refine comes_readElements_cons noted derives (ends_cons rfl rest) enough
        fun held gap blank => ?_
      rw [readElements, nextElement_gap blank]
      exact .ok held rest
  | @moreElements text part texts more derives elements _ ih =>
      cases symbol
      rw [List.append_assoc, List.cons_append] at enough enough' ⊢
      rw [List.length_append, List.length_cons] at enough enough'
      obtain ⟨steps, rfl⟩ : ∃ n, steps = n + 1 + 1 := ⟨steps - 2, by omega⟩
      have noted := notes text List.mem_cons_self
      have others := fun text member => notes text (List.mem_cons_of_mem _ member)
      refine comes_readElements_cons noted derives (ends_cons rfl _)
        (by rw [List.length_append, List.length_cons]; exact enough) fun held gap blank => ?_
      rw [readElements_separated blank elements]
      exact ih others held (by omega) (by omega) rfl
  | _ => cases symbol

end

/-! Objects -/

/-- A reader of members makes a note of each of them. It begins behind the quote of the name. -/
def NotesMember (member : Nat → α → Bytes → Result α) (note : α → Bytes × Bytes → Option α)
    (pair : Bytes × Bytes) : Prop :=
  ∀ fuel held gap before rest, IsBlank gap → IsBlank before → Ends rest →
    (pair.1 ++ (gap ++ 0x3A :: (before ++ (pair.2 ++ rest)))).length < fuel →
    Comes (note held pair) rest
      (member fuel held (pair.1.tail ++ (gap ++ 0x3A :: (before ++ (pair.2 ++ rest)))))

theorem nextMember_gap (blank : IsBlank gap) (first : Bool) (bytes : Bytes) :
    nextMember first (gap ++ bytes) = nextMember first bytes := by
  unfold nextMember
  rw [skipSpace_append blank]

theorem nextMember_first (string : IsString name) (rest : Bytes) :
    nextMember true (name ++ rest) = .ok (.element (name.tail ++ rest)) := by
  obtain ⟨body, -, rfl⟩ := string
  rfl

theorem nextMember_separated (blank : IsBlank gap) (derives : Derives (.members pairs) text)
    (rest : Bytes) :
    nextMember false (gap ++ 0x2C :: (text ++ rest)) = nextMember true (text ++ rest) := by
  obtain ⟨gap', more, blank', rfl⟩ := derives.members_start
  have separated : ∀ bytes,
      nextMember false (0x2C :: (gap' ++ bytes)) = nextMember false (0x2C :: bytes) := by
    intro bytes
    simp only [nextMember, skipSpace_cons (show isSpace 0x2C = false from rfl),
      skipSpace_append blank', Bool.false_eq_true, if_false]
  rw [nextMember_gap blank, List.append_assoc, nextMember_gap blank', separated]
  rfl

theorem readMembers_separated (blank : IsBlank gap) (derives : Derives (.members pairs) text)
    (member : α → Bytes → Result α) (steps : Nat) (held : α) (rest : Bytes) :
    readMembers member (steps + 1) false held (gap ++ 0x2C :: (text ++ rest)) =
      readMembers member (steps + 1) true held (text ++ rest) := by
  rw [readMembers, readMembers, nextMember_separated blank derives]

section

variable {member : Nat → α → Bytes → Result α} {note : α → Bytes × Bytes → Option α}

/-- One member is read, and then the others. -/
theorem comes_readMembers_cons (notes : NotesMember member note (name, text))
    {part tail rest : Bytes} (derives : Derives (.member name text) part) (ends : Ends tail)
    {fuel steps : Nat} {held : α} (enough : (part ++ tail).length < fuel) {last : α → Option α}
    (others : ∀ held gap, IsBlank gap →
      Comes (last held) rest (readMembers (member fuel) steps false held (gap ++ tail))) :
    Comes (note held (name, text) >>= last) rest
      (readMembers (member fuel) (steps + 1) true held (part ++ tail)) := by
  obtain ⟨start, gap, before, behind, blank, string, blank', blankBefore, -, blankBehind, rfl⟩ :=
    derives.member_parts
  have comes := notes fuel held gap before (behind ++ tail) blank' blankBefore
    (ends_gap blankBehind ends)
    (by simp only [List.length_append, List.length_cons] at enough ⊢; omega)
  simp only [List.append_assoc, List.cons_append]
  rw [readMembers, nextMember_gap blank, nextMember_first string]
  obtain ⟨noted, fault, failed⟩ | ⟨held', noted, taken⟩ := comes.cases
  · simp only [noted, failed]
    exact .error fault rest
  · simp only [noted, taken]
    exact others held' behind blankBehind

theorem comes_readMembers {pairs : List (Bytes × Bytes)} {inside : Bytes}
    (notes : ∀ pair ∈ pairs, NotesMember member note pair)
    (derives : Derives (.members pairs) inside) (rest : Bytes) {fuel steps : Nat} (held : α)
    (enough : (inside ++ 0x7D :: rest).length < fuel)
    (enough' : (inside ++ 0x7D :: rest).length < steps) :
    Comes (pairs.foldlM note held) rest
      (readMembers (member fuel) steps true held (inside ++ 0x7D :: rest)) := by
  generalize symbol : Symbol.members pairs = row at derives
  induction derives generalizing pairs steps held with
  | @lastMember name text part derives _ =>
      cases symbol
      rw [List.length_append, List.length_cons] at enough'
      obtain ⟨steps, rfl⟩ : ∃ n, steps = n + 1 + 1 := ⟨steps - 2, by omega⟩
      have noted := notes (name, text) (List.mem_singleton_self _)
      refine comes_readMembers_cons noted derives (ends_cons rfl rest) enough
        fun held gap blank => ?_
      rw [readMembers, nextMember_gap blank]
      exact .ok held rest
  | @moreMembers name text part pairs more derives members _ ih =>
      cases symbol
      rw [List.append_assoc, List.cons_append] at enough enough' ⊢
      rw [List.length_append, List.length_cons] at enough enough'
      obtain ⟨steps, rfl⟩ : ∃ n, steps = n + 1 + 1 := ⟨steps - 2, by omega⟩
      have noted := notes (name, text) List.mem_cons_self
      have others := fun pair member => notes pair (List.mem_cons_of_mem _ member)
      refine comes_readMembers_cons noted derives (ends_cons rfl _)
        (by rw [List.length_append, List.length_cons]; exact enough) fun held gap blank => ?_
      rw [readMembers_separated blank members]
      exact ih others held (by omega) (by omega) rfl
  | _ => cases symbol

/-- An object may be empty. -/
theorem comes_readMembers_inside {pairs : List (Bytes × Bytes)} {inside : Bytes}
    (notes : ∀ pair ∈ pairs, NotesMember member note pair)
    (holds : Derives (.members pairs) inside ∨ pairs = [] ∧ IsBlank inside) (rest : Bytes)
    {fuel : Nat} (held : α) (enough : (inside ++ 0x7D :: rest).length < fuel) :
    Comes (pairs.foldlM note held) rest
      (readMembers (member fuel) fuel true held (inside ++ 0x7D :: rest)) := by
  obtain derives | ⟨rfl, blank⟩ := holds
  · exact comes_readMembers notes derives rest held enough enough
  · obtain ⟨steps, same⟩ : ∃ n, fuel = n + 1 := ⟨fuel - 1, by omega⟩
    rw [same, readMembers, nextMember_gap blank]
    exact .ok held rest

end

end Heartbeat.Json
