import Heartbeat.Proofs.Json.Walks

/-!
A value that is kept does not depend on its layout. It is the same for its text and for its compact
text, and the same wherever that stands.
-/

namespace Heartbeat.Json

/-! Values -/

theorem readValue_gap (blank : IsBlank gap) (fuel depth : Nat) (bytes : Bytes) :
    readValue fuel depth (gap ++ bytes) = readValue fuel depth bytes := by
  cases depth with
  | zero => rw [readValue, readWith, readWith, skipSpace_append blank]
  | succ depth => rw [readValue, readWith, readWith, skipSpace_append blank]

/-- The value of a text under so many open brackets. -/
def valueOf (depth : Nat) (text : Bytes) : Option Value :=
  alone (fun fuel => readValue fuel depth) text

theorem makes_of_scalar {made : Option Value} (derives : Derives .value text)
    (notList : text.head? ≠ some 0x5B) (notObject : text.head? ≠ some 0x7B)
    (comes : ∀ rest, Ends rest → Comes made rest (readScalar (text ++ rest))) (depth : Nat) :
    Makes (fun fuel => readValue fuel depth) text made := by
  intro fuel gap rest blank ends _
  have whole := comes rest ends
  obtain ⟨b, more, rfl, starts⟩ := derives.starts
  have scalar : ∀ inner,
      readWith fuel inner (b :: (more ++ rest)) = readScalar (b :: (more ++ rest)) :=
    fun inner => readWith_of_scalar starts (fun same => notList (congrArg some same))
      (fun same => notObject (congrArg some same)) fuel inner _
  show Comes made rest (readValue fuel depth _)
  rw [readValue_gap blank]
  cases depth with
  | zero =>
      rw [List.cons_append] at whole ⊢
      rw [readValue, scalar]
      exact whole
  | succ depth =>
      rw [List.cons_append] at whole ⊢
      rw [readValue, scalar]
      exact whole

section

variable {depth : Nat}

def noteItem (depth : Nat) (held : List Value) (text : Bytes) : Option (List Value) :=
  (valueOf depth text).map (· :: held)

theorem notes_readItem
    (makes : Makes (fun fuel => readValue fuel depth) text (valueOf depth text)) :
    NotesElement (fun fuel => readItem (readValue fuel depth)) (noteItem depth) text :=
  fun fuel held rest ends enough => (makes fuel [] rest isBlank_nil ends enough).map (· :: held)

def noteMember (depth : Nat) (held : List (String × Value)) (pair : Bytes × Bytes) :
    Option (List (String × Value)) := do
  let name ← said? pair.1
  let value ← valueOf depth pair.2
  pure (insertMember name value held)

theorem notes_readMember (string : IsString name)
    (makes : Makes (fun fuel => readValue fuel depth) text (valueOf depth text)) :
    NotesMember (fun fuel => readMember (readValue fuel depth)) (noteMember depth)
      (name, text) := by
  intro fuel held gap before rest blank blankBefore ends enough
  have named := comes_readString string (gap ++ 0x3A :: (before ++ (text ++ rest)))
  have valued := makes fuel before rest blankBefore ends
    (by simp only [List.length_append, List.length_cons] at enough ⊢; omega)
  refine named.bind fun said => ?_
  show Comes _ rest (skipColon _ >>= _ : Except Fault _)
  rw [skipColon_gap blank]
  exact valued.bind fun value => .ok (insertMember said value held) rest

/-- The list of these elements, under so many open brackets. -/
def listOf : Nat → List Bytes → Option Value
  | 0, _ => none
  | depth + 1, texts => (texts.foldlM (noteItem depth) []).map fun items => .array items.reverse

theorem makes_list {texts : List Bytes} {inside : Bytes}
    (makes : ∀ depth, ∀ text ∈ texts,
      Makes (fun fuel => readValue fuel depth) text (valueOf depth text))
    (holds : Derives (.elements texts) inside ∨ texts = [] ∧ IsBlank inside) (depth : Nat) :
    Makes (fun fuel => readValue fuel depth) (0x5B :: (inside ++ [0x5D])) (listOf depth texts) := by
  intro fuel gap rest blank ends enough
  show Comes _ rest (readValue fuel depth _)
  rw [List.cons_append, List.append_assoc, List.singleton_append] at enough ⊢
  rw [List.length_append, List.length_cons] at enough
  rw [readValue_gap blank]
  cases depth with
  | zero => exact .error _ rest
  | succ depth =>
      rw [readValue, readWith, skipSpace_cons rfl]
      refine Comes.map ?_ fun items : List Value => Value.array items.reverse
      obtain derives | ⟨rfl, blankInside⟩ := holds
      · exact comes_readElements (fun text member => notes_readItem (makes depth text member))
          derives rest [] (by omega) (by omega)
      · obtain ⟨fuel, rfl⟩ : ∃ n, fuel = n + 1 := ⟨fuel - 1, by omega⟩
        rw [readElements, nextElement_gap blankInside]
        exact .ok [] rest

/-- The object of these members, under so many open brackets. -/
def objectOf : Nat → List (Bytes × Bytes) → Option Value
  | 0, _ => none
  | depth + 1, pairs => (pairs.foldlM (noteMember depth) []).map .object

theorem makes_object {pairs : List (Bytes × Bytes)} {inside : Bytes}
    (makes : ∀ depth, ∀ pair ∈ pairs, IsString pair.1 ∧
      Makes (fun fuel => readValue fuel depth) pair.2 (valueOf depth pair.2))
    (holds : Derives (.members pairs) inside ∨ pairs = [] ∧ IsBlank inside) (depth : Nat) :
    Makes (fun fuel => readValue fuel depth) (0x7B :: (inside ++ [0x7D]))
      (objectOf depth pairs) := by
  intro fuel gap rest blank ends enough
  show Comes _ rest (readValue fuel depth _)
  rw [List.cons_append, List.append_assoc, List.singleton_append] at enough ⊢
  rw [List.length_append, List.length_cons] at enough
  rw [readValue_gap blank]
  cases depth with
  | zero => exact .error _ rest
  | succ depth =>
      rw [readValue, readWith, skipSpace_cons rfl]
      have notes : ∀ pair ∈ pairs,
          NotesMember (fun fuel => readMember (readValue fuel depth)) (noteMember depth) pair :=
        fun pair member => notes_readMember (makes depth pair member).1 (makes depth pair member).2
      exact (comes_readMembers_inside notes holds rest [] (by omega)).map Value.object

end

/-! The same for all layouts -/

/-- A value that is kept the same wherever it stands and however it is laid out. -/
def Settled (text : Bytes) : Prop :=
  ∀ depth, Settles (fun fuel => readValue fuel depth) text

theorem settled_of_scalar (derives : Derives .value text) (notList : text.head? ≠ some 0x5B)
    (notObject : text.head? ≠ some 0x7B) (tight : compact text = text)
    (scalar : Local readScalar text) : Settled text := by
  obtain ⟨made, comes⟩ := scalar
  intro depth
  have makes := makes_of_scalar derives notList notObject comes depth
  exact makes.settles (tight.symm ▸ makes)

theorem local_word {word : Bytes} {value : Value}
    (reads : ∀ rest, readScalar (word ++ rest) = .ok (value, rest)) : Local readScalar word :=
  ⟨some value, fun rest _ => reads rest⟩

theorem local_of_isNumber (number : IsNumber text) : Local readScalar text := by
  cases number with
  | positive size =>
      obtain ⟨made, comes⟩ := local_readNumber false size
      obtain ⟨b, more, rfl, digit⟩ := size.starts
      refine ⟨made.map .number, fun rest ends => ?_⟩
      rw [List.cons_append, readScalar_of_isDigit digit]
      exact (comes rest ends).map Value.number
  | negative size =>
      obtain ⟨made, comes⟩ := local_readNumber true size
      exact ⟨made.map .number, fun rest ends => (comes rest ends).map Value.number⟩

theorem local_of_isString (string : IsString text) : Local readScalar text := by
  refine ⟨(said? text).map .string, fun rest _ => ?_⟩
  have read := (comes_readString string rest).map Value.string
  obtain ⟨body, -, rfl⟩ := string
  exact read

theorem foldlM_map_congr {note : α → β → Option α} {f : β → β} {items : List β}
    (same : ∀ item ∈ items, ∀ held, note held (f item) = note held item) (held : α) :
    (items.map f).foldlM note held = items.foldlM note held := by
  induction items generalizing held with
  | nil => rfl
  | cons item items ih =>
      rw [List.map_cons, List.foldlM_cons, List.foldlM_cons, same item List.mem_cons_self]
      exact congrArg _ (funext (ih fun item member => same item (List.mem_cons_of_mem _ member)))

theorem Settles.makes_compact {read : Nat → Bytes → Result α} (settles : Settles read text) :
    Makes read (compact text) (alone read (compact text)) := by
  rw [settles.alone_compact]
  exact settles.tight

theorem settled_list {texts : List Bytes} {inside : Bytes}
    (holds : Derives (.elements texts) inside ∨ texts = [] ∧ IsBlank inside)
    (settled : ∀ text ∈ texts, Settled text) : Settled (0x5B :: (inside ++ [0x5D])) := by
  have tight : Derives (.elements (texts.map compact)) (compact inside) ∨
      texts.map compact = [] ∧ IsBlank (compact inside) :=
    holds_compact holds List.map_eq_nil_iff.mpr
  have same : ∀ depth, listOf depth (texts.map compact) = listOf depth texts := by
    intro depth
    cases depth with
    | zero => rfl
    | succ depth =>
        rw [listOf, listOf, foldlM_map_congr]
        intro text member held
        rw [noteItem, noteItem, valueOf, valueOf, (settled text member depth).alone_compact]
  intro depth
  refine (makes_list (fun depth text member => (settled text member depth).makes) holds
    depth).settles ?_
  rw [compact_bracket rfl rfl (compact_inside holds), ← same]
  refine makes_list (fun depth text member => ?_) tight depth
  obtain ⟨text, inTexts, rfl⟩ := List.mem_map.mp member
  exact (settled text inTexts depth).makes_compact

theorem settled_object {pairs : List (Bytes × Bytes)} {inside : Bytes}
    (holds : Derives (.members pairs) inside ∨ pairs = [] ∧ IsBlank inside)
    (settled : ∀ pair ∈ pairs, IsString pair.1 ∧ Settled pair.2) :
    Settled (0x7B :: (inside ++ [0x7D])) := by
  have tight : Derives (.members (pairs.map fun pair => (pair.1, compact pair.2)))
        (compact inside) ∨
      pairs.map (fun pair => (pair.1, compact pair.2)) = [] ∧ IsBlank (compact inside) :=
    holds_compact holds List.map_eq_nil_iff.mpr
  have same : ∀ depth, objectOf depth (pairs.map fun pair => (pair.1, compact pair.2)) =
      objectOf depth pairs := by
    intro depth
    cases depth with
    | zero => rfl
    | succ depth =>
        rw [objectOf, objectOf, foldlM_map_congr]
        intro pair member held
        rw [noteMember, noteMember, valueOf, valueOf, ((settled pair member).2 depth).alone_compact]
  intro depth
  refine (makes_object (fun depth pair member => ⟨(settled pair member).1,
    ((settled pair member).2 depth).makes⟩) holds depth).settles ?_
  rw [compact_bracket rfl rfl (compact_inside holds), ← same]
  refine makes_object (fun depth pair member => ?_) tight depth
  obtain ⟨pair, inPairs, rfl⟩ := List.mem_map.mp member
  exact ⟨(settled pair inPairs).1, ((settled pair inPairs).2 depth).makes_compact⟩

/-- All the values in a text are settled. -/
def Symbol.Settled : Symbol → Bytes → Prop
  | .value, text => Json.Settled text
  | .element text, _ => Json.Settled text
  | .elements texts, _ => ∀ text ∈ texts, Json.Settled text
  | .member name text, _ => IsString name ∧ Json.Settled text
  | .members pairs, _ => ∀ pair ∈ pairs, IsString pair.1 ∧ Json.Settled pair.2

theorem Derives.settled (derives : Derives symbol text) : symbol.Settled text := by
  induction derives with
  | null => exact settled_of_scalar .null nofun nofun rfl (local_word fun _ => rfl)
  | yes => exact settled_of_scalar .yes nofun nofun rfl (local_word fun _ => rfl)
  | no => exact settled_of_scalar .no nofun nofun rfl (local_word fun _ => rfl)
  | number number =>
      exact settled_of_scalar (.number number) (number.head?_ne rfl (by decide))
        (number.head?_ne rfl (by decide)) number.compact (local_of_isNumber number)
  | string string =>
      exact settled_of_scalar (.string string) (string.head?_ne (by decide))
        (string.head?_ne (by decide)) string.compact (local_of_isString string)
  | emptyList blank =>
      exact settled_list (.inr ⟨rfl, blank⟩) fun _ member => absurd member List.not_mem_nil
  | list derives ih => exact settled_list (.inl derives) ih
  | emptyObject blank =>
      exact settled_object (.inr ⟨rfl, blank⟩) fun _ member => absurd member List.not_mem_nil
  | object derives ih => exact settled_object (.inl derives) ih
  | element _ _ _ ih => exact ih
  | lastElement _ ih => exact List.forall_mem_singleton.mpr ih
  | moreElements _ _ ih ih' => exact List.forall_mem_cons.mpr ⟨ih, ih'⟩
  | member _ string _ _ ih => exact ⟨string, ih⟩
  | lastMember _ ih => exact List.forall_mem_singleton.mpr ih
  | moreMembers _ _ ih ih' => exact List.forall_mem_cons.mpr ⟨ih, ih'⟩

end Heartbeat.Json
