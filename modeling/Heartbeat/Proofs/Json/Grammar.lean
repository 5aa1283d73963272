import Heartbeat.Json.Printer
import Heartbeat.Json.Skipper
import Heartbeat.Proofs.Text.Runs

/-!
JSON as a grammar over bytes, apart from any reader. What a string says is kept apart from how it
is written, because not every string that is well formed says something.
-/

namespace Heartbeat.Json

/-! Blanks -/

def IsBlank (text : Bytes) : Prop :=
  ∀ b ∈ text, isSpace b = true

theorem isBlank_nil : IsBlank [] :=
  fun _ member => absurd member List.not_mem_nil

theorem IsBlank.append (blank : IsBlank gap) (blank' : IsBlank gap') : IsBlank (gap ++ gap') := by
  intro b member
  rcases List.mem_append.mp member with first | second
  · exact blank b first
  · exact blank' b second

theorem skipSpace_append (blank : IsBlank gap) (bytes : Bytes) :
    skipSpace (gap ++ bytes) = skipSpace bytes :=
  List.dropWhile_append_of_pos blank

theorem skipSpace_cons (solid : isSpace b = false) (bytes : Bytes) :
    skipSpace (b :: bytes) = b :: bytes :=
  List.dropWhile_cons_of_neg (ne_true_of_eq_false solid)

theorem skipSpace_gap (blank : IsBlank gap) (solid : isSpace b = false) (bytes : Bytes) :
    skipSpace (gap ++ b :: bytes) = b :: bytes := by
  rw [skipSpace_append blank, skipSpace_cons solid]

theorem exists_gap (bytes : Bytes) : ∃ gap, IsBlank gap ∧ bytes = gap ++ skipSpace bytes :=
  Text.exists_run isSpace bytes

theorem gap_of_skipSpace {bytes rest : Bytes} (skipped : skipSpace bytes = rest) :
    ∃ gap, IsBlank gap ∧ bytes = gap ++ rest := by
  subst skipped
  exact exists_gap bytes

/-! Strings -/

/-- A byte that stands for itself in a string. -/
def isPlain (b : UInt8) : Bool := 0x20 ≤ b && b != 0x22 && b != 0x5C

/-- What may stand between the quotes of a string. -/
inductive IsBody : Bytes → Prop
  | nil : IsBody []
  | plain : isPlain b = true → IsBody text → IsBody (b :: text)
  | escape : simpleEscape? b = some c → IsBody text → IsBody (0x5C :: b :: text)
  | unit : hexUnit? a b c d = some n → IsBody text →
      IsBody (0x5C :: 0x75 :: a :: b :: c :: d :: text)

/-- What the text between two quotes says, escapes resolved. -/
inductive Spells : Bytes → Bytes → Prop
  | nil : Spells [] []
  | plain : isPlain b = true → Spells text said → Spells (b :: text) (b :: said)
  | escape : simpleEscape? b = some c → Spells text said →
      Spells (0x5C :: b :: text) (c :: said)
  | unit : hexUnit? a b c d = some n → isLowSurrogate n = false → isHighSurrogate n = false →
      Spells text said →
      Spells (0x5C :: 0x75 :: a :: b :: c :: d :: text) (Utf8.encodeChar (Char.ofNat n) ++ said)
  | pair : hexUnit? a b c d = some high → isHighSurrogate high = true →
      hexUnit? a' b' c' d' = some low → isLowSurrogate low = true → Spells text said →
      Spells (0x5C :: 0x75 :: a :: b :: c :: d :: 0x5C :: 0x75 :: a' :: b' :: c' :: d' :: text)
        (Utf8.encodeChar (joinSurrogates high low) ++ said)

theorem Spells.isBody (spells : Spells text said) : IsBody text := by
  induction spells with
  | nil => exact .nil
  | plain plain _ ih => exact .plain plain ih
  | escape simple _ ih => exact .escape simple ih
  | unit hex _ _ _ ih => exact .unit hex ih
  | pair hex _ hex' _ _ ih => exact .unit hex (.unit hex' ih)

def IsString (text : Bytes) : Prop :=
  ∃ body, IsBody body ∧ text = 0x22 :: body ++ [0x22]

/-- The text is a string that says `said`. -/
def Writes (said : String) (text : Bytes) : Prop :=
  ∃ body, Spells body (Utf8.encode said) ∧ text = 0x22 :: body ++ [0x22]

theorem quoted_append (body rest : Bytes) :
    0x22 :: body ++ [0x22] ++ rest = 0x22 :: (body ++ 0x22 :: rest) := by
  rw [List.cons_append, List.cons_append, List.append_assoc, List.singleton_append]

theorem Writes.isString (writes : Writes said text) : IsString text := by
  obtain ⟨body, spells, rfl⟩ := writes
  exact ⟨body, spells.isBody, rfl⟩

/-! Numbers -/

def AllDigits (text : Bytes) : Prop :=
  ∀ b ∈ text, isDigit b = true

inductive IsWhole : Bytes → Prop
  | zero : IsWhole [0x30]
  | digits : isDigit b = true → b ≠ 0x30 → AllDigits text → IsWhole (b :: text)

inductive IsFraction : Bytes → Prop
  | none : IsFraction []
  | digits : isDigit b = true → AllDigits text → IsFraction (0x2E :: b :: text)

inductive IsExponent : Bytes → Prop
  | none : IsExponent []
  | digits : mark = 0x65 ∨ mark = 0x45 → sign = [] ∨ sign = [0x2B] ∨ sign = [0x2D] →
      isDigit b = true → AllDigits text → IsExponent (mark :: (sign ++ b :: text))

/-- A number without its sign. -/
def IsSize (text : Bytes) : Prop :=
  ∃ whole fraction exponent, IsWhole whole ∧ IsFraction fraction ∧ IsExponent exponent ∧
    text = whole ++ (fraction ++ exponent)

inductive IsNumber : Bytes → Prop
  | positive : IsSize text → IsNumber text
  | negative : IsSize text → IsNumber (0x2D :: text)

/-! Values -/

inductive Symbol where
  | value
  | element (text : Bytes)
  | elements (texts : List Bytes)
  | member (name text : Bytes)
  | members (pairs : List (Bytes × Bytes))

/-- How a text derives from a symbol. An element or a member stands with the blanks around it. -/
inductive Derives : Symbol → Bytes → Prop
  | null : Derives .value wordNull
  | yes : Derives .value wordTrue
  | no : Derives .value wordFalse
  | number : IsNumber text → Derives .value text
  | string : IsString text → Derives .value text
  | emptyList : IsBlank gap → Derives .value (0x5B :: (gap ++ [0x5D]))
  | list : Derives (.elements texts) inside → Derives .value (0x5B :: (inside ++ [0x5D]))
  | emptyObject : IsBlank gap → Derives .value (0x7B :: (gap ++ [0x7D]))
  | object : Derives (.members pairs) inside → Derives .value (0x7B :: (inside ++ [0x7D]))
  | element : IsBlank before → Derives .value text → IsBlank behind →
      Derives (.element text) (before ++ (text ++ behind))
  | lastElement : Derives (.element text) part → Derives (.elements [text]) part
  | moreElements : Derives (.element text) part → Derives (.elements texts) rest →
      Derives (.elements (text :: texts)) (part ++ 0x2C :: rest)
  | member : IsBlank before → IsString name → IsBlank behind → Derives (.element text) part →
      Derives (.member name text) (before ++ (name ++ (behind ++ 0x3A :: part)))
  | lastMember : Derives (.member name text) part → Derives (.members [(name, text)]) part
  | moreMembers : Derives (.member name text) part → Derives (.members pairs) rest →
      Derives (.members ((name, text) :: pairs)) (part ++ 0x2C :: rest)

theorem Derives.elements_after_gap (blank : IsBlank gap)
    (derives : Derives (.elements texts) text) :
    Derives (.elements texts) (gap ++ text) := by
  have atElement : ∀ {value part}, Derives (.element value) part →
      Derives (.element value) (gap ++ part) := by
    intro value part element
    cases element with
    | element blank' derives behind =>
        rw [← List.append_assoc]
        exact .element (blank.append blank') derives behind
  cases derives with
  | lastElement element => exact .lastElement (atElement element)
  | moreElements element more =>
      rw [← List.append_assoc]
      exact .moreElements (atElement element) more

theorem Derives.members_after_gap (blank : IsBlank gap) (derives : Derives (.members pairs) text) :
    Derives (.members pairs) (gap ++ text) := by
  have atMember : ∀ {name value part}, Derives (.member name value) part →
      Derives (.member name value) (gap ++ part) := by
    intro name value part member
    cases member with
    | member blank' string behind element =>
        rw [← List.append_assoc]
        exact .member (blank.append blank') string behind element
  cases derives with
  | lastMember member => exact .lastMember (atMember member)
  | moreMembers member more =>
      rw [← List.append_assoc]
      exact .moreMembers (atMember member) more

/-- A member is a name and a value, with blanks around both. -/
theorem Derives.member_parts (derives : Derives (.member name text) part) :
    ∃ start gap before behind, IsBlank start ∧ IsString name ∧ IsBlank gap ∧ IsBlank before ∧
      Derives .value text ∧ IsBlank behind ∧
        part = start ++ (name ++ (gap ++ 0x3A :: (before ++ (text ++ behind)))) := by
  cases derives with
  | member blank string blank' element =>
  cases element with
  | element blankBefore derives blankBehind =>
      exact ⟨_, _, _, _, blank, string, blank', blankBefore, derives, blankBehind, rfl⟩

theorem Derives.members_parts {pairs : List (Bytes × Bytes)} {inside : Bytes}
    (derives : Derives (.members pairs) inside) :
    ∀ pair ∈ pairs, IsString pair.1 ∧ Derives .value pair.2 := by
  have both : ∀ {name text part}, Derives (.member name text) part →
      IsString name ∧ Derives .value text := by
    intro name text part derives
    obtain ⟨_, _, _, _, -, string, -, -, derives, -, -⟩ := derives.member_parts
    exact ⟨string, derives⟩
  generalize symbol : Symbol.members pairs = row at derives
  induction derives generalizing pairs with
  | lastMember member _ =>
      cases symbol
      exact List.forall_mem_singleton.mpr (both member)
  | moreMembers member _ _ ih =>
      cases symbol
      exact List.forall_mem_cons.mpr ⟨both member, ih rfl⟩
  | _ => cases symbol

/-- A text that is nothing but an object with these members, each as it is written. -/
def IsObject (pairs : List (Bytes × Bytes)) (text : Bytes) : Prop :=
  ∃ before inside behind, IsBlank before ∧ IsBlank behind ∧
    text = before ++ 0x7B :: (inside ++ 0x7D :: behind) ∧
    (Derives (.members pairs) inside ∨ pairs = [] ∧ IsBlank inside)

theorem IsObject.derives (object : IsObject pairs text) :
    ∀ pair ∈ pairs, IsString pair.1 ∧ Derives .value pair.2 := by
  obtain ⟨_, _, _, -, -, -, derives | ⟨rfl, -⟩⟩ := object
  · exact derives.members_parts
  · exact fun _ member => absurd member List.not_mem_nil

/-- A text that is nothing but a list of these elements, each as it is written. -/
def IsList (texts : List Bytes) (text : Bytes) : Prop :=
  ∃ before inside behind, IsBlank before ∧ IsBlank behind ∧
    text = before ++ 0x5B :: (inside ++ 0x5D :: behind) ∧ Derives (.elements texts) inside

/-- Exactly one member has this name, and it has this value. -/
def Sole (name : String) (value : Bytes) (pairs : List (Bytes × Bytes)) : Prop :=
  ∃ before key behind, pairs = before ++ (key, value) :: behind ∧ Writes name key ∧
    ∀ pair ∈ before ++ behind, ¬ Writes name pair.1

/-! What may follow -/

/-- A byte that would go on with a number. -/
def continuesNumber (b : UInt8) : Bool :=
  isDigit b || b == 0x2E || b == 0x65 || b == 0x45

/-- A text that does not go on with a number before it. -/
def Ends (rest : Bytes) : Prop :=
  ∀ b ∈ rest.head?, continuesNumber b = false

end Heartbeat.Json
