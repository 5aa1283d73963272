import Heartbeat.Proofs.Json.Strings

/-!
The compact text of a value is its text without the blanks between its tokens. It derives as the
text does, and what follows a value is made compact by itself.
-/

namespace Heartbeat.Json

/-- Leaves out the blanks that are not in a string. The flag says whether the text begins in one. -/
def compactFrom : Bool → Bytes → Bytes
  | _, [] => []
  | true, 0x5C :: b :: rest => 0x5C :: b :: compactFrom true rest
  | true, b :: rest => b :: compactFrom (b != 0x22) rest
  | false, b :: rest =>
      if isSpace b then compactFrom false rest else b :: compactFrom (b == 0x22) rest

def compact (text : Bytes) : Bytes :=
  compactFrom false text

theorem forall_byte (holds : UInt8 → Prop) (all : ∀ n < 256, holds (UInt8.ofNat n)) (b : UInt8) :
    holds b := by
  have known := all b.toNat b.toNat_lt
  rw [UInt8.ofNat_toNat] at known
  exact known

/-! Blanks and strings -/

theorem compact_gap (blank : IsBlank gap) (rest : Bytes) :
    compact (gap ++ rest) = compact rest := by
  induction gap with
  | nil => rfl
  | cons b gap ih =>
      have space := blank b List.mem_cons_self
      rw [List.cons_append, compact, compactFrom, if_pos space]
      exact ih fun c member => blank c (List.mem_cons_of_mem _ member)

theorem compactFrom_plain (plain : isPlain b = true) (rest : Bytes) :
    compactFrom true (b :: rest) = b :: compactFrom true rest := by
  obtain ⟨-, notQuote, notBackslash⟩ := ne_of_isPlain plain
  rw [compactFrom, bne_iff_ne.mpr notQuote]
  rintro c more rfl
  exact absurd rfl notBackslash

theorem isPlain_of_hexDigit? {b : UInt8} {n : Nat} (digit : hexDigit? b = some n) :
    isPlain b = true := by
  have all := forall_byte (fun b => (hexDigit? b).isSome = true → isPlain b = true)
    (by decide +kernel) b
  exact all (Option.isSome_of_eq_some digit)

theorem isPlain_of_hexUnit? {a b c d : UInt8} {n : Nat} (hex : hexUnit? a b c d = some n) :
    isPlain a = true ∧ isPlain b = true ∧ isPlain c = true ∧ isPlain d = true := by
  simp only [hexUnit?, Option.pure_def, Option.bind_eq_bind, Option.bind_eq_some_iff] at hex
  obtain ⟨_, first, _, second, _, third, _, fourth, -⟩ := hex
  exact ⟨isPlain_of_hexDigit? first, isPlain_of_hexDigit? second, isPlain_of_hexDigit? third,
    isPlain_of_hexDigit? fourth⟩

theorem compactFrom_body (body : IsBody text) (rest : Bytes) :
    compactFrom true (text ++ 0x22 :: rest) = text ++ 0x22 :: compact rest := by
  induction body with
  | nil => rfl
  | plain plain _ ih => rw [List.cons_append, compactFrom_plain plain, ih, List.cons_append]
  | escape _ _ ih => rw [List.cons_append, List.cons_append, compactFrom, ih]; rfl
  | unit hex _ ih =>
      obtain ⟨first, second, third, fourth⟩ := isPlain_of_hexUnit? hex
      simp only [List.cons_append]
      rw [compactFrom, compactFrom_plain first, compactFrom_plain second, compactFrom_plain third,
        compactFrom_plain fourth, ih]

theorem compact_string (string : IsString text) (rest : Bytes) :
    compact (text ++ rest) = text ++ compact rest := by
  obtain ⟨body, isBody, rfl⟩ := string
  rw [quoted_append, quoted_append]
  exact congrArg (0x22 :: ·) (compactFrom_body isBody rest)

/-! Words and numbers -/

/-- A byte that is neither a blank nor the begin of a string. -/
def isBare (b : UInt8) : Bool :=
  !isSpace b && b != 0x22

theorem compact_cons (bare : isBare b = true) (rest : Bytes) :
    compact (b :: rest) = b :: compact rest := by
  simp only [isBare, Bool.and_eq_true, Bool.not_eq_true', bne_iff_ne] at bare
  rw [compact, compactFrom, if_neg (ne_true_of_eq_false bare.1), beq_false_of_ne bare.2]
  rfl

theorem compact_bare (bare : ∀ b ∈ text, isBare b = true) (rest : Bytes) :
    compact (text ++ rest) = text ++ compact rest := by
  induction text with
  | nil => rfl
  | cons b text ih =>
      rw [List.cons_append, compact_cons (bare b List.mem_cons_self),
        ih fun c member => bare c (List.mem_cons_of_mem _ member), List.cons_append]

theorem isBare_of_isDigit {b : UInt8} (digit : isDigit b = true) : isBare b = true :=
  forall_byte (fun b => isDigit b = true → isBare b = true) (by decide +kernel) b digit

theorem AllDigits.bare (all : AllDigits text) : ∀ b ∈ text, isBare b = true :=
  fun b member => isBare_of_isDigit (all b member)

theorem IsSize.bare (size : IsSize text) : ∀ b ∈ text, isBare b = true := by
  obtain ⟨whole, fraction, exponent, isWhole, isFraction, isExponent, rfl⟩ := size
  have bareWhole : ∀ b ∈ whole, isBare b = true := by
    cases isWhole with
    | zero => exact List.forall_mem_singleton.mpr rfl
    | digits digit _ all => exact List.forall_mem_cons.mpr ⟨isBare_of_isDigit digit, all.bare⟩
  have bareFraction : ∀ b ∈ fraction, isBare b = true := by
    cases isFraction with
    | none => exact fun b member => absurd member List.not_mem_nil
    | digits digit all =>
        exact List.forall_mem_cons.mpr ⟨rfl, List.forall_mem_cons.mpr
          ⟨isBare_of_isDigit digit, all.bare⟩⟩
  have bareExponent : ∀ b ∈ exponent, isBare b = true := by
    cases isExponent with
    | none => exact fun b member => absurd member List.not_mem_nil
    | digits mark sign digit all =>
        refine List.forall_mem_cons.mpr ⟨by rcases mark with rfl | rfl <;> rfl, ?_⟩
        refine List.forall_mem_append.mpr ⟨?_, List.forall_mem_cons.mpr
          ⟨isBare_of_isDigit digit, all.bare⟩⟩
        rcases sign with rfl | rfl | rfl
        · exact fun b member => absurd member List.not_mem_nil
        · exact List.forall_mem_singleton.mpr rfl
        · exact List.forall_mem_singleton.mpr rfl
  exact List.forall_mem_append.mpr
    ⟨bareWhole, List.forall_mem_append.mpr ⟨bareFraction, bareExponent⟩⟩

theorem IsNumber.bare (number : IsNumber text) : ∀ b ∈ text, isBare b = true := by
  cases number with
  | positive size => exact size.bare
  | negative size => exact List.forall_mem_cons.mpr ⟨rfl, size.bare⟩

theorem compact_number (number : IsNumber text) (rest : Bytes) :
    compact (text ++ rest) = text ++ compact rest :=
  compact_bare number.bare rest

/-! Values -/

def Symbol.compact : Symbol → Symbol
  | .value => .value
  | .element text => .element (Json.compact text)
  | .elements texts => .elements (texts.map Json.compact)
  | .member name text => .member name (Json.compact text)
  | .members pairs => .members (pairs.map fun pair => (pair.1, Json.compact pair.2))

/-- What a text is made into, whatever follows it. -/
def Tightens (symbol : Symbol) (text tight : Bytes) : Prop :=
  Derives symbol.compact tight ∧ ∀ rest, compact (text ++ rest) = tight ++ compact rest

theorem Tightens.compact_eq (tightens : Tightens symbol text tight) : compact text = tight := by
  have whole := tightens.2 []
  rw [List.append_nil] at whole
  exact whole.trans (List.append_nil tight)

theorem Tightens.self (derives : Derives .value text)
    (apart : ∀ rest, compact (text ++ rest) = text ++ compact rest) : Tightens .value text text :=
  ⟨derives, apart⟩

/-- Brackets stay around what they hold. -/
theorem Tightens.bracket {opening closing : UInt8} {inside tight : Bytes}
    (derives : Derives .value (opening :: (tight ++ [closing]))) (first : isBare opening = true)
    (last : isBare closing = true)
    (apart : ∀ rest, compact (inside ++ rest) = tight ++ compact rest) :
    Tightens .value (opening :: (inside ++ [closing])) (opening :: (tight ++ [closing])) := by
  refine ⟨derives, fun rest => ?_⟩
  rw [List.cons_append, List.append_assoc, List.singleton_append, compact_cons first, apart,
    compact_cons last, List.cons_append, List.append_assoc, List.singleton_append]

theorem exists_tightens (derives : Derives symbol text) : ∃ tight, Tightens symbol text tight := by
  induction derives with
  | null => exact ⟨_, .self .null (compact_bare (List.all_eq_true.mp rfl))⟩
  | yes => exact ⟨_, .self .yes (compact_bare (List.all_eq_true.mp rfl))⟩
  | no => exact ⟨_, .self .no (compact_bare (List.all_eq_true.mp rfl))⟩
  | number number => exact ⟨_, .self (.number number) (compact_number number)⟩
  | string string => exact ⟨_, .self (.string string) (compact_string string)⟩
  | emptyList blank => exact ⟨_, .bracket (.emptyList isBlank_nil) rfl rfl (compact_gap blank)⟩
  | list _ ih =>
      obtain ⟨tight, elements, apart⟩ := ih
      exact ⟨_, .bracket (.list elements) rfl rfl apart⟩
  | emptyObject blank => exact ⟨_, .bracket (.emptyObject isBlank_nil) rfl rfl (compact_gap blank)⟩
  | object _ ih =>
      obtain ⟨tight, members, apart⟩ := ih
      exact ⟨_, .bracket (.object members) rfl rfl apart⟩
  | element blank _ blank' ih =>
      obtain ⟨tight, tightens⟩ := ih
      refine ⟨tight, ?_, fun rest => ?_⟩
      · rw [Symbol.compact, tightens.compact_eq]
        have element := Derives.element isBlank_nil tightens.1 isBlank_nil
        rw [List.append_nil] at element
        exact element
      · rw [List.append_assoc, List.append_assoc, compact_gap blank, tightens.2,
          compact_gap blank']
  | lastElement _ ih =>
      obtain ⟨tight, element, apart⟩ := ih
      exact ⟨tight, .lastElement element, apart⟩
  | moreElements _ _ ih ih' =>
      obtain ⟨tight, element, apart⟩ := ih
      obtain ⟨tight', elements, apart'⟩ := ih'
      refine ⟨_, .moreElements element elements, fun rest => ?_⟩
      rw [List.append_assoc, List.cons_append, apart, compact_cons rfl, apart', List.append_assoc,
        List.cons_append]
  | member blank string blank' _ ih =>
      obtain ⟨tight, element, apart⟩ := ih
      refine ⟨_, .member isBlank_nil string isBlank_nil element, fun rest => ?_⟩
      rw [List.append_assoc, List.append_assoc, List.append_assoc, List.cons_append,
        compact_gap blank, compact_string string, compact_gap blank', compact_cons rfl, apart]
      simp only [List.nil_append, List.append_assoc, List.cons_append]
  | lastMember _ ih =>
      obtain ⟨tight, member, apart⟩ := ih
      exact ⟨tight, .lastMember member, apart⟩
  | moreMembers _ _ ih ih' =>
      obtain ⟨tight, member, apart⟩ := ih
      obtain ⟨tight', members, apart'⟩ := ih'
      refine ⟨_, .moreMembers member members, fun rest => ?_⟩
      rw [List.append_assoc, List.cons_append, apart, compact_cons rfl, apart', List.append_assoc,
        List.cons_append]

theorem Derives.compact (derives : Derives symbol text) :
    Derives symbol.compact (Json.compact text) := by
  obtain ⟨tight, tightens⟩ := exists_tightens derives
  rw [tightens.compact_eq]
  exact tightens.1

theorem Derives.compact_append (derives : Derives symbol text) (rest : Bytes) :
    Json.compact (text ++ rest) = Json.compact text ++ Json.compact rest := by
  obtain ⟨tight, tightens⟩ := exists_tightens derives
  rw [tightens.compact_eq, tightens.2]

theorem IsBlank.compact (blank : IsBlank gap) : Json.compact gap = [] := by
  have whole := compact_gap blank []
  rw [List.append_nil] at whole
  exact whole

theorem IsNumber.compact (number : IsNumber text) : Json.compact text = text :=
  (Tightens.self (.number number) (compact_number number)).compact_eq

theorem IsString.compact (string : IsString text) : Json.compact text = text :=
  (Tightens.self (.string string) (compact_string string)).compact_eq

/-- What stands in brackets is made compact by itself. -/
theorem compact_bracket {opening closing : UInt8} {inside : Bytes} (first : isBare opening = true)
    (last : isBare closing = true)
    (apart : ∀ rest, compact (inside ++ rest) = compact inside ++ compact rest) :
    compact (opening :: (inside ++ [closing])) = opening :: (compact inside ++ [closing]) := by
  rw [compact_cons first, apart, compact_cons last]
  rfl

/-- The elements of a list or the members of an object, or the blanks between its brackets. -/
theorem compact_inside (holds : Derives symbol inside ∨ empty ∧ IsBlank inside) (rest : Bytes) :
    compact (inside ++ rest) = compact inside ++ compact rest := by
  obtain derives | ⟨-, blank⟩ := holds
  · exact derives.compact_append rest
  · rw [compact_gap blank, blank.compact, List.nil_append]

/-- What stands between brackets stands there without its blanks as well. -/
theorem holds_compact (holds : Derives symbol inside ∨ empty ∧ IsBlank inside)
    (stays : empty → empty') :
    Derives symbol.compact (compact inside) ∨ empty' ∧ IsBlank (compact inside) := by
  obtain derives | ⟨nothing, blank⟩ := holds
  · exact .inl derives.compact
  · rw [blank.compact]
    exact .inr ⟨stays nothing, isBlank_nil⟩

/-! Objects -/

/-- Members one after another, without a blank. -/
def membersText : List (Bytes × Bytes) → Bytes
  | [] => []
  | [(name, text)] => name ++ 0x3A :: text
  | (name, text) :: pairs => name ++ 0x3A :: text ++ 0x2C :: membersText pairs

def objectText (pairs : List (Bytes × Bytes)) : Bytes :=
  0x7B :: (membersText pairs ++ [0x7D])

theorem derives_member (string : IsString name) (derives : Derives .value text) :
    Derives (.member name text) (name ++ 0x3A :: text) := by
  have member := Derives.member isBlank_nil string isBlank_nil
    (.element isBlank_nil derives isBlank_nil)
  simp only [List.nil_append, List.append_nil] at member
  exact member

theorem derives_membersText {pairs : List (Bytes × Bytes)} (some : pairs ≠ [])
    (derives : ∀ pair ∈ pairs, IsString pair.1 ∧ Derives .value pair.2) :
    Derives (.members pairs) (membersText pairs) := by
  induction pairs with
  | nil => exact absurd rfl some
  | cons pair pairs ih =>
      obtain ⟨⟨string, value⟩, others⟩ := List.forall_mem_cons.mp derives
      cases pairs with
      | nil => exact .lastMember (derives_member string value)
      | cons next pairs =>
          exact .moreMembers (derives_member string value) (ih (List.cons_ne_nil _ _) others)

theorem isObject_objectText {pairs : List (Bytes × Bytes)}
    (derives : ∀ pair ∈ pairs, IsString pair.1 ∧ Derives .value pair.2) :
    IsObject pairs (objectText pairs) := by
  refine ⟨[], membersText pairs, [], isBlank_nil, isBlank_nil, rfl, ?_⟩
  cases pairs with
  | nil => exact .inr ⟨rfl, isBlank_nil⟩
  | cons pair pairs => exact .inl (derives_membersText (List.cons_ne_nil _ _) derives)

end Heartbeat.Json
