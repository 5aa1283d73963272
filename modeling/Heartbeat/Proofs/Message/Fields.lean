import Heartbeat.Message.Codec
import Heartbeat.Proofs.Json.Layout

/-!
The values of an envelope's fields are settled as those of a payload are: a version, a topic and a
date are read the same wherever they stand and however they are laid out.
-/

namespace Heartbeat

namespace Json

theorem head_compact (derives : Derives .value text) : (compact text).head? = text.head? := by
  obtain ⟨b, more, rfl, starts⟩ := derives.starts
  by_cases quote : b = 0x22
  · subst quote
    rfl
  · have bare : isBare b = true := by
      rw [isBare, solid_of_startsValue starts, bne_iff_ne.mpr quote]
      rfl
    rw [compact_cons bare]
    rfl

/-- A reader that refuses all values with a first byte like this one's. -/
theorem settles_of_refused {read : Nat → Bytes → Result α} (derives : Derives .value text)
    (refuses : ∀ b more, text.head? = some b → isSpace b = false → ∀ fuel gap, IsBlank gap →
      ∃ fault, read fuel (gap ++ b :: more) = .error fault) : Settles read text := by
  have makes : ∀ other, Derives .value other → other.head? = text.head? →
      Makes read other none := by
    intro other derives' same fuel gap rest blank _ _
    obtain ⟨b, more, rfl, starts⟩ := derives'.starts
    exact refuses b _ same.symm (solid_of_startsValue starts) fuel gap blank
  exact (makes text derives rfl).settles (makes _ derives.compact (head_compact derives))

/-! Versions -/

theorem Derives.isNumber (derives : Derives .value text) (starts : text.head? = some b)
    (number : b = 0x2D ∨ isDigit b = true) : IsNumber text := by
  have others : ∀ c more, text = c :: more → c ≠ 0x2D → isDigit c = false → IsNumber text := by
    rintro c more rfl notMinus notDigit
    cases starts
    rcases number with minus | digit
    · exact absurd minus notMinus
    · exact absurd (digit.symm.trans notDigit) Bool.noConfusion
  cases derives with
  | number number => exact number
  | string string =>
      obtain ⟨body, -, rfl⟩ := string
      exact others _ _ rfl (by decide) rfl
  | _ => exact others _ _ rfl (by decide) rfl

def word32? (n : Number) : Option UInt32 :=
  n.toWord32.toOption

theorem comes_readWord32Of {made : Option Number} {number : Result Number}
    (comes : Comes made rest number) : Comes (made >>= word32?) rest (readWord32Of number) := by
  obtain ⟨rfl, fault, rfl⟩ | ⟨n, rfl, rfl⟩ := comes.cases
  · exact .error fault rest
  · show Comes (word32? n) rest (readWord32Of _)
    cases converted : n.toWord32 with
    | error why =>
        simp only [readWord32Of, word32?, converted]
        exact .error _ rest
    | ok word =>
        simp only [readWord32Of, word32?, converted]
        exact .ok word rest

theorem readWord32_of_isDigit (blank : IsBlank gap) (digit : isDigit b = true) (bytes : Bytes) :
    readWord32 (gap ++ b :: bytes) = readWord32Of (readNumber false (b :: bytes)) := by
  have notMinus : b ≠ 0x2D := by
    rintro rfl
    exact absurd digit (by decide)
  rw [readWord32, skipSpace_gap blank (solid_of_startsValue (startsValue_of_isDigit digit))]
  split
  · rename_i same
    cases same
  · rename_i same
    cases same
    exact absurd rfl notMinus
  · rename_i same
    cases same
    exact if_pos digit

theorem readWord32_refused (blank : IsBlank gap) (solid : isSpace b = false) (notMinus : b ≠ 0x2D)
    (notDigit : isDigit b = false) (bytes : Bytes) :
    ∃ fault, readWord32 (gap ++ b :: bytes) = .error fault := by
  rw [readWord32, skipSpace_gap blank solid]
  split
  · rename_i same
    cases same
  · rename_i same
    cases same
    exact absurd rfl notMinus
  · rename_i same
    cases same
    exact ⟨_, if_neg (ne_true_of_eq_false notDigit)⟩

theorem makes_readWord32 (number : IsNumber text) :
    ∃ made, Makes (fun _ => readWord32) text made := by
  cases number with
  | positive size =>
      obtain ⟨made, comes⟩ := local_readNumber false size
      obtain ⟨b, more, rfl, digit⟩ := size.starts
      refine ⟨made >>= word32?, fun _ gap rest blank ends _ => ?_⟩
      show Comes _ rest (readWord32 _)
      rw [List.cons_append, readWord32_of_isDigit blank digit]
      exact comes_readWord32Of (comes rest ends)
  | negative size =>
      obtain ⟨made, comes⟩ := local_readNumber true size
      refine ⟨made >>= word32?, fun _ gap rest blank ends _ => ?_⟩
      show Comes _ rest (readWord32 _)
      rw [List.cons_append, readWord32, skipSpace_gap blank rfl]
      exact comes_readWord32Of (comes rest ends)

theorem settles_readWord32 (derives : Derives .value text) :
    Settles (fun _ => readWord32) text := by
  by_cases number : IsNumber text
  · obtain ⟨made, makes⟩ := makes_readWord32 number
    exact makes.settles (number.compact.symm ▸ makes)
  · refine settles_of_refused derives fun b more starts solid _ gap blank =>
      readWord32_refused blank solid ?_ ?_ more
    · exact fun minus => number (derives.isNumber starts (.inl minus))
    · exact eq_false_of_ne_true fun digit => number (derives.isNumber starts (.inr digit))

/-! Strings -/

theorem Derives.isString (derives : Derives .value text) (starts : text.head? = some 0x22) :
    IsString text := by
  cases derives with
  | string string => exact string
  | number number => exact absurd starts (number.head?_ne rfl (by decide))
  | _ => cases starts

theorem comes_readText (string : IsString text) (expected : Shape) (blank : IsBlank gap)
    (rest : Bytes) :
    Comes (said? text) rest (readText expected (gap ++ (text ++ rest))) := by
  have read := comes_readString string rest
  obtain ⟨body, -, rfl⟩ := string
  rw [List.cons_append, List.cons_append, readText, skipSpace_gap blank rfl]
  exact read

theorem readText_refused (expected : Shape) (blank : IsBlank gap) (solid : isSpace b = false)
    (notQuote : b ≠ 0x22) (bytes : Bytes) :
    ∃ fault, readText expected (gap ++ b :: bytes) = .error fault := by
  rw [readText, skipSpace_gap blank solid]
  split
  · rename_i same
    cases same
  · rename_i same
    cases same
    exact absurd rfl notQuote
  · exact ⟨_, rfl⟩

/-! Names -/

section

variable {known : List String} {ofName? : String → Option α}

theorem comes_readKnown (string : IsString text) (rest : Bytes) :
    Comes (said? text >>= ofName?) rest (readKnown known ofName? (text.tail ++ rest)) := by
  unfold readKnown
  obtain ⟨made, fault, failed⟩ | ⟨name, made, read⟩ := (comes_readString string rest).cases
  · simp only [made, failed]
    exact .error fault rest
  · simp only [made, read]
    show Comes (ofName? name) rest _
    cases ofName? name with
    | none => exact .error _ rest
    | some value => exact .ok value rest

def unit? (text : Bytes) : Option Unit :=
  if text.head? = some 0x6E then some () else none

theorem comes_readUnit (derives : Derives .value text) (blank : IsBlank gap) (rest : Bytes) :
    Comes (unit? text) rest (readUnit (gap ++ (text ++ rest))) := by
  by_cases null : text.head? = some 0x6E
  · have word : text = wordNull := by
      cases derives with
      | null => rfl
      | number number => exact absurd null (number.head?_ne rfl (by decide))
      | string string => exact absurd null (string.head?_ne (by decide))
      | _ => cases null
    subst word
    rw [unit?, if_pos null, wordNull, List.cons_append, readUnit, skipSpace_gap blank rfl]
    exact Comes.ok () rest
  · obtain ⟨b, more, rfl, starts⟩ := derives.starts
    rw [unit?, if_neg null, List.cons_append, readUnit,
      skipSpace_gap blank (solid_of_startsValue starts)]
    split
    · exact .error _ rest
    · rename_i same
      cases same
      exact absurd rfl null
    · exact .error _ rest

/-- Behind the value of the only member of an object. -/
def endSole (value : α) (bytes : Bytes) : Result α :=
  match skipSpace bytes with
  | 0x7D :: rest => .ok (value, rest)
  | [] => .error (.behind .endInObject [])
  | rest => .error (.behind .expectedValue rest)

/-- The name that is the first member of an object, with null for its value, and the only one. -/
def soleOf (ofName? : String → Option α) : List (Bytes × Bytes) → Option α
  | [] => none
  | (name, text) :: others =>
      said? name >>= ofName? >>= fun value =>
        unit? text >>= fun _ => if others = [] then some value else none

/-- What is read from the name on depends on whether the object ends behind the value. -/
theorem comes_readSole (string : IsString name) (derives : Derives .value text)
    (blank : IsBlank gap) (blankBefore : IsBlank before) {tail : Bytes}
    {last : α → Option α} (closes : ∀ value, Comes (last value) rest (endSole value tail)) :
    Comes (said? name >>= ofName? >>= fun value => unit? text >>= fun _ => last value) rest
      (readSole known ofName? (name.tail ++ (gap ++ 0x3A :: (before ++ (text ++ tail))))) := by
  refine (comes_readKnown string _).bind fun value => ?_
  show Comes _ rest (skipColon _ >>= _ : Except Fault _)
  rw [skipColon_gap blank]
  exact (comes_readUnit derives blankBefore tail).bind fun _ => closes value

theorem skipSpace_string (blank : IsBlank gap) (string : IsString name) (bytes : Bytes) :
    skipSpace (gap ++ (name ++ bytes)) = 0x22 :: (name.tail ++ bytes) := by
  obtain ⟨body, -, rfl⟩ := string
  rw [List.cons_append, List.cons_append, skipSpace_gap blank rfl]
  rfl

/-- Behind the brace of an object with at least one member. -/
theorem comes_members {pairs : List (Bytes × Bytes)} {inside : Bytes}
    (derives : Derives (.members pairs) inside) (rest : Bytes) :
    ∃ bytes, skipSpace (inside ++ 0x7D :: rest) = 0x22 :: bytes ∧
      Comes (soleOf ofName? pairs) rest (readSole known ofName? bytes) := by
  cases derives with
  | lastMember member =>
      obtain ⟨_, _, _, _, blank, string, blank', blankBefore, derives, blankBehind, rfl⟩ :=
        member.member_parts
      simp only [List.append_assoc, List.cons_append]
      refine ⟨_, skipSpace_string blank string _, ?_⟩
      refine comes_readSole string derives blank' blankBefore fun value => ?_
      rw [if_pos rfl, endSole, skipSpace_gap blankBehind rfl]
      exact .ok value rest
  | moreMembers member others =>
      obtain ⟨_, _, _, _, blank, string, blank', blankBefore, derives, blankBehind, rfl⟩ :=
        member.member_parts
      simp only [List.append_assoc, List.cons_append]
      refine ⟨_, skipSpace_string blank string _, ?_⟩
      refine comes_readSole string derives blank' blankBefore fun value => ?_
      rw [if_neg (by rintro rfl; cases others), endSole, skipSpace_gap blankBehind rfl]
      exact .error _ rest

theorem makes_readVariant {pairs : List (Bytes × Bytes)} {inside : Bytes}
    (holds : Derives (.members pairs) inside ∨ pairs = [] ∧ IsBlank inside) :
    Makes (fun _ => readVariant known ofName?) (0x7B :: (inside ++ [0x7D]))
      (soleOf ofName? pairs) := by
  intro _ gap rest blank ends _
  show Comes _ rest (readVariant known ofName? _)
  rw [List.cons_append, List.append_assoc, List.singleton_append, readVariant,
    skipSpace_gap blank rfl]
  obtain derives | ⟨rfl, blankInside⟩ := holds
  · obtain ⟨bytes, same, comes⟩ := comes_members derives rest
    simp only [same]
    exact comes
  · simp only [skipSpace_gap blankInside (show isSpace 0x7D = false from rfl)]
    exact .error _ rest

theorem soleOf_compact (derives : ∀ pair ∈ pairs, Derives .value pair.2) :
    soleOf ofName? (pairs.map fun pair => (pair.1, compact pair.2)) = soleOf ofName? pairs := by
  cases pairs with
  | nil => rfl
  | cons pair others =>
      have head := head_compact (derives pair List.mem_cons_self)
      simp only [List.map_cons, soleOf, unit?, head, List.map_eq_nil_iff]

theorem readVariant_refused (blank : IsBlank gap) (solid : isSpace b = false)
    (notQuote : b ≠ 0x22) (notBrace : b ≠ 0x7B) (bytes : Bytes) :
    ∃ fault, readVariant known ofName? (gap ++ b :: bytes) = .error fault := by
  rw [readVariant, skipSpace_gap blank solid]
  split
  · rename_i same
    cases same
  · rename_i same
    cases same
    exact absurd rfl notQuote
  · rename_i same
    cases same
    exact absurd rfl notBrace
  · exact ⟨_, rfl⟩

theorem settles_readVariant_of_object {pairs : List (Bytes × Bytes)} {inside : Bytes}
    (holds : Derives (.members pairs) inside ∨ pairs = [] ∧ IsBlank inside) :
    Settles (fun _ => readVariant known ofName?) (0x7B :: (inside ++ [0x7D])) := by
  refine (makes_readVariant holds).settles ?_
  rw [compact_bracket rfl rfl (compact_inside holds)]
  have derives : ∀ pair ∈ pairs, Derives .value pair.2 := by
    obtain derives | ⟨rfl, -⟩ := holds
    · exact fun pair member => (derives.members_parts pair member).2
    · exact fun pair member => absurd member List.not_mem_nil
  rw [← soleOf_compact derives]
  exact makes_readVariant (holds_compact holds List.map_eq_nil_iff.mpr)

theorem settles_readVariant (derives : Derives .value text) :
    Settles (fun _ => readVariant known ofName?) text := by
  by_cases quote : text.head? = some 0x22
  · have string := derives.isString quote
    have makes : Makes (fun _ => readVariant known ofName?) text (said? text >>= ofName?) := by
      intro _ gap rest blank ends _
      have comes : Comes (said? text >>= ofName?) rest
          (readKnown known ofName? (text.tail ++ rest)) := comes_readKnown string rest
      show Comes _ rest (readVariant known ofName? _)
      rw [readVariant, skipSpace_string blank string]
      exact comes
    exact makes.settles (string.compact.symm ▸ makes)
  · by_cases brace : text.head? = some 0x7B
    · cases derives with
      | object derives => exact settles_readVariant_of_object (.inl derives)
      | emptyObject blank => exact settles_readVariant_of_object (.inr ⟨rfl, blank⟩)
      | number number => exact absurd brace (number.head?_ne rfl (by decide))
      | string string => exact absurd brace (string.head?_ne (by decide))
      | _ => cases brace
    · refine settles_of_refused derives fun b more starts solid _ gap blank =>
        readVariant_refused blank solid ?_ ?_ more
      · rintro rfl
        exact quote starts
      · rintro rfl
        exact brace starts

end

end Json

/-! The fields of an envelope -/

theorem Topic.settles_read (derives : Json.Derives .value text) :
    Json.Settles (fun _ => Topic.read) text :=
  Json.settles_readVariant derives

namespace Envelope

theorem comes_readCreated (string : Json.IsString text) (blank : Json.IsBlank gap) (rest : Bytes) :
    Json.Comes (Json.said? text >>= fun said => (Calendar.readInstant said).toOption) rest
      (readCreated (gap ++ (text ++ rest))) := by
  unfold readCreated
  obtain ⟨made, fault, failed⟩ | ⟨said, made, read⟩ :=
    (Json.comes_readText string .instant blank rest).cases
  · simp only [made, failed]
    exact .error fault rest
  · simp only [made, read]
    show Json.Comes (Calendar.readInstant said).toOption rest _
    cases Calendar.readInstant said with
    | ok t => exact .ok t rest
    | error fault => exact .error _ rest

theorem settles_readCreated (derives : Json.Derives .value text) :
    Json.Settles (fun _ => readCreated) text := by
  by_cases quote : text.head? = some 0x22
  · have string := derives.isString quote
    have makes : Json.Makes (fun _ => readCreated) text
        (Json.said? text >>= fun said => (Calendar.readInstant said).toOption) :=
      fun _ gap rest blank _ _ => comes_readCreated string blank rest
    exact makes.settles (string.compact.symm ▸ makes)
  · refine Json.settles_of_refused derives fun b more starts solid _ gap blank => ?_
    obtain ⟨fault, failed⟩ := Json.readText_refused .instant blank solid
      (by rintro rfl; exact quote starts) more
    exact ⟨fault, by rw [readCreated, failed]⟩

theorem settles_readPayload (derives : Json.Derives .value text) :
    Json.Settles readPayload text :=
  derives.settled 126

end Envelope

end Heartbeat
