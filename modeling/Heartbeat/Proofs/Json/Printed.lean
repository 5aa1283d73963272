import Heartbeat.Proofs.Json.Compact
import Heartbeat.Proofs.Json.Printing

/-!
Whatever is printed is JSON. That holds of every value, of floats and of integers of any size as
well, whether or not the value could be read back.
-/

namespace Heartbeat.Json

/-! Numbers -/

theorem asciiBytes_cons (c : Char) (text : List Char) :
    asciiBytes (c :: text) = c.toNat.toUInt8 :: asciiBytes text :=
  rfl

theorem asciiBytes_append (text text' : List Char) :
    asciiBytes (text ++ text') = asciiBytes text ++ asciiBytes text' :=
  List.map_append

/-- Digits of which the first one is not a zero. -/
structure Leading (digits : List Char) : Prop where
  all : ∀ c ∈ digits, c.isDigit = true
  head : ∃ c more, digits = c :: more ∧ c ≠ '0'

section

variable {digits : List Char}

theorem leading_toDigits {n : Nat} (positive : 0 < n) : Leading (Nat.toDigits 10 n) where
  all := isDigit_toDigits n
  head := head_toDigits positive

theorem Leading.take (leading : Leading digits) {n : Nat} (positive : 0 < n) :
    Leading (digits.take n) where
  all := fun c member => leading.all c (List.mem_of_mem_take member)
  head := by
    obtain ⟨c, more, rfl, notZero⟩ := leading.head
    obtain ⟨n, rfl⟩ := Nat.exists_eq_succ_of_ne_zero (Nat.ne_of_gt positive)
    exact ⟨c, more.take n, rfl, notZero⟩

theorem Leading.append (leading : Leading digits) (all : ∀ c ∈ digits', c.isDigit = true) :
    Leading (digits ++ digits') where
  all := List.forall_mem_append.mpr ⟨leading.all, all⟩
  head := by
    obtain ⟨c, more, rfl, notZero⟩ := leading.head
    exact ⟨c, more ++ digits', rfl, notZero⟩

theorem Leading.isWhole (leading : Leading digits) : IsWhole (asciiBytes digits) := by
  have all := leading.all
  obtain ⟨c, more, rfl, notZero⟩ := leading.head
  have digit := all c List.mem_cons_self
  exact .digits (isDigit_toUInt8 digit) (toUInt8_ne_zero digit notZero)
    (allDigits_asciiBytes fun d member => all d (List.mem_cons_of_mem _ member))

theorem isFraction_asciiBytes (some : digits ≠ []) (all : ∀ c ∈ digits, c.isDigit = true) :
    IsFraction (asciiBytes ('.' :: digits)) :=
  isFraction_of_digits (fun none => some (List.map_eq_nil_iff.mp none)) (allDigits_asciiBytes all)

theorem isDigit_zeros (n : Nat) : ∀ c ∈ Decimal.zeros n, c.isDigit = true := by
  intro c member
  rw [List.eq_of_mem_replicate member]
  rfl

/-- A number without an exponent. -/
theorem isSize_of_point {whole fraction : List Char} (isWhole : IsWhole (asciiBytes whole))
    (some : fraction ≠ []) (all : ∀ c ∈ fraction, c.isDigit = true) :
    IsSize (asciiBytes (whole ++ '.' :: fraction)) := by
  refine ⟨_, _, [], isWhole, isFraction_asciiBytes some all, .none, ?_⟩
  rw [asciiBytes_append, List.append_nil]

theorem isWhole_zero : IsWhole (asciiBytes ['0']) :=
  .zero

theorem isSize_positional (leading : Leading digits) (point : Int) :
    IsSize (asciiBytes (Decimal.positional digits point)) := by
  have some : digits ≠ [] := by
    obtain ⟨c, more, rfl, -⟩ := leading.head
    exact List.cons_ne_nil c more
  unfold Decimal.positional
  by_cases below : point ≤ 0
  · rw [if_pos below, List.append_assoc, List.cons_append, List.cons_append, List.nil_append]
    exact isSize_of_point isWhole_zero (List.append_ne_nil_of_right_ne_nil _ some)
      (List.forall_mem_append.mpr ⟨isDigit_zeros _, leading.all⟩)
  · rw [if_neg below]
    by_cases all : digits.length ≤ point.toNat
    · simp only [if_pos all]
      exact isSize_of_point (leading.append (isDigit_zeros _)).isWhole (List.cons_ne_nil _ [])
        (List.forall_mem_singleton.mpr rfl)
    · simp only [if_neg all]
      rw [List.append_assoc]
      have more : digits.drop point.toNat ≠ [] := by
        rw [ne_eq, List.drop_eq_nil_iff]
        exact all
      exact isSize_of_point (leading.take (by omega)).isWhole more
        fun c member => leading.all c (List.mem_of_mem_drop member)

theorem isExponent_toDigits {sign : Char} (isSign : sign = '-' ∨ sign = '+') (n : Nat) :
    IsExponent (asciiBytes ('e' :: sign :: Nat.toDigits 10 n)) := by
  obtain ⟨b, more, same, digit⟩ := starts_toDigits n
  have all := allDigits_asciiBytes (isDigit_toDigits n)
  rw [same] at all
  rw [asciiBytes_cons, asciiBytes_cons, same]
  have mark : [sign.toNat.toUInt8] = [] ∨ [sign.toNat.toUInt8] = [0x2B] ∨
      [sign.toNat.toUInt8] = [0x2D] := by
    rcases isSign with rfl | rfl
    · exact .inr (.inr rfl)
    · exact .inr (.inl rfl)
  exact .digits (.inl rfl) mark digit fun c member => all c (List.mem_cons_of_mem _ member)

theorem isSize_scientific (leading : Leading digits) (exponent : Int) :
    IsSize (asciiBytes (Decimal.scientific digits exponent)) := by
  have fraction :
      IsFraction (asciiBytes (if digits.length ≤ 1 then [] else '.' :: digits.drop 1)) := by
    by_cases single : digits.length ≤ 1
    · rw [if_pos single]
      exact .none
    · rw [if_neg single]
      refine isFraction_asciiBytes ?_ fun c member => leading.all c (List.mem_of_mem_drop member)
      rw [ne_eq, List.drop_eq_nil_iff]
      exact single
  have sign : (if exponent < 0 then '-' else '+') = '-' ∨
      (if exponent < 0 then '-' else '+') = '+' := by
    split
    · exact .inl rfl
    · exact .inr rfl
  refine ⟨_, _, _, (leading.take Nat.one_pos).isWhole, fraction,
    isExponent_toDigits sign exponent.natAbs, ?_⟩
  unfold Decimal.scientific
  simp only [asciiBytes_append, asciiBytes_cons, List.append_assoc, List.cons_append,
    List.nil_append]

theorem isSize_write (layout : Decimal.Layout) (number : Decimal.Scaled) :
    IsSize (asciiBytes (layout.write number)) := by
  unfold Decimal.Layout.write
  by_cases zero : number.digits = 0
  · simp only [if_pos zero]
    exact isSize_of_point isWhole_zero (List.cons_ne_nil '0' [])
      (List.forall_mem_singleton.mpr rfl)
  · have leading := leading_toDigits (Nat.pos_of_ne_zero zero)
    simp only [if_neg zero]
    split
    · exact isSize_positional leading _
    · exact isSize_scientific leading _

theorem isSize_toDigits (n : Nat) : IsSize (asciiBytes (Nat.toDigits 10 n)) := by
  have isWhole : IsWhole (asciiBytes (Nat.toDigits 10 n)) := by
    rcases Nat.eq_zero_or_pos n with rfl | positive
    · exact .zero
    · exact (leading_toDigits positive).isWhole
  exact ⟨_, [], [], isWhole, .none, .none, (List.append_nil _).symm⟩

end

theorem isNumber_signed {text : List Char} (size : IsSize (asciiBytes text)) (negative : Prop)
    [Decidable negative] :
    IsNumber (asciiBytes ((if negative then ['-'] else []) ++ text)) := by
  by_cases sign : negative
  · rw [if_pos sign]
    exact .negative size
  · rw [if_neg sign]
    exact .positive size

theorem isNumber_text (n : Number) : IsNumber (asciiBytes n.text) := by
  cases n with
  | integer n => exact isNumber_signed (isSize_toDigits n.natAbs) (n < 0)
  | float negative size => exact isNumber_signed (isSize_write floatLayout _) (negative = true)

/-! Values -/

theorem isString_renderString (text : String) : IsString (renderString text) :=
  (writes_renderString text).isString

theorem renderMembers_eq (members : List (String × Value)) :
    renderMembers members =
      membersText (members.map fun member => (renderString member.1, member.2.render)) := by
  induction members with
  | nil => rfl
  | cons member members ih =>
      cases members with
      | nil => rfl
      | cons next members => exact congrArg (renderMember member ++ 0x2C :: ·) ih

theorem derives_element (derives : Derives .value text) : Derives (.element text) text := by
  have element := Derives.element isBlank_nil derives isBlank_nil
  rw [List.append_nil] at element
  exact element

theorem derives_renderItems {items : List Value} (some : items ≠ [])
    (derives : ∀ item ∈ items, Derives .value item.render) :
    Derives (.elements (items.map Value.render)) (renderItems items) := by
  induction items with
  | nil => exact absurd rfl some
  | cons item items ih =>
      obtain ⟨first, others⟩ := List.forall_mem_cons.mp derives
      cases items with
      | nil => exact .lastElement (derives_element first)
      | cons next items =>
          exact .moreElements (derives_element first) (ih (List.cons_ne_nil _ _) others)

theorem derives_renderMembers {members : List (String × Value)} (some : members ≠ [])
    (derives : ∀ member ∈ members, Derives .value member.2.render) :
    Derives (.members (members.map fun member => (renderString member.1, member.2.render)))
      (renderMembers members) := by
  rw [renderMembers_eq]
  refine derives_membersText (fun none => some (List.map_eq_nil_iff.mp none)) fun pair inside => ?_
  obtain ⟨member, known, rfl⟩ := List.mem_map.mp inside
  exact ⟨isString_renderString member.1, derives member known⟩

mutual

theorem derives_render : ∀ value : Value, Derives .value value.render
  | .null => .null
  | .boolean true => .yes
  | .boolean false => .no
  | .number n => .number (isNumber_text n)
  | .string text => .string (isString_renderString text)
  | .array items => by
      have derives := derives_items items
      cases items with
      | nil => exact .emptyList isBlank_nil
      | cons item items => exact .list (derives_renderItems (List.cons_ne_nil _ _) derives)
  | .object members => by
      have derives := derives_members members
      cases members with
      | nil => exact .emptyObject isBlank_nil
      | cons member members =>
          exact .object (derives_renderMembers (List.cons_ne_nil _ _) derives)

theorem derives_items : ∀ items : List Value, ∀ item ∈ items, Derives .value item.render
  | [] => fun _ inside => absurd inside List.not_mem_nil
  | item :: items => List.forall_mem_cons.mpr ⟨derives_render item, derives_items items⟩

theorem derives_members : ∀ members : List (String × Value),
    ∀ member ∈ members, Derives .value member.2.render
  | [] => fun _ inside => absurd inside List.not_mem_nil
  | (_, value) :: members =>
      List.forall_mem_cons.mpr ⟨derives_render value, derives_members members⟩

end

end Heartbeat.Json
