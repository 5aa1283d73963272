import Heartbeat.Proofs.Json.Integers

/-!
What is printed is read back. That holds of all strings and of the integers of 64 bits, and so of
every value that is made of them and not nested too deeply.
-/

namespace Heartbeat.Json

/-- A value that can be read back under so many open brackets. -/
def Value.Fits : Nat → Value → Prop
  | _, .null => True
  | _, .boolean _ => True
  | _, .number (.integer n) => InRange n
  | _, .number (.float ..) => False
  | _, .string _ => True
  | 0, .array _ => False
  | depth + 1, .array items => ∀ item ∈ items, item.Fits depth
  | 0, .object _ => False
  | depth + 1, .object members =>
      members.Pairwise (·.1 < ·.1) ∧ ∀ member ∈ members, member.2.Fits depth

theorem starts_render {depth : Nat} {value : Value} (fits : value.Fits depth) :
    ∃ b more, value.render = b :: more ∧ startsValue b = true := by
  cases value with
  | null => exact ⟨_, _, rfl, rfl⟩
  | boolean flag => cases flag <;> exact ⟨_, _, rfl, rfl⟩
  | number n =>
      cases n with
      | integer n =>
          rw [Value.render, Number.text, integerText]
          split
          · exact ⟨_, _, rfl, rfl⟩
          · obtain ⟨b, more, same, digit⟩ := starts_toDigits n.natAbs
            exact ⟨b, more, same, startsValue_of_isDigit digit⟩
      | float negative size => simp only [Value.Fits] at fits
  | string text => exact ⟨_, _, rfl, rfl⟩
  | array items => exact ⟨_, _, rfl, rfl⟩
  | object members => exact ⟨_, _, rfl, rfl⟩

/-- What is printed for the elements after the first one. -/
def renderMore (items : List Value) : Bytes :=
  items.flatMap fun item => 0x2C :: item.render

theorem renderItems_cons (item : Value) (items : List Value) :
    renderItems (item :: items) = item.render ++ renderMore items := by
  induction items generalizing item with
  | nil => exact (List.append_nil _).symm
  | cons next items ih =>
      rw [renderItems, ih next]
      · rfl
      · exact List.cons_ne_nil _ _

def renderMember (member : String × Value) : Bytes :=
  renderString member.1 ++ 0x3A :: member.2.render

def renderMoreMembers (members : List (String × Value)) : Bytes :=
  members.flatMap fun member => 0x2C :: renderMember member

theorem renderMembers_cons (member : String × Value) (members : List (String × Value)) :
    renderMembers (member :: members) = renderMember member ++ renderMoreMembers members := by
  induction members generalizing member with
  | nil => exact (List.append_nil _).symm
  | cons next members ih =>
      rw [renderMembers, ih next]
      · simp only [renderMember, renderMoreMembers, List.flatMap_cons, List.append_assoc,
          List.cons_append]
      · exact List.cons_ne_nil _ _

theorem nextElement_of_starts (starts : startsValue b = true) (bytes : Bytes) :
    nextElement true (b :: bytes) = .ok (.element (b :: bytes)) := by
  unfold nextElement
  rw [skipSpace_cons (solid_of_startsValue starts)]
  split
  · rename_i same
    cases same
  · rename_i same
    cases same
    exact absurd starts (by decide)
  · rename_i same
    cases same
    exact absurd starts (by decide)
  · rfl

theorem nextElement_comma (starts : startsValue b = true) (bytes : Bytes) :
    nextElement false (0x2C :: b :: bytes) = .ok (.element (b :: bytes)) := by
  unfold nextElement
  rw [skipSpace_cons rfl]
  simp only
  rw [if_neg Bool.false_ne_true, skipSpace_cons (solid_of_startsValue starts)]
  split
  · rename_i same
    cases same
  · rename_i same
    cases same
    exact absurd starts (by decide)
  · rfl

/-- A reader that reads back what is printed for these values. -/
def ReadsBack (read : Bytes → Result Value) (value : Value) : Prop :=
  ∀ rest, Ends rest → read (value.render ++ rest) = .ok (value, rest)

theorem ends_renderMore (items : List Value) (rest : Bytes) :
    Ends (renderMore items ++ 0x5D :: rest) := by
  cases items with
  | nil => exact ends_cons rfl rest
  | cons item items => exact ends_cons rfl _

theorem readElements_renderMore {read : Bytes → Result Value} {items : List Value}
    (readsBack : ∀ item ∈ items, ReadsBack read item)
    (starts : ∀ item ∈ items, ∃ b more, item.render = b :: more ∧ startsValue b = true)
    (held : List Value) (rest : Bytes) {fuel : Nat} (enough : items.length < fuel) :
    readElements (readItem read) fuel false held (renderMore items ++ 0x5D :: rest) =
      .ok (items.reverse ++ held, rest) := by
  induction items generalizing held fuel with
  | nil =>
      obtain ⟨fuel, rfl⟩ := Nat.exists_eq_succ_of_ne_zero (Nat.ne_of_gt enough)
      rfl
  | cons item items ih =>
      obtain ⟨fuel, rfl⟩ := Nat.exists_eq_succ_of_ne_zero (Nat.ne_of_gt (Nat.zero_lt_of_lt enough))
      obtain ⟨b, more, same, start⟩ := starts item List.mem_cons_self
      have back := readsBack item List.mem_cons_self _ (ends_renderMore items rest)
      have next := nextElement_comma start (more ++ (renderMore items ++ 0x5D :: rest))
      rw [← List.cons_append, ← same] at next
      have opened : renderMore (item :: items) ++ 0x5D :: rest =
          0x2C :: (item.render ++ (renderMore items ++ 0x5D :: rest)) := by
        rw [renderMore, List.flatMap_cons, List.append_assoc]
        rfl
      rw [opened, readElements, next]
      simp only [readItem, back, Except.map]
      rw [ih (fun i member => readsBack i (List.mem_cons_of_mem _ member))
        (fun i member => starts i (List.mem_cons_of_mem _ member)) _
        (Nat.lt_of_succ_lt_succ enough), List.reverse_cons, List.append_assoc]
      rfl

theorem readElements_renderItems {read : Bytes → Result Value} {items : List Value}
    (readsBack : ∀ item ∈ items, ReadsBack read item)
    (starts : ∀ item ∈ items, ∃ b more, item.render = b :: more ∧ startsValue b = true)
    (rest : Bytes) {fuel : Nat} (enough : items.length < fuel) :
    readElements (readItem read) fuel true [] (renderItems items ++ 0x5D :: rest) =
      .ok (items.reverse, rest) := by
  obtain ⟨fuel, rfl⟩ := Nat.exists_eq_succ_of_ne_zero (Nat.ne_of_gt (Nat.zero_lt_of_lt enough))
  cases items with
  | nil => rfl
  | cons item items =>
      obtain ⟨b, more, same, start⟩ := starts item List.mem_cons_self
      have back := readsBack item List.mem_cons_self _ (ends_renderMore items rest)
      have next := nextElement_of_starts start (more ++ (renderMore items ++ 0x5D :: rest))
      rw [← List.cons_append, ← same] at next
      rw [renderItems_cons, List.append_assoc, readElements, next]
      simp only [readItem, back, Except.map]
      rw [readElements_renderMore (fun i member => readsBack i (List.mem_cons_of_mem _ member))
        (fun i member => starts i (List.mem_cons_of_mem _ member)) _ _
        (Nat.lt_of_succ_lt_succ enough), List.reverse_cons]

/-- Names that come in order are kept in that order. -/
theorem insertMember_last {name : String} {held : List (String × Value)}
    (last : ∀ member ∈ held, member.1 < name) (value : Value) :
    insertMember name value held = held ++ [(name, value)] := by
  induction held with
  | nil => rfl
  | cons member held ih =>
      have before := last member List.mem_cons_self
      obtain ⟨first, old⟩ := member
      rw [insertMember, if_neg (String.lt_asymm before), if_neg (fun same => ?_),
        ih fun m later => last m (List.mem_cons_of_mem _ later)]
      · rfl
      · rw [same] at before
        exact String.lt_irrefl first before

theorem readString_renderMember (member : String × Value) (rest : Bytes) :
    ∃ bytes, renderMember member ++ rest = 0x22 :: bytes ∧
      readString bytes = .ok (member.1, 0x3A :: (member.2.render ++ rest)) := by
  obtain ⟨bytes, same, named⟩ :=
    readString_renderString member.1 (0x3A :: (member.2.render ++ rest))
  refine ⟨bytes, ?_, named⟩
  rw [renderMember, List.append_assoc]
  exact same

theorem readMember_renderMember {read : Bytes → Result Value} {member : String × Value}
    (readsBack : ReadsBack read member.2) (held : List (String × Value)) (ends : Ends rest) :
    ∃ bytes, renderMember member ++ rest = 0x22 :: bytes ∧
      readMember read held bytes = .ok (insertMember member.1 member.2 held, rest) := by
  obtain ⟨bytes, same, named⟩ := readString_renderMember member rest
  have colon : skipColon (0x3A :: (member.2.render ++ rest)) = .ok (member.2.render ++ rest) :=
    skipColon_gap isBlank_nil _
  refine ⟨bytes, same, ?_⟩
  simp only [readMember, named, colon, readsBack rest ends, bind, Except.bind]
  rfl

theorem ends_renderMoreMembers (members : List (String × Value)) (rest : Bytes) :
    Ends (renderMoreMembers members ++ 0x7D :: rest) := by
  cases members with
  | nil => exact ends_cons rfl rest
  | cons member members => exact ends_cons rfl _

section

variable {member : α → Bytes → Result α} {held held' : α} {bytes rest : Bytes}

theorem readMembers_first (took : member held bytes = .ok (held', rest)) (fuel : Nat) :
    readMembers member (fuel + 1) true held (0x22 :: bytes) =
      readMembers member fuel false held' rest := by
  have next : nextMember true (0x22 :: bytes) = .ok (.element bytes) := rfl
  rw [readMembers, next]
  simp only [took]

theorem readMembers_next (took : member held bytes = .ok (held', rest)) (fuel : Nat) :
    readMembers member (fuel + 1) false held (0x2C :: 0x22 :: bytes) =
      readMembers member fuel false held' rest := by
  have next : nextMember false (0x2C :: 0x22 :: bytes) = .ok (.element bytes) := rfl
  rw [readMembers, next]
  simp only [took]

theorem readMembers_end (member : α → Bytes → Result α) (fuel : Nat) (first : Bool) (held : α)
    (rest : Bytes) : readMembers member (fuel + 1) first held (0x7D :: rest) = .ok (held, rest) :=
  rfl

end

theorem renderMoreMembers_cons (member : String × Value) (members : List (String × Value))
    (rest : Bytes) :
    renderMoreMembers (member :: members) ++ rest =
      0x2C :: (renderMember member ++ (renderMoreMembers members ++ rest)) := by
  rw [renderMoreMembers, List.flatMap_cons, List.append_assoc]
  rfl

theorem readMembers_renderMoreMembers {read : Bytes → Result Value}
    {members held : List (String × Value)}
    (readsBack : ∀ member ∈ members, ReadsBack read member.2)
    (sorted : (held ++ members).Pairwise (·.1 < ·.1)) (rest : Bytes) {fuel : Nat}
    (enough : members.length < fuel) :
    readMembers (readMember read) fuel false held (renderMoreMembers members ++ 0x7D :: rest) =
      .ok (held ++ members, rest) := by
  induction members generalizing held fuel with
  | nil =>
      obtain ⟨fuel, rfl⟩ := Nat.exists_eq_succ_of_ne_zero (Nat.ne_of_gt enough)
      rw [List.append_nil]
      exact readMembers_end ..
  | cons member members ih =>
      obtain ⟨fuel, rfl⟩ := Nat.exists_eq_succ_of_ne_zero (Nat.ne_of_gt (Nat.zero_lt_of_lt enough))
      obtain ⟨bytes, same, back⟩ := readMember_renderMember
        (readsBack member List.mem_cons_self) held (ends_renderMoreMembers members rest)
      have last : ∀ m ∈ held, m.1 < member.1 := fun m before =>
        (List.pairwise_append.mp sorted).2.2 m before member List.mem_cons_self
      rw [insertMember_last last, Prod.eta] at back
      rw [List.append_cons] at sorted
      rw [renderMoreMembers_cons, same, readMembers_next back, List.append_cons held member members]
      exact ih (fun m later => readsBack m (List.mem_cons_of_mem _ later)) sorted
        (Nat.lt_of_succ_lt_succ enough)

theorem readMembers_renderMembers {read : Bytes → Result Value}
    {members : List (String × Value)}
    (readsBack : ∀ member ∈ members, ReadsBack read member.2)
    (sorted : members.Pairwise (·.1 < ·.1)) (rest : Bytes) {fuel : Nat}
    (enough : members.length < fuel) :
    readMembers (readMember read) fuel true [] (renderMembers members ++ 0x7D :: rest) =
      .ok (members, rest) := by
  obtain ⟨fuel, rfl⟩ := Nat.exists_eq_succ_of_ne_zero (Nat.ne_of_gt (Nat.zero_lt_of_lt enough))
  cases members with
  | nil => exact readMembers_end ..
  | cons member members =>
      obtain ⟨bytes, same, back⟩ := readMember_renderMember
        (readsBack member List.mem_cons_self) [] (ends_renderMoreMembers members rest)
      rw [renderMembers_cons, List.append_assoc, same, readMembers_first back]
      exact readMembers_renderMoreMembers
        (fun m later => readsBack m (List.mem_cons_of_mem _ later)) sorted rest
        (Nat.lt_of_succ_lt_succ enough)

theorem readWith_of_scalar (starts : startsValue b = true) (notList : b ≠ 0x5B)
    (notObject : b ≠ 0x7B) (fuel : Nat) (inner : Option (Bytes → Result Value)) (bytes : Bytes) :
    readWith fuel inner (b :: bytes) = readScalar (b :: bytes) := by
  unfold readWith
  rw [skipSpace_cons (solid_of_startsValue starts)]
  split
  · rename_i same
    cases same
    exact absurd rfl notList
  · rename_i same
    cases same
    exact absurd rfl notObject
  · rfl

/-! A text is longer than what it lists -/

theorem length_flatMap_of_mem {f : α → List β} {items : List α} (member : item ∈ items) :
    (f item).length ≤ (items.flatMap f).length := by
  rw [List.flatMap_def]
  exact (List.sublist_flatten_of_mem (List.mem_map_of_mem member)).length_le

theorem length_le_flatMap {f : α → List β} {items : List α} (some : ∀ item, f item ≠ []) :
    items.length ≤ (items.flatMap f).length := by
  induction items with
  | nil => exact Nat.le_refl 0
  | cons item items ih =>
      have positive := List.length_pos_iff.mpr (some item)
      rw [List.flatMap_cons, List.length_append, List.length_cons]
      omega

theorem length_renderItems {items : List Value}
    (starts : ∀ item ∈ items, ∃ b more, item.render = b :: more ∧ startsValue b = true) :
    items.length ≤ (renderItems items).length ∧
      ∀ item ∈ items, item.render.length ≤ (renderItems items).length := by
  cases items with
  | nil => exact ⟨Nat.le_refl 0, fun _ member => absurd member List.not_mem_nil⟩
  | cons first items =>
      obtain ⟨b, more, same, -⟩ := starts first List.mem_cons_self
      rw [renderItems_cons, List.length_append, List.length_cons]
      have rest : items.length ≤ (renderMore items).length :=
        length_le_flatMap fun _ => List.cons_ne_nil _ _
      have positive : 0 < first.render.length := by
        rw [same]
        exact Nat.succ_pos _
      refine ⟨by omega, fun item member => ?_⟩
      rcases List.mem_cons.mp member with rfl | later
      · omega
      · have part : (0x2C :: item.render).length ≤ (renderMore items).length :=
          length_flatMap_of_mem (f := fun item : Value => 0x2C :: item.render) later
        rw [List.length_cons] at part
        omega

theorem length_renderMembers (members : List (String × Value)) :
    members.length ≤ (renderMembers members).length ∧
      ∀ member ∈ members, member.2.render.length ≤ (renderMembers members).length := by
  cases members with
  | nil => exact ⟨Nat.le_refl 0, fun _ member => absurd member List.not_mem_nil⟩
  | cons first members =>
      have value : ∀ member : String × Value,
          member.2.render.length < (renderMember member).length := by
        intro member
        rw [renderMember, List.length_append, List.length_cons]
        omega
      rw [renderMembers_cons, List.length_append, List.length_cons]
      have rest : members.length ≤ (renderMoreMembers members).length :=
        length_le_flatMap fun _ => List.cons_ne_nil _ _
      have inFirst := value first
      refine ⟨by omega, fun member inside => ?_⟩
      rcases List.mem_cons.mp inside with rfl | later
      · omega
      · have part : (0x2C :: renderMember member).length ≤ (renderMoreMembers members).length :=
          length_flatMap_of_mem (f := fun member => 0x2C :: renderMember member) later
        have inMember := value member
        rw [List.length_cons] at part
        omega

theorem readsBack_of_scalar {value : Value} {b : UInt8} {more : Bytes}
    (same : value.render = b :: more) (starts : startsValue b = true) (notList : b ≠ 0x5B)
    (notObject : b ≠ 0x7B) (readsBack : ReadsBack readScalar value) (fuel depth : Nat) :
    ReadsBack (readValue fuel depth) value := by
  intro rest ends
  have scalar : ∀ inner, readWith fuel inner (value.render ++ rest) = .ok (value, rest) := by
    intro inner
    have back := readsBack rest ends
    rw [same, List.cons_append] at back ⊢
    rw [readWith_of_scalar starts notList notObject, back]
  cases depth with
  | zero => exact scalar _
  | succ depth => exact scalar _

theorem readsBack_integer {n : Int} (inRange : InRange n) (fuel depth : Nat) :
    ReadsBack (readValue fuel depth) (.number (.integer n)) := by
  have head : ∃ b more, asciiBytes (integerText n) = b :: more ∧
      (b = 0x2D ∨ isDigit b = true) := by
    rw [integerText]
    split
    · exact ⟨0x2D, _, rfl, .inl rfl⟩
    · obtain ⟨b, more, same, digit⟩ := starts_toDigits n.natAbs
      exact ⟨b, more, same, .inr digit⟩
  obtain ⟨b, more, same, sign⟩ := head
  have printed : (Value.number (.integer n)).render = b :: more := same
  refine readsBack_of_scalar printed ?_ ?_ ?_ (fun rest ends => readScalar_integer inRange ends) _ _
  · rcases sign with rfl | digit
    · rfl
    · exact startsValue_of_isDigit digit
  · rintro rfl
    exact absurd sign (by decide)
  · rintro rfl
    exact absurd sign (by decide)

theorem readsBack_string (text : String) (fuel depth : Nat) :
    ReadsBack (readValue fuel depth) (.string text) := by
  have printed : (Value.string text).render = renderString text := rfl
  refine readsBack_of_scalar printed rfl (by decide) (by decide) (fun rest _ => ?_) _ _
  obtain ⟨body, same, read⟩ := readString_renderString text rest
  rw [printed, same]
  change (readString body).map _ = _
  rw [read]
  rfl

def Value.IsFlat : Value → Prop
  | .array _ => False
  | .object _ => False
  | _ => True

theorem readsBack_of_isFlat {depth : Nat} {value : Value} (flat : value.IsFlat)
    (fits : value.Fits depth) (fuel : Nat) : ReadsBack (readValue fuel depth) value := by
  cases value with
  | null => exact readsBack_of_scalar rfl rfl (by decide) (by decide) (fun _ _ => rfl) _ _
  | boolean flag =>
      cases flag with
      | false => exact readsBack_of_scalar rfl rfl (by decide) (by decide) (fun _ _ => rfl) _ _
      | true => exact readsBack_of_scalar rfl rfl (by decide) (by decide) (fun _ _ => rfl) _ _
  | number n =>
      cases n with
      | integer n =>
          simp only [Value.Fits] at fits
          exact readsBack_integer fits fuel depth
      | float negative size => simp only [Value.Fits] at fits
  | string text => exact readsBack_string text fuel depth
  | array items => exact flat.elim
  | object members => exact flat.elim

/-- What is printed for a value is read back as that value. -/
theorem readValue_render {depth fuel : Nat} {value : Value} (fits : value.Fits depth)
    (enough : value.render.length < fuel) : ReadsBack (readValue fuel depth) value := by
  induction depth generalizing value with
  | zero =>
      cases value with
      | array items => simp only [Value.Fits] at fits
      | object members => simp only [Value.Fits] at fits
      | _ => exact readsBack_of_isFlat (by trivial) fits fuel
  | succ depth ih =>
      cases value with
      | array items =>
          intro rest _
          simp only [Value.Fits] at fits
          have starts := fun item member => starts_render (fits item member)
          obtain ⟨count, sizes⟩ := length_renderItems starts
          simp only [Value.render, List.length_append, List.length_cons] at enough
          have back : ∀ item ∈ items, ReadsBack (readValue fuel depth) item := fun item member =>
            ih (fits item member) (by have := sizes item member; omega)
          have few : items.length < fuel := by omega
          have all := readElements_renderItems back starts rest few
          have opened : (Value.array items).render ++ rest =
              0x5B :: (renderItems items ++ 0x5D :: rest) := by
            rw [Value.render, List.append_assoc]
            rfl
          rw [opened, readValue, readWith, skipSpace_cons rfl]
          simp only [all, Except.map, List.reverse_reverse]
      | object members =>
          intro rest _
          simp only [Value.Fits] at fits
          obtain ⟨sorted, each⟩ := fits
          obtain ⟨count, sizes⟩ := length_renderMembers members
          simp only [Value.render, List.length_append, List.length_cons] at enough
          have back : ∀ member ∈ members, ReadsBack (readValue fuel depth) member.2 :=
            fun member inside =>
              ih (each member inside) (by have := sizes member inside; omega)
          have few : members.length < fuel := by omega
          have all := readMembers_renderMembers back sorted rest few
          have opened : (Value.object members).render ++ rest =
              0x7B :: (renderMembers members ++ 0x7D :: rest) := by
            rw [Value.render, List.append_assoc]
            rfl
          rw [opened, readValue, readWith, skipSpace_cons rfl]
          simp only [all, Except.map]
      | _ => exact readsBack_of_isFlat (by trivial) fits fuel

end Heartbeat.Json
