import Heartbeat.Proofs.Toml.Members
import Heartbeat.Toml.Table

/-!
What a document gives its tables. A value two names down, such as that of a key in a section, can
be given by dotted keys, in an inline table or under a header; it is there in the end exactly if it
was given in one of these ways, wherever that was.
-/

namespace Heartbeat.Toml

/-- Nothing that follows in a document adds to such a value. -/
def Value.isSettled : Value → Bool
  | .table kind _ => kind = .inline
  | .tables _ => false
  | _ => true

/-- What a table holds under a name. -/
def Value.member? (name : String) : Value → Option Value
  | .table _ members => Toml.member? name members
  | _ => none

/-- What a root holds two names down. -/
def inner? (place : String × String) (root : Members) : Option Value :=
  (member? place.1 root).bind (·.member? place.2)

/-- No name stands twice, in a root and in the tables in it. -/
structure Orderly (root : Members) : Prop where
  distinct : Distinct root
  tables : ∀ {name kind members}, member? name root = some (.table kind members) →
    Distinct members

theorem distinct_nil : Distinct [] :=
  List.nodup_nil

theorem orderly_nil : Orderly [] where
  distinct := distinct_nil
  tables := fun found => nomatch found

theorem Orderly.tail (orderly : Orderly ((name, value) :: root)) : Orderly root where
  distinct := (List.nodup_cons.mp orderly.distinct).2
  tables := fun found => orderly.tables (member?_cons_of_distinct orderly.distinct found)

theorem inner?_cons_of_orderly (orderly : Orderly ((name, value) :: root))
    (found : inner? place root = some held) : inner? place ((name, value) :: root) = some held := by
  obtain ⟨table, first, second⟩ := Option.bind_eq_some_iff.mp found
  rw [inner?, member?_cons_of_distinct orderly.distinct first]
  exact second

/-! Steps that give values -/

/-- All settled values of the new members were among the old ones, or are given now. -/
structure Grows (sound : Members → Prop) (find : ι → Members → Option Value)
    (gives : ι → Value → Prop) (old new : Members) : Prop where
  sound : sound new
  found : ∀ {place value}, value.isSettled = true →
    (find place new = some value ↔ find place old = some value ∨ gives place value)

section

variable {sound : Members → Prop} {find : ι → Members → Option Value}
  {gives gives' : ι → Value → Prop} {old new : Members}

theorem Grows.of_iff (grows : Grows sound find gives old new)
    (same : ∀ {place value}, gives place value ↔ gives' place value) :
    Grows sound find gives' old new where
  sound := grows.sound
  found := fun settled => by rw [grows.found settled, same]

theorem Grows.foldlM {step : Members → α → Option Members} {gives : α → ι → Value → Prop}
    {items : List α}
    (grows : ∀ item ∈ items, ∀ {old new}, sound old → step old item = some new →
      Grows sound find (gives item) old new)
    (start : sound old) (done : items.foldlM step old = some new) :
    Grows sound find (fun place value => ∃ item ∈ items, gives item place value) old new := by
  induction items generalizing old with
  | nil =>
      cases done
      refine ⟨start, fun settled => ⟨.inl, ?_⟩⟩
      rintro (found | ⟨item, inside, -⟩)
      · exact found
      · exact absurd inside List.not_mem_nil
  | cons item items ih =>
      rw [List.foldlM_cons] at done
      obtain ⟨next, first, done⟩ := Option.bind_eq_some_iff.mp done
      have here := grows item List.mem_cons_self start first
      have later := ih (fun other inside => grows other (List.mem_cons_of_mem _ inside))
        here.sound done
      refine ⟨later.sound, fun settled => ?_⟩
      rw [later.found settled, here.found settled, or_assoc]
      simp only [List.mem_cons, exists_eq_or_imp]

end

/-! One name down -/

section

variable {name : String} {value : Value} {old new : Members}

theorem Sets.grows (sets : Sets name value old new) (absent : member? name old = none) :
    Grows Distinct member? (fun other held => other = name ∧ held = value) old new where
  sound := sets.distinct
  found := by
    intro other held _
    rw [sets.lookup]
    by_cases same : other = name
    · subst same
      rw [if_pos rfl, absent]
      exact ⟨fun found => .inr ⟨rfl, (Option.some.inj found).symm⟩, fun found =>
        found.elim nofun fun given => congrArg some given.2.symm⟩
    · rw [if_neg same]
      exact ⟨.inl, fun found => found.elim id fun given => absurd given.1 same⟩

/-- A name that had no settled value and has none now. -/
theorem Sets.grows_nothing (sets : Sets name value old new) (open' : value.isSettled = false)
    (before : ∀ held ∈ member? name old, held.isSettled = false) :
    Grows Distinct member? (fun _ _ => False) old new where
  sound := sets.distinct
  found := by
    intro other held settled
    rw [sets.lookup, or_false]
    by_cases same : other = name
    · subst same
      rw [if_pos rfl]
      constructor
      · rintro ⟨⟩
        exact absurd (settled.symm.trans open') Bool.noConfusion
      · intro found
        exact absurd (settled.symm.trans (before held found)) Bool.noConfusion
    · rw [if_neg same]

end

/-! Going down -/

/-- What a descent makes of the value under the first name of its path. -/
inductive Enters (made : TableKind) (enters : TableKind → Bool)
    (change : TableKind → Members → Option Members) (path : List String) :
    Option Value → Value → Prop
  | make : descend made enters change path made [] = some members →
      Enters made enters change path none (.table made members)
  | enter : enters kind = true → descend made enters change path kind members = some members' →
      Enters made enters change path (some (.table kind members)) (.table kind members')
  | last : onLast (descend made enters change path .headed) items = some items' →
      Enters made enters change path (some (.tables items)) (.tables items')

section

variable {made : TableKind} {enters : TableKind → Bool}
  {change : TableKind → Members → Option Members} {path : List String} {kind : TableKind}
  {members members' : Members}

theorem sets_of_descend (distinct : Distinct members)
    (done : descend made enters change (name :: path) kind members = some members') :
    ∃ value, Sets name value members members' ∧
      Enters made enters change path (member? name members) value := by
  rw [descend] at done
  cases held : member? name members with
  | none =>
      rw [held] at done
      obtain ⟨inner, entered, rfl⟩ := Option.map_eq_some_iff.mp done
      exact ⟨_, sets_append distinct held _, .make entered⟩
  | some value =>
      rw [held] at done
      cases value with
      | table kind inner =>
          simp only at done
          split at done
          · rename_i allowed
            obtain ⟨inner', entered, rfl⟩ := Option.map_eq_some_iff.mp done
            exact ⟨_, sets_replaceMember distinct held _, .enter allowed entered⟩
          · cases done
      | tables items =>
          obtain ⟨items', entered, rfl⟩ := Option.map_eq_some_iff.mp done
          exact ⟨_, sets_replaceMember distinct held _, .last entered⟩
      | _ => cases done

theorem Enters.open_new (entered : Enters made enters change path old value)
    (notMade : made ≠ .inline) (notEntered : enters .inline = false) :
    value.isSettled = false := by
  cases entered with
  | make _ => exact decide_eq_false notMade
  | enter allowed _ =>
      refine decide_eq_false ?_
      rintro rfl
      exact absurd (allowed.symm.trans notEntered) Bool.noConfusion
  | last _ => rfl

theorem Enters.open_old (entered : Enters made enters change path old value)
    (notEntered : enters .inline = false) : ∀ held ∈ old, held.isSettled = false := by
  rintro held ⟨⟩
  cases entered with
  | enter allowed _ =>
      refine decide_eq_false ?_
      rintro rfl
      exact absurd (allowed.symm.trans notEntered) Bool.noConfusion
  | last _ => rfl

/-- Below the first name of its path, a descent gives nothing that is settled to what it passes. -/
theorem grows_descend (distinct : Distinct members) (notMade : made ≠ .inline)
    (notEntered : enters .inline = false)
    (done : descend made enters change (name :: path) kind members = some members') :
    Grows Distinct member? (fun _ _ => False) members members' := by
  obtain ⟨value, sets, entered⟩ := sets_of_descend distinct done
  exact sets.grows_nothing (entered.open_new notMade notEntered) (entered.open_old notEntered)

end

theorem onLast_none {change : Members → Option Members} (none : ∀ members, change members = none)
    (items : List Members) : onLast change items = Option.none := by
  induction items with
  | nil => rfl
  | cons members items ih =>
      cases items with
      | nil => rw [onLast, none, Option.map_none]
      | cons next items => rw [onLast, ih, Option.map_none]; exact nofun

/-! Pairs -/

theorem sets_of_addMember {dotted : Bool} {name : String} {value : Value} {kind : TableKind}
    {members members' : Members} (distinct : Distinct members)
    (done : addMember dotted name value kind members = some members') :
    Sets name value members members' ∧ member? name members = none ∧
      ((kind = .dotted) = (dotted = true)) := by
  unfold addMember at done
  split at done
  · cases done
  · rename_i same
    split at done
    · cases done
    · rename_i absent
      cases done
      exact ⟨sets_append distinct absent value, absent, Classical.not_not.mp same⟩

/-- Dotted keys add nothing to a table with a header. -/
theorem addMember_headed (name : String) (value : Value) (members : Members) :
    addMember true name value .headed members = none :=
  if_pos fun same => absurd (same.mpr rfl) TableKind.noConfusion

/-- The pair gives this value to this plain name. -/
def Pair.Names (pair : Pair) (name : String) (value : Value) : Prop :=
  pair = ⟨⟨[], name⟩, value⟩

theorem grows_addPair {kind : TableKind} {pair : Pair} {old new : Members}
    (distinct : Distinct old) (done : addPair kind old pair = some new) :
    Grows Distinct member? pair.Names old new := by
  obtain ⟨⟨parents, name⟩, value⟩ := pair
  unfold addPair at done
  cases parents with
  | nil =>
      rw [descend] at done
      obtain ⟨sets, absent, -⟩ := sets_of_addMember distinct done
      refine (sets.grows absent).of_iff fun {other held} => ?_
      simp only [Pair.Names, Pair.mk.injEq, Path.mk.injEq, true_and]
      exact and_congr eq_comm eq_comm
  | cons parent parents =>
      have grows : Grows Distinct member? (fun _ _ => False) old new :=
        grows_descend distinct TableKind.noConfusion rfl done
      refine grows.of_iff fun {other held} => ?_
      simp only [Pair.Names, Pair.mk.injEq, Path.mk.injEq, reduceCtorEq, false_and]

theorem grows_addPairs {kind : TableKind} {pairs : List Pair} {old new : Members}
    (distinct : Distinct old) (done : addPairs kind old pairs = some new) :
    Grows Distinct member? (fun name value => ⟨⟨[], name⟩, value⟩ ∈ pairs) old new := by
  unfold addPairs at done
  have grows : Grows Distinct member? (fun name value => ∃ pair ∈ pairs, pair.Names name value)
      old new :=
    Grows.foldlM (fun pair _ => grows_addPair) distinct done
  refine grows.of_iff fun {name value} => ?_
  exact ⟨fun ⟨pair, inside, names⟩ => names ▸ inside, fun inside => ⟨_, inside, rfl⟩⟩

/-! Two names down -/

/-- The value that a name of a root has now, with all that it had and with what is given. -/
structure Deepens (gives : String → Value → Prop) (old : Option Value) (new : Value) : Prop where
  distinct : ∀ {kind members}, new = .table kind members → Distinct members
  found : ∀ {key held}, held.isSettled = true →
    (new.member? key = some held ↔ old.bind (·.member? key) = some held ∨ gives key held)

section

variable {gives : String → Value → Prop} {name : String} {old new : Members} {value : Value}

theorem Sets.grows_inner (sets : Sets name value old new) (orderly : Orderly old)
    (deepens : Deepens gives (Toml.member? name old) value) :
    Grows Orderly inner? (fun place held => place.1 = name ∧ gives place.2 held) old new where
  sound := by
    refine ⟨sets.distinct, fun {other kind members} found => ?_⟩
    rw [sets.lookup] at found
    split at found
    · exact deepens.distinct (Option.some.inj found)
    · exact orderly.tables found
  found := by
    rintro ⟨other, key⟩ held settled
    simp only [inner?]
    rw [sets.lookup]
    by_cases same : other = name
    · subst same
      rw [if_pos rfl, Option.bind_some, deepens.found settled, eq_self, true_and]
    · rw [if_neg same]
      exact ⟨.inl, fun found => found.elim id fun given => absurd given.1 same⟩

theorem deepens_table {kind kind' : TableKind}
    (grows : Grows Distinct member? gives old new) :
    Deepens gives (some (.table kind old)) (.table kind' new) where
  distinct := fun same => by
    cases same
    exact grows.sound
  found := grows.found

theorem deepens_new_table {kind : TableKind} (grows : Grows Distinct member? gives [] new) :
    Deepens gives none (.table kind new) where
  distinct := fun same => by
    cases same
    exact grows.sound
  found := grows.found

theorem Enters.deepens {made : TableKind} {enters : TableKind → Bool}
    {change : TableKind → Members → Option Members} {path : List String}
    (entered : Enters made enters change path (Toml.member? name old) value)
    (orderly : Orderly old)
    (grows : ∀ {kind members members'}, Distinct members →
      descend made enters change path kind members = some members' →
        Grows Distinct Toml.member? gives members members')
    (last : ∀ {items items'},
      onLast (descend made enters change path .headed) items = some items' →
        ∀ {key held}, ¬ gives key held) :
    Deepens gives (Toml.member? name old) value := by
  generalize found : Toml.member? name old = before at entered
  cases entered with
  | make done => exact deepens_new_table (grows distinct_nil done)
  | enter _ done => exact deepens_table (grows (orderly.tables found) done)
  | last done =>
      refine ⟨nofun, fun _ => ⟨nofun, fun given => ?_⟩⟩
      exact given.elim nofun fun given => absurd given (last done)

end

/-- The pair gives this value to this key of this section, by its path or in an inline table. -/
def Pair.Gives (pair : Pair) (place : String × String) (value : Value) : Prop :=
  pair = ⟨⟨[place.1], place.2⟩, value⟩ ∨
    pair.path = ⟨[], place.1⟩ ∧ pair.value.member? place.2 = some value

/-- If it is a table, then no name stands twice in it. -/
def Value.IsOrderly (value : Value) : Prop :=
  ∀ {kind members}, value = .table kind members → Distinct members

theorem grows_addPair_root {pair : Pair} {old new : Members} (orderly : Orderly old)
    (isOrderly : pair.value.IsOrderly) (done : addPair .headed old pair = some new) :
    Grows Orderly inner? pair.Gives old new := by
  obtain ⟨⟨parents, name⟩, value⟩ := pair
  unfold addPair at done
  cases parents with
  | nil =>
      obtain ⟨sets, absent, -⟩ := sets_of_addMember orderly.distinct done
      have deepens : Deepens (fun key held => value.member? key = some held)
          (member? name old) value := by
        rw [absent]
        exact ⟨isOrderly, fun _ => ⟨.inr, fun found => found.elim nofun id⟩⟩
      refine (sets.grows_inner orderly deepens).of_iff fun {place held} => ?_
      simp only [Pair.Gives, Pair.mk.injEq, Path.mk.injEq, reduceCtorEq, false_and, false_or,
        true_and]
      exact and_congr_left fun _ => eq_comm
  | cons parent parents =>
      obtain ⟨value', sets, entered⟩ := sets_of_descend orderly.distinct done
      cases parents with
      | nil =>
          have deepens : Deepens (fun key held => key = name ∧ held = value)
              (member? parent old) value' := by
            refine entered.deepens orderly (fun distinct done => ?_) fun {items items'} done => ?_
            · obtain ⟨sets, absent, -⟩ := sets_of_addMember distinct done
              exact sets.grows absent
            · cases (onLast_none (addMember_headed name value) items).symm.trans done
          refine (sets.grows_inner orderly deepens).of_iff fun {place held} => ?_
          simp only [Pair.Gives, Pair.mk.injEq, Path.mk.injEq, List.cons.injEq, and_true,
            reduceCtorEq, false_and, or_false, and_assoc]
          exact and_congr eq_comm (and_congr eq_comm eq_comm)
      | cons next parents =>
          have deepens : Deepens (fun _ _ => False) (member? parent old) value' :=
            entered.deepens orderly
              (fun distinct done => grows_descend distinct TableKind.noConfusion rfl done)
              fun _ => id
          refine (sets.grows_inner orderly deepens).of_iff fun {place held} => ?_
          simp only [and_false, Pair.Gives, Pair.mk.injEq, Path.mk.injEq, List.cons.injEq,
            reduceCtorEq, false_and, or_false]

/-! Sections -/

theorem sets_of_addTable {name : String} {pairs : List Pair} {old new : Members}
    (distinct : Distinct old) (done : addTable name pairs old = some new) :
    ∃ inner table, Sets name (.table .headed table) old new ∧
      addPairs .headed inner pairs = some table ∧
      (member? name old = none ∧ inner = [] ∨ member? name old = some (.table .implied inner)) := by
  unfold addTable at done
  split at done
  · rename_i absent
    obtain ⟨table, filled, rfl⟩ := Option.map_eq_some_iff.mp done
    exact ⟨[], table, sets_append distinct absent _, filled, .inl ⟨absent, rfl⟩⟩
  · rename_i inner implied
    obtain ⟨table, filled, rfl⟩ := Option.map_eq_some_iff.mp done
    exact ⟨inner, table, sets_eraseMember distinct name _, filled, .inr implied⟩
  · cases done

theorem sets_of_addElement {name : String} {pairs : List Pair} {old new : Members}
    (distinct : Distinct old) (done : addElement name pairs old = some new) :
    ∃ items, Sets name (.tables items) old new ∧
      ∀ held ∈ member? name old, ∃ items, held = .tables items := by
  unfold addElement at done
  split at done
  · rename_i absent
    obtain ⟨table, -, rfl⟩ := Option.map_eq_some_iff.mp done
    refine ⟨_, sets_append distinct absent _, fun held found => ?_⟩
    rw [absent] at found
    cases found
  · rename_i items present
    obtain ⟨table, -, rfl⟩ := Option.map_eq_some_iff.mp done
    refine ⟨_, sets_replaceMember distinct present _, fun held found => ⟨items, ?_⟩⟩
    exact Option.some.inj (found.symm.trans present)
  · cases done

theorem grows_addTable {name : String} {pairs : List Pair} {old new : Members}
    (distinct : Distinct old) (done : addTable name pairs old = some new) :
    Grows Distinct member? (fun _ _ => False) old new := by
  obtain ⟨inner, table, sets, -, before⟩ := sets_of_addTable distinct done
  refine sets.grows_nothing rfl fun held found => ?_
  rcases before with ⟨absent, -⟩ | implied
  · cases absent.symm.trans found
  · cases implied.symm.trans found
    rfl

theorem grows_addElement {name : String} {pairs : List Pair} {old new : Members}
    (distinct : Distinct old) (done : addElement name pairs old = some new) :
    Grows Distinct member? (fun _ _ => False) old new := by
  obtain ⟨items, sets, before⟩ := sets_of_addElement distinct done
  refine sets.grows_nothing rfl fun held found => ?_
  obtain ⟨items, rfl⟩ := before held found
  rfl

/-- The section is a table of this name, and gives this value to this key. -/
def Section.Gives (part : Section) (place : String × String) (value : Value) : Prop :=
  part.heading = .table ⟨[], place.1⟩ ∧ ⟨⟨[], place.2⟩, value⟩ ∈ part.pairs

theorem grows_addSection {part : Section} {old new : Members} (orderly : Orderly old)
    (done : addSection old part = some new) : Grows Orderly inner? part.Gives old new := by
  obtain ⟨heading, pairs⟩ := part
  unfold addSection at done
  cases parents : heading.path.parents with
  | nil =>
      rw [parents] at done
      cases heading with
      | table path =>
          obtain ⟨_, name⟩ := path
          cases parents
          obtain ⟨inner, table, sets, filled, before⟩ := sets_of_addTable orderly.distinct done
          have deepens : Deepens (fun key held => ⟨⟨[], key⟩, held⟩ ∈ pairs) (member? name old)
              (.table .headed table) := by
            rcases before with ⟨absent, rfl⟩ | implied
            · rw [absent]
              exact deepens_new_table (grows_addPairs distinct_nil filled)
            · rw [implied]
              exact deepens_table (grows_addPairs (orderly.tables implied) filled)
          refine (sets.grows_inner orderly deepens).of_iff fun {place held} => ?_
          refine and_congr_left fun _ => ⟨fun same => by rw [same], ?_⟩
          rintro ⟨⟩
          rfl
      | array path =>
          obtain ⟨items, sets, before⟩ := sets_of_addElement orderly.distinct done
          have deepens : Deepens (fun _ _ => False) (member? path.name old) (.tables items) := by
            refine ⟨nofun, fun _ => ⟨nofun, fun found => found.elim (fun found => ?_) False.elim⟩⟩
            obtain ⟨held, held', inner⟩ := Option.bind_eq_some_iff.mp found
            obtain ⟨items, rfl⟩ := before held held'
            cases inner
          refine (sets.grows_inner orderly deepens).of_iff fun {place held} => ?_
          exact ⟨fun given => given.2.elim, fun given => nomatch given.1⟩
  | cons parent parents' =>
      rw [parents] at done
      obtain ⟨value, sets, entered⟩ := sets_of_descend orderly.distinct done
      have deepens : Deepens (fun _ _ => False) (member? parent old) value := by
        refine entered.deepens orderly (fun {kind members members'} distinct done => ?_) fun _ => id
        cases parents' with
        | nil =>
            cases heading with
            | table path => exact grows_addTable distinct done
            | array path => exact grows_addElement distinct done
        | cons next parents' => exact grows_descend distinct TableKind.noConfusion rfl done
      refine (sets.grows_inner orderly deepens).of_iff fun {place held} => ?_
      refine ⟨fun given => given.2.elim, fun given => ?_⟩
      rw [show heading = _ from given.1] at parents
      cases parents

/-! Documents -/

/-- The document gives this value to this key of this section: by dotted keys, in an inline table
or under a header. -/
inductive Gives (pairs : List Pair) (sections : List Section) (place : String × String)
    (value : Value) : Prop
  | dotted : ⟨⟨[place.1], place.2⟩, value⟩ ∈ pairs → Gives pairs sections place value
  | inline : ⟨⟨[], place.1⟩, .table kind members⟩ ∈ pairs →
      member? place.2 members = some value → Gives pairs sections place value
  | headed : ⟨.table ⟨[], place.1⟩, own⟩ ∈ sections → ⟨⟨[], place.2⟩, value⟩ ∈ own →
      Gives pairs sections place value

theorem gives_iff {pairs : List Pair} {sections : List Section} {place : String × String}
    {value : Value} :
    Gives pairs sections place value ↔
      (∃ pair ∈ pairs, pair.Gives place value) ∨ ∃ part ∈ sections, part.Gives place value := by
  constructor
  · rintro (inside | ⟨inside, found⟩ | ⟨inside, given⟩)
    · exact .inl ⟨_, inside, .inl rfl⟩
    · exact .inl ⟨_, inside, .inr ⟨rfl, found⟩⟩
    · exact .inr ⟨_, inside, rfl, given⟩
  · rintro (⟨pair, inside, rfl | ⟨path, found⟩⟩ | ⟨part, inside, heading, given⟩)
    · exact .dotted inside
    · obtain ⟨path', value'⟩ := pair
      cases value' with
      | table kind members =>
          cases path
          exact .inline inside found
      | _ => cases found
    · obtain ⟨heading', inner⟩ := part
      cases heading
      exact .headed inside given

/-- What a document gives is what its root holds, in whatever order it was given. -/
theorem grows_ofSections? {pairs : List Pair} {sections : List Section} {root : Members}
    (isOrderly : ∀ pair ∈ pairs, pair.value.IsOrderly)
    (filled : ofSections? pairs sections = some root) :
    Grows Orderly inner? (Gives pairs sections) [] root := by
  obtain ⟨front, first, later⟩ := Option.bind_eq_some_iff.mp filled
  unfold addPairs at first
  have here : Grows Orderly inner?
      (fun place value => ∃ pair ∈ pairs, pair.Gives place value) [] front := by
    refine Grows.foldlM (fun pair inside {old new} orderly done => ?_) orderly_nil first
    exact grows_addPair_root orderly (isOrderly pair inside) done
  have more : Grows Orderly inner?
      (fun place value => ∃ part ∈ sections, part.Gives place value) front root :=
    Grows.foldlM (fun part _ => grows_addSection) here.sound later
  refine ⟨more.sound, fun settled => ?_⟩
  rw [more.found settled, here.found settled, or_assoc, gives_iff]

end Heartbeat.Toml
