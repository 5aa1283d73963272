import Heartbeat.Config.Reader
import Heartbeat.Proofs.Config.Keys
import Heartbeat.Proofs.Toml.Reading

/-!
A configuration file is merged with the defaults key by key. Each key has the value that the file
gives it, or else its default; and one value that does not fit spoils all.
-/

namespace Heartbeat.Config

/-- The given values fit and are there now, with the old ones of the other keys; or one does not
fit. -/
def Merges (given : Key → Option Toml.Value) (config : Config) : Except Mismatch Config → Prop
  | .ok merged => ∀ key, (∀ value, given key = some value → key.Takes value) ∧
      merged.value? key = (given key).or (config.value? key)
  | .error _ => ∃ key value, given key = some value ∧ ¬ key.Takes value

namespace Merges

variable {given given' : Key → Option Toml.Value} {config merged : Config}
  {result : Except Mismatch Config} {why : Mismatch}

theorem congr (merges : Merges given config result) (same : ∀ key, given key = given' key) :
    Merges given' config result := by
  rw [← funext same]
  exact merges

theorem nothing (config : Config) : Merges (fun _ => none) config (.ok config) :=
  fun _ => ⟨nofun, rfl⟩

/-- What is given later goes to other keys. -/
theorem trans (first : Merges given config (.ok merged)) (later : Merges given' merged result)
    (apart : ∀ key, given key = none ∨ given' key = none) :
    Merges (fun key => (given key).or (given' key)) config result := by
  cases result with
  | ok final =>
      intro key
      obtain ⟨takes, value⟩ := first key
      obtain ⟨takes', value'⟩ := later key
      rcases apart key with none | none
      · simp only [none, Option.none_or] at value ⊢
        exact ⟨takes', value'.trans (congrArg _ value)⟩
      · simp only [none, Option.none_or, Option.or_none] at value' ⊢
        exact ⟨takes, value'.trans value⟩
  | error why =>
      obtain ⟨key, value, found, refused⟩ := later
      refine ⟨key, value, ?_, refused⟩
      rcases apart key with none | none
      · simp only [none, found, Option.none_or]
      · cases none.symm.trans found

theorem fail (first : Merges given config (.error why)) :
    Merges (fun key => (given key).or (given' key)) config (.error why) := by
  obtain ⟨key, value, found, refused⟩ := first
  refine ⟨key, value, ?_, refused⟩
  simp only [found, Option.some_or]

theorem bind {next : Config → Except Mismatch Config} (first : Merges given config result)
    (later : ∀ merged, Merges given' merged (next merged))
    (apart : ∀ key, given key = none ∨ given' key = none) :
    Merges (fun key => (given key).or (given' key)) config (result.bind next) := by
  cases result with
  | ok merged => exact first.trans (later merged) apart
  | error why => exact first.fail

end Merges

/-! One key -/

/-- Only this key is given a value. -/
def single (key : Key) (value : Toml.Value) (other : Key) : Option Toml.Value :=
  if other = key then some value else none

section

variable {config merged : Config} {key : Key} {value : Toml.Value}

theorem merges_ok (takes : key.Takes value) (stored : merged.value? key = some value)
    (keeps : ∀ other, other ≠ key → merged.value? other = config.value? other) :
    Merges (single key value) config (.ok merged) := by
  intro other
  unfold single
  by_cases same : other = key
  · subst same
    rw [if_pos rfl]
    exact ⟨fun value found => Option.some.inj found ▸ takes, stored⟩
  · rw [if_neg same]
    exact ⟨nofun, keeps other same⟩

theorem merges_error (refused : ¬ key.Takes value) (why : Mismatch) :
    Merges (single key value) config (.error why) :=
  ⟨key, value, if_pos rfl, refused⟩

theorem merges_text {store : String → Config} (expected : Shape)
    (takes : key.Takes value ↔ ∃ text, value = .string text)
    (stored : ∀ text, (store text).value? key = some (.string text))
    (keeps : ∀ text other, other ≠ key → (store text).value? other = config.value? other) :
    Merges (single key value) config ((value.toText expected).map store) := by
  cases value with
  | string text => exact merges_ok (takes.mpr ⟨text, rfl⟩) (stored text) (keeps text)
  | _ => exact merges_error (fun fits => nomatch takes.mp fits) _

theorem merges_number {store : Nat → Config} (bound : Nat) (name : String)
    (takes : key.Takes value ↔ ∃ n, value = .integer n ∧ 0 ≤ n ∧ n < bound)
    (stored : ∀ n < bound, (store n).value? key = some (.integer n))
    (keeps : ∀ n other, other ≠ key → (store n).value? other = config.value? other) :
    Merges (single key value) config ((value.toNat bound name).map store) := by
  cases value with
  | integer n =>
      rw [Toml.Value.toNat, boundedNat]
      split
      · rename_i inRange
        refine merges_ok (takes.mpr ⟨n, rfl, inRange⟩) ?_ (keeps n.toNat)
        rw [stored n.toNat (by omega), Int.toNat_of_nonneg inRange.1]
      · rename_i outside
        refine merges_error (fun fits => ?_) _
        obtain ⟨_, ⟨⟩, inRange⟩ := takes.mp fits
        exact outside inRange
  | _ => exact merges_error (fun fits => nomatch takes.mp fits) _

theorem merges_set (inRange : value.InRange) (config : Config) (key : Key) :
    Merges (single key value) config (config.set key value) := by
  have size : (∃ n, value = .integer n ∧ 0 ≤ n) ↔
      ∃ n, value = .integer n ∧ 0 ≤ n ∧ n < (18446744073709551616 : Nat) := by
    constructor
    · rintro ⟨n, same, natural⟩
      have small := inRange n same
      exact ⟨n, same, natural, by omega⟩
    · rintro ⟨n, same, natural, -⟩
      exact ⟨n, same, natural⟩
  cases key
  case maxFrame =>
    refine merges_number _ _ size (fun _ _ => rfl) fun n other differs => ?_
    cases other <;> first | rfl | exact absurd rfl differs
  case delay =>
    refine merges_number _ _ size (fun _ _ => rfl) fun n other differs => ?_
    cases other <;> first | rfl | exact absurd rfl differs
  case maxFailures =>
    refine merges_number _ _ Iff.rfl (fun n small => ?_) fun n other differs => ?_
    · rw [value?, UInt32.toNat_ofNat_of_lt' small]
    · cases other <;> first | rfl | exact absurd rfl differs
  all_goals
    refine merges_text _ Iff.rfl (fun _ => rfl) fun text other differs => ?_
    cases other <;> first | rfl | exact absurd rfl differs

end

/-! Sections -/

/-- What the members of a section give. -/
def givenIn (group : Group) (members : Toml.Members) (key : Key) : Option Toml.Value :=
  if key.group = group then Toml.member? key.text members else none

section

variable {group : Group} {name : String} {value : Toml.Value} {members : Toml.Members}

theorem givenIn_cons_of_unknown (unknown : group.key? name = none) (key : Key) :
    givenIn group members key = givenIn group ((name, value) :: members) key := by
  unfold givenIn
  split
  · rename_i own
    rw [Toml.member?_cons, if_neg (Ne.symm (Group.text_ne_of_key? unknown own))]
  · rfl

theorem givenIn_cons_of_key? {key : Key} (found : group.key? name = some key) (other : Key) :
    (single key value other).or (givenIn group members other) =
      givenIn group ((name, value) :: members) other := by
  obtain ⟨own, rfl⟩ := Group.of_key? found
  unfold single givenIn
  rw [Toml.member?_cons]
  by_cases same : other = key
  · subst same
    rw [if_pos rfl, if_pos own, if_pos own, if_pos rfl, Option.some_or]
  · have apart : key.text ≠ other.text := fun text => same (Key.eq_of_text text.symm)
    rw [if_neg same, if_neg apart, Option.none_or]

theorem setMembers_of_key? {key : Key} (found : group.key? name = some key) (config : Config)
    (value : Toml.Value) (members : Toml.Members) :
    setMembers group config ((name, value) :: members) =
      (config.set key value).bind fun config => setMembers group config members := by
  rw [setMembers, found]
  simp only
  cases config.set key value <;> rfl

theorem merges_setMembers (distinct : Toml.Distinct members)
    (inRange : ∀ name value, Toml.member? name members = some value → value.InRange)
    (config : Config) :
    Merges (givenIn group members) config (setMembers group config members) := by
  induction members generalizing config with
  | nil =>
      refine (Merges.nothing config).congr fun key => ?_
      unfold givenIn
      split <;> rfl
  | cons member members ih =>
      obtain ⟨name, value⟩ := member
      obtain ⟨absent, distinct'⟩ := List.nodup_cons.mp distinct
      have first : value.InRange := inRange name value (if_pos rfl)
      have later := ih distinct' fun other held found =>
        inRange other held (Toml.member?_cons_of_distinct distinct found)
      cases known : group.key? name with
      | none =>
          rw [setMembers, known]
          exact (later config).congr (givenIn_cons_of_unknown known)
      | some key =>
          rw [setMembers_of_key? known]
          refine ((merges_set first config key).bind later fun other => ?_).congr
            (givenIn_cons_of_key? known)
          obtain ⟨own, rfl⟩ := Group.of_key? known
          unfold single givenIn
          by_cases same : other = key
          · subst same
            rw [if_pos own]
            exact .inr (Toml.member?_eq_none.mpr absent)
          · exact .inl (if_neg same)

end

/-! The whole file -/

def Key.place (key : Key) : String × String :=
  (key.group.text, key.text)

/-- What a file gives, by its root. -/
def given (root : Toml.Members) (key : Key) : Option Toml.Value :=
  Toml.inner? key.place root

/-- All sections that there are are tables. -/
def Tabular (root : Toml.Members) : Prop :=
  ∀ group : Group, ∀ value ∈ Toml.member? group.text root,
    ∃ kind members, value = .table kind members

theorem given_cons (name : String) (value : Toml.Value) (root : Toml.Members) (key : Key) :
    given ((name, value) :: root) key =
      if name = key.group.text then value.member? key.text else given root key := by
  show (if name = key.group.text then _ else _ : Option Toml.Value).bind _ = _
  split
  · rfl
  · rfl

theorem given_eq_none {root : Toml.Members} {key : Key}
    (absent : key.group.text ∉ root.map Prod.fst) : given root key = none := by
  rw [given, Toml.inner?, Key.place, Toml.member?_eq_none.mpr absent]
  rfl

theorem givenIn_or_given {group : Group} {root : Toml.Members}
    (absent : group.text ∉ root.map Prod.fst) (kind : Toml.TableKind) (members : Toml.Members)
    (key : Key) :
    (givenIn group members key).or (given root key) =
      given ((group.text, .table kind members) :: root) key := by
  rw [given_cons, givenIn]
  by_cases own : key.group = group
  · subst own
    rw [given_eq_none absent, if_pos rfl, if_pos rfl, Option.or_none]
    rfl
  · rw [if_neg own, if_neg fun same => own (Group.eq_of_text same.symm), Option.none_or]

theorem setGroups_of_ofText? {name : String} {group : Group}
    (found : Group.ofText? name = some group) (config : Config) (value : Toml.Value)
    (root : Toml.Members) :
    setGroups config ((name, value) :: root) =
      (config.setGroup group value).bind fun config => setGroups config root := by
  rw [setGroups, found]
  simp only
  cases config.setGroup group value <;> rfl

theorem merges_setGroups {root : Toml.Members} (orderly : Toml.Orderly root)
    (inRange : ∀ place value, Toml.inner? place root = some value → value.InRange)
    (tabular : Tabular root) (config : Config) :
    Merges (given root) config (setGroups config root) := by
  induction root generalizing config with
  | nil => exact Merges.nothing config
  | cons member root ih =>
      obtain ⟨name, value⟩ := member
      have absent := (List.nodup_cons.mp orderly.distinct).1
      have later := ih orderly.tail
        (fun place held found => inRange place held (Toml.inner?_cons_of_orderly orderly found))
        fun group held found =>
          tabular group held (Toml.member?_cons_of_distinct orderly.distinct found)
      cases known : Group.ofText? name with
      | none =>
          rw [setGroups, known]
          refine (later config).congr fun key => ?_
          rw [given_cons, if_neg (Ne.symm (Group.text_ne_of_ofText? known key.group))]
      | some group =>
          rw [setGroups_of_ofText? known]
          have text := Group.text_of_ofText? known
          subst text
          obtain ⟨kind, members, rfl⟩ := tabular group value (if_pos rfl)
          have apart : ∀ key, givenIn group members key = none ∨ given root key = none := by
            intro key
            by_cases own : key.group = group
            · subst own
              exact .inr (given_eq_none absent)
            · exact .inl (if_neg own)
          have inside : ∀ key held, Toml.member? key members = some held → held.InRange := by
            intro key held found
            refine inRange (group.text, key) held ?_
            rw [Toml.inner?, Toml.member?_cons, if_pos rfl]
            exact found
          have merges : Merges (givenIn group members) config (setMembers group config members) :=
            merges_setMembers (orderly.tables (if_pos rfl)) inside config
          exact (merges.bind later apart).congr (givenIn_or_given absent kind members)

/-- A key takes nothing that a document could still add to. -/
theorem Key.Takes.isSettled {key : Key} {value : Toml.Value} (takes : key.Takes value) :
    value.isSettled = true := by
  cases key
  case maxFrame =>
    obtain ⟨n, rfl, -⟩ := takes
    rfl
  case delay =>
    obtain ⟨n, rfl, -⟩ := takes
    rfl
  case maxFailures =>
    obtain ⟨n, rfl, -⟩ := takes
    rfl
  all_goals
    obtain ⟨text, rfl⟩ := takes
    rfl

/-- A document is read exactly if it is TOML and all values of known keys fit; and then as the one
configuration in which each key has the value that it was given, in whatever way, or else its
default. -/
theorem parse_merges (program text : String) :
    (Toml.parse text = none → parse program text = .error .notToml) ∧
      ∀ {pairs sections root}, Toml.document? text = some (pairs, sections) →
        Toml.parse text = some root → Tabular root →
          ((∃ config, parse program text = .ok config) ↔
            ∀ key value, given root key = some value → key.Takes value) ∧
          (∀ config, parse program text = .ok config → ∀ other, other = config ↔
            ∀ key, other.value? key = (given root key).or ((default program).value? key)) ∧
          ∀ key value, key.Takes value →
            (given root key = some value ↔ Toml.Gives pairs sections key.place value) := by
  refine ⟨fun failed => ?_, fun {pairs sections root} read parsed tabular => ?_⟩
  · rw [parse, failed]
  · obtain ⟨grows, inRange⟩ := Toml.grows_parse read parsed
    have merges := merges_setGroups grows.sound (fun _ _ => inRange) tabular (default program)
    have whole : parse program text =
        (setGroups (default program) root).mapError .mismatch := by
      rw [parse, parsed]
      rfl
    rw [whole]
    refine ⟨?_, ?_, fun key value takes => ?_⟩
    · cases stored : setGroups (default program) root with
      | ok config =>
          rw [stored] at merges
          exact ⟨fun _ key => (merges key).1, fun _ => ⟨config, rfl⟩⟩
      | error why =>
          rw [stored] at merges
          obtain ⟨key, value, found, refused⟩ := merges
          exact ⟨nofun, fun fits => absurd (fits key value found) refused⟩
    · intro config accepted other
      cases stored : setGroups (default program) root with
      | ok merged =>
          rw [stored] at merges accepted
          cases accepted
          refine ⟨?_, fun law => eq_of_value? fun key => (law key).trans (merges key).2.symm⟩
          rintro rfl key
          exact (merges key).2
      | error why =>
          rw [stored] at accepted
          cases accepted
    · rw [given, grows.found takes.isSettled]
      exact or_iff_right nofun

/-- A section by dotted keys, one in braces and one under a header, with others between them. -/
theorem parse_merges_of_spellings :
    ∃ config,
      parse "p" ("channel.max_frame_size = 7\nx = 1\nworker = \x7bname = 'w'\x7d\n" ++
        "[y]\n[tracing]\nlevel = 'debug'") = .ok config ∧
      config.value? .maxFrame = some (.integer 7) ∧ config.value? .name = some (.string "w") ∧
      config.value? .level = some (.string "debug") ∧
      config.value? .delay = some (.integer 1000) := by
  obtain ⟨root, isRoot⟩ : ∃ root : Toml.Members, root =
      [("channel", .table .dotted [("max_frame_size", .integer 7)]), ("x", .integer 1),
        ("worker", .table .inline [("name", .string "w")]), ("y", .table .headed []),
        ("tracing", .table .headed [("level", .string "debug")])] := ⟨_, rfl⟩
  have read : Toml.document?
      ("channel.max_frame_size = 7\nx = 1\nworker = \x7bname = 'w'\x7d\n" ++
        "[y]\n[tracing]\nlevel = 'debug'") =
      some ([⟨⟨["channel"], "max_frame_size"⟩, .integer 7⟩, ⟨⟨[], "x"⟩, .integer 1⟩,
          ⟨⟨[], "worker"⟩, .table .inline [("name", .string "w")]⟩],
        [⟨.table ⟨[], "y"⟩, []⟩,
          ⟨.table ⟨[], "tracing"⟩, [⟨⟨[], "level"⟩, .string "debug"⟩]⟩]) := by rfl
  have parsed : Toml.parse
      ("channel.max_frame_size = 7\nx = 1\nworker = \x7bname = 'w'\x7d\n" ++
        "[y]\n[tracing]\nlevel = 'debug'") = some root := by
    rw [Toml.parse_eq, read, isRoot]
    rfl
  have tabular : Tabular root := by
    intro group value found
    rw [isRoot] at found
    cases group <;> cases found
    all_goals exact ⟨_, _, rfl⟩
  have fits : ∀ key value, given root key = some value → key.Takes value := by
    intro key value found
    rw [isRoot] at found
    cases key <;> cases found
    case maxFrame => exact ⟨7, rfl, by decide⟩
    all_goals exact ⟨_, rfl⟩
  obtain ⟨accepted, law, gives⟩ := (parse_merges "p" _).2 read parsed tabular
  obtain ⟨config, loaded⟩ := accepted.mpr fits
  have value := (law config loaded config).mp rfl
  have dotted := (gives .maxFrame (.integer 7) ⟨7, rfl, by decide⟩).mpr (.dotted (.head _))
  have inline := (gives .name (.string "w") ⟨"w", rfl⟩).mpr
    (.inline (.tail _ (.tail _ (.head _))) rfl)
  have headed := (gives .level (.string "debug") ⟨"debug", rfl⟩).mpr
    (.headed (.tail _ (.head _)) (.head _))
  have missing : given root .delay = none := by
    rw [isRoot]
    rfl
  refine ⟨config, loaded, ?_, ?_, ?_, ?_⟩
  · rw [value, dotted, Option.some_or]
  · rw [value, inline, Option.some_or]
  · rw [value, headed, Option.some_or]
  · rw [value, missing, Option.none_or]
    rfl

end Heartbeat.Config
