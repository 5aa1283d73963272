import Heartbeat.Config.Key

/-!
The keys of the configuration apart from any file: where they stand, which values they take, and
that their values are all that there is to a configuration.
-/

namespace Heartbeat.Config

namespace Key

/-- The section that a key stands in. -/
def group : Key → Group
  | healthSocket => .channel
  | terminationSocket => .channel
  | maxFrame => .channel
  | delay => .reconnect
  | maxFailures => .receive
  | name => .worker
  | level => .tracing
  | logDirectory => .tracing
  | logFile => .tracing

/-- The values of a key: text, but for three numbers. -/
def Takes (key : Key) (value : Toml.Value) : Prop :=
  match key with
  | maxFrame => ∃ n, value = .integer n ∧ 0 ≤ n
  | delay => ∃ n, value = .integer n ∧ 0 ≤ n
  | maxFailures => ∃ n, value = .integer n ∧ 0 ≤ n ∧ n < 4294967296
  | _ => ∃ text, value = .string text

theorem mem_keys_iff (key : Key) (group : Group) : key ∈ group.keys ↔ key.group = group := by
  cases key <;> cases group <;> decide

theorem eq_of_text {key other : Key} (same : key.text = other.text) : key = other := by
  cases key <;> cases other <;> first | rfl | exact absurd same (by decide)

end Key

namespace Group

theorem eq_of_text {group other : Group} (same : group.text = other.text) : group = other := by
  cases group <;> cases other <;> first | rfl | exact absurd same (by decide)

theorem mem_all (group : Group) : group ∈ all := by
  cases group <;> decide

theorem text_of_ofText? {name : String} {group : Group} (found : ofText? name = some group) :
    group.text = name := by
  unfold ofText? at found
  have same := List.find?_some found
  exact of_decide_eq_true same

theorem text_ne_of_ofText? {name : String} (unknown : ofText? name = none) (group : Group) :
    group.text ≠ name :=
  fun same => absurd (decide_eq_true same) (List.find?_eq_none.mp unknown group group.mem_all)

theorem of_key? {group : Group} {name : String} {key : Key} (found : group.key? name = some key) :
    key.group = group ∧ key.text = name := by
  unfold key? at found
  have same := List.find?_some found
  exact ⟨(key.mem_keys_iff group).mp (List.mem_of_find?_eq_some found), of_decide_eq_true same⟩

theorem text_ne_of_key? {group : Group} {name : String} (unknown : group.key? name = none)
    {key : Key} (own : key.group = group) : key.text ≠ name := by
  intro same
  refine List.find?_eq_none.mp unknown key ((key.mem_keys_iff group).mpr own) ?_
  exact decide_eq_true same

end Group

/-- The value of a key as it would be given in a file. Paths that are not set have none. -/
def value? (config : Config) : Key → Option Toml.Value
  | .healthSocket => config.healthSocket.map .string
  | .terminationSocket => config.terminationSocket.map .string
  | .maxFrame => some (.integer config.maxFrame)
  | .delay => some (.integer config.delay)
  | .maxFailures => some (.integer config.maxFailures.toNat)
  | .name => some (.string config.name)
  | .level => some (.string config.level)
  | .logDirectory => config.logDirectory.map .string
  | .logFile => some (.string config.logFile)

theorem eq_of_map_string {text other : Option String}
    (same : text.map Toml.Value.string = other.map .string) : text = other := by
  cases text <;> cases other <;> cases same <;> rfl

theorem eq_of_value? {config other : Config} (same : ∀ key, config.value? key = other.value? key) :
    config = other := by
  have healthSocket := eq_of_map_string (same .healthSocket)
  have terminationSocket := eq_of_map_string (same .terminationSocket)
  have logDirectory := eq_of_map_string (same .logDirectory)
  have maxFrame := same .maxFrame
  have delay := same .delay
  have maxFailures := same .maxFailures
  have name := same .name
  have level := same .level
  have logFile := same .logFile
  simp only [value?, Option.some.injEq, Toml.Value.integer.injEq, Toml.Value.string.injEq,
    Int.natCast_inj, UInt32.toNat_inj] at maxFrame delay maxFailures name level logFile
  cases config
  cases other
  simp only [Config.mk.injEq]
  exact ⟨healthSocket, terminationSocket, maxFrame, delay, maxFailures, name, level, logDirectory,
    logFile⟩

end Heartbeat.Config
