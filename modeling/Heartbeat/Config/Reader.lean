import Heartbeat.Config.Key
import Heartbeat.Toml.Reader

/-!
Reading the configuration file. Unknown keys are passed over; of the values that do not fit, the
first one is reported.
-/

namespace Heartbeat.Config

inductive Fault where
  | notToml
  | mismatch (why : Mismatch)
deriving DecidableEq

def Fault.text : Fault → String
  | .notToml => "not a valid TOML document"
  | .mismatch why => why.text

def setMembers (group : Group) (config : Config) : Toml.Members → Except Mismatch Config
  | [] => .ok config
  | (name, value) :: members =>
      match group.key? name with
      | none => setMembers group config members
      | some key =>
          match config.set key value with
          | .error why => .error why
          | .ok config => setMembers group config members

def setItems (config : Config) : List Key → List Toml.Value → Except Mismatch Config
  | key :: keys, item :: items =>
      match config.set key item with
      | .error why => .error why
      | .ok config => setItems config keys items
  | _, _ => .ok config

/-- A date holds no key of any group. -/
def setGroup (config : Config) (group : Group) (value : Toml.Value) : Except Mismatch Config :=
  match value with
  | .table _ members => setMembers group config members
  | .array items => setItems config group.keys items
  | .tables tables => setItems config group.keys (tables.map (.table .headed))
  | .moment => .ok config
  | value => .error (.kind value.found (.record group.title))

def setGroups (config : Config) : Toml.Members → Except Mismatch Config
  | [] => .ok config
  | (name, value) :: members =>
      match Group.ofText? name with
      | none => setGroups config members
      | some group =>
          match config.setGroup group value with
          | .error why => .error why
          | .ok config => setGroups config members

def ofMembers (program : String) (members : Toml.Members) : Except Fault Config :=
  (setGroups (.default program) members).mapError .mismatch

def parse (program : String) (text : String) : Except Fault Config :=
  match Toml.parse text with
  | none => .error .notToml
  | some members => ofMembers program members

end Heartbeat.Config
