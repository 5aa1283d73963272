import Heartbeat.Json.Typed
import Heartbeat.Message.Envelope

/-!
Who answers, and the bodies of the answers. A body is read from an object by the names of its
fields, or from a list by their order.
-/

namespace Heartbeat

structure Identity where
  name : String
  pid : UInt32
deriving DecidableEq

structure WorkerHealth where
  name : String
  pid : UInt32
deriving DecidableEq

structure WorkerTermination where
  name : String
  pid : UInt32
  acknowledged : Bool
deriving DecidableEq

namespace Json.Value

def ofPid (pid : UInt32) : Value :=
  .number (.integer pid.toNat)

def toText : Value → Except Rejection String
  | .string text => .ok text
  | value => .error (.mismatch (.kind value.found .string))

def toPid : Value → Except Rejection UInt32
  | .number n => n.toWord32.mapError .mismatch
  | value => .error (.mismatch (.kind value.found word32))

def toFlag : Value → Except Rejection Bool
  | .boolean value => .ok value
  | value => .error (.mismatch (.kind value.found .boolean))

end Json.Value

/-- The fields of a body that have been read. Which of them are wanted depends on the body. -/
structure BodyFields where
  name : Option String := none
  pid : Option UInt32 := none
  acknowledged : Option Bool := none

inductive BodyField where
  | name
  | pid
  | acknowledged
deriving DecidableEq

def BodyField.text : BodyField → String
  | .name => "name"
  | .pid => "pid"
  | .acknowledged => "acknowledged"

def BodyFields.set (fields : BodyFields) (field : BodyField) (value : Json.Value) :
    Except Json.Rejection BodyFields :=
  match field with
  | .name => value.toText.map fun name => { fields with name := some name }
  | .pid => value.toPid.map fun pid => { fields with pid := some pid }
  | .acknowledged => value.toFlag.map fun flag => { fields with acknowledged := some flag }

/-- Members with other names are passed over. -/
def BodyFields.ofMembers (wanted : List BodyField) (fields : BodyFields) :
    List (String × Json.Value) → Except Json.Rejection BodyFields
  | [] => .ok fields
  | (name, value) :: members =>
      match wanted.find? (·.text = name) with
      | none => ofMembers wanted fields members
      | some field =>
          match fields.set field value with
          | .error why => .error why
          | .ok fields => ofMembers wanted fields members

/-- Takes one item for each wanted field, and gives back the items left over. -/
def BodyFields.ofItems (fields : BodyFields) :
    List BodyField → List Json.Value → Except Json.Rejection (BodyFields × List Json.Value)
  | field :: wanted, item :: items =>
      match fields.set field item with
      | .error why => .error why
      | .ok fields => ofItems fields wanted items
  | _, items => .ok (fields, items)

def BodyFields.ofValue (expected : String) (wanted : List BodyField) (value : Json.Value) :
    Except Json.Rejection BodyFields :=
  match value with
  | .object members => BodyFields.ofMembers wanted {} members
  | .array items =>
      match BodyFields.ofItems {} wanted items with
      | .error why => .error why
      | .ok (fields, surplus) =>
          if items.length < wanted.length then
            .error (.wrongLength items.length
              ("struct " ++ expected ++ " with " ++ toString wanted.length ++ " elements"))
          else if surplus ≠ [] then
            .error (.wrongLength items.length "fewer elements in array")
          else .ok fields
  | value => .error (.mismatch (.kind value.found (.record expected)))

def required (field : BodyField) (value : Option α) : Except Json.Rejection α :=
  match value with
  | some value => .ok value
  | none => .error (.missingField field.text)

namespace WorkerHealth

def toValue (body : WorkerHealth) : Json.Value :=
  .object [("name", .string body.name), ("pid", .ofPid body.pid)]

def ofValue (value : Json.Value) : Except Json.Rejection WorkerHealth := do
  let fields ← BodyFields.ofValue "WorkerHealth" [.name, .pid] value
  let name ← required .name fields.name
  let pid ← required .pid fields.pid
  pure ⟨name, pid⟩

end WorkerHealth

namespace WorkerTermination

def toValue (body : WorkerTermination) : Json.Value :=
  .object [("acknowledged", .boolean body.acknowledged), ("name", .string body.name),
    ("pid", .ofPid body.pid)]

def ofValue (value : Json.Value) : Except Json.Rejection WorkerTermination := do
  let fields ← BodyFields.ofValue "WorkerTermination" [.name, .pid, .acknowledged] value
  let name ← required .name fields.name
  let pid ← required .pid fields.pid
  let acknowledged ← required .acknowledged fields.acknowledged
  pure ⟨name, pid, acknowledged⟩

end WorkerTermination

namespace Identity

def health (identity : Identity) : WorkerHealth :=
  ⟨identity.name, identity.pid⟩

def termination (identity : Identity) : WorkerTermination :=
  ⟨identity.name, identity.pid, true⟩

end Identity

namespace Envelope

/-! Making a reply cannot fail, either: the body is made of a name, a number and maybe a flag, all of
which are values of JSON. -/

def healthCheckReply (now : Calendar.Instant) (body : WorkerHealth) : Envelope :=
  .new now .healthCheckReply body.toValue

def terminateWorkerReply (now : Calendar.Instant) (body : WorkerTermination) : Envelope :=
  .new now .terminateWorkerReply body.toValue

end Envelope

end Heartbeat
