import Heartbeat.Message.Codec
import Heartbeat.Proofs.Calendar.RoundTrip
import Heartbeat.Proofs.Json.Printing

/-!
An envelope that is sent is read back as it was: its version, its topic, its date and its payload.
-/

namespace Heartbeat

open Json (Ends ends_cons renderString renderMember asciiBytes integerText)

namespace Json

theorem toWord32_toNat (word : UInt32) : (Number.integer word.toNat).toWord32 = .ok word := by
  have small := word.toNat_lt
  rw [Number.toWord32, boundedNat, if_pos ⟨by omega, by omega⟩, Except.map, Int.toNat_natCast,
    UInt32.ofNat_toNat]

theorem readWord32_integerText (word : UInt32) (ends : Ends rest) :
    readWord32 (asciiBytes (integerText word.toNat) ++ rest) = .ok (word, rest) := by
  have small := word.toNat_lt
  have read := readNumber_toDigits (show word.toNat ≤ maxWord by rw [maxWord]; omega) ends false
  rw [integerOf, if_pos Bool.not_false] at read
  rw [integerText_of_nonneg]
  obtain ⟨b, more, same, digit⟩ := starts_toDigits word.toNat
  rw [same] at read ⊢
  rw [List.cons_append] at read ⊢
  unfold readWord32
  rw [skipSpace_cons (solid_of_startsValue (startsValue_of_isDigit digit))]
  split
  · rename_i same
    cases same
  · rename_i same
    cases same
    exact absurd digit (by decide)
  · rename_i same
    cases same
    rw [if_pos digit, read, readWord32Of]
    simp only [toWord32_toNat]

theorem readVariant_renderString {known : List String} {ofName? : String → Option α} {name : String}
    {value : α} (found : ofName? name = some value) (rest : Bytes) :
    readVariant known ofName? (renderString name ++ rest) = .ok (value, rest) := by
  obtain ⟨body, same, read⟩ := readString_renderString name rest
  rw [same, readVariant, skipSpace_cons rfl]
  simp only [readKnown, read, found]

end Json

namespace Envelope

theorem readCreated_rfc3339 {t : Calendar.Instant} (valid : t.Valid) (rest : Bytes) :
    readCreated (renderString (String.ofList t.rfc3339) ++ rest) = .ok (t, rest) := by
  obtain ⟨body, same, read⟩ := Json.readString_renderString (String.ofList t.rfc3339) rest
  have text : Json.readText .instant (0x22 :: body) = .ok (String.ofList t.rfc3339, rest) := read
  rw [same, readCreated, text]
  simp only [Calendar.readInstant_rfc3339 valid]

theorem readField_none {name : String} {read : Bytes → Json.Result α} {store : α → Draft}
    {more rest : Bytes} {value : α} (taken : read more = .ok (value, rest)) :
    Draft.readField name none read store (0x3A :: more) = .ok (store value, rest) := by
  have colon : Json.skipColon (0x3A :: more) = .ok more := Json.skipColon_gap Json.isBlank_nil more
  simp only [Draft.readField, colon, taken, Except.map]

/-- The members of an envelope as they are printed, up to the brace that ends them. -/
theorem readMembers_members {envelope : Envelope} (valid : envelope.created.Valid)
    (fits : envelope.payload.Fits 126) {fuel : Nat}
    (enough : envelope.payload.render.length < fuel) (steps : 5 ≤ fuel) (rest : Bytes) :
    Json.readMembers (Draft.readMember fuel) fuel true {}
        (Json.renderMembers envelope.members ++ 0x7D :: rest) =
      .ok (⟨some envelope.schemaVersion, some envelope.topic, some envelope.created,
        some envelope.payload⟩, rest) := by
  obtain ⟨extra, same⟩ := Nat.exists_eq_add_of_le' steps
  have payloadRead := Json.readValue_render fits enough (0x7D :: rest) (ends_cons rfl rest)
  obtain ⟨bytes₄, opened₄, named₄⟩ := Json.readString_renderMember ("Payload", envelope.payload)
    (0x7D :: rest)
  obtain ⟨bytes₃, opened₃, named₃⟩ := Json.readString_renderMember
    ("CreatedDate", .string envelope.createdText) (0x2C :: 0x22 :: bytes₄)
  obtain ⟨bytes₂, opened₂, named₂⟩ := Json.readString_renderMember
    ("Topic", .string envelope.topic.name) (0x2C :: 0x22 :: bytes₃)
  obtain ⟨bytes₁, opened₁, named₁⟩ := Json.readString_renderMember
    ("SchemaVersion", .number (.integer envelope.schemaVersion.toNat)) (0x2C :: 0x22 :: bytes₂)
  have text : Json.renderMembers envelope.members ++ 0x7D :: rest = 0x22 :: bytes₁ := by
    rw [← opened₁, ← opened₂, ← opened₃, ← opened₄, members, Json.renderMembers_cons,
      List.append_assoc, Json.renderMoreMembers_cons, Json.renderMoreMembers_cons,
      Json.renderMoreMembers_cons]
    rfl
  have version := Json.readWord32_integerText envelope.schemaVersion
    (show Ends (0x2C :: 0x22 :: bytes₂) from ends_cons rfl _)
  have topic : Topic.read (renderString envelope.topic.name ++ 0x2C :: 0x22 :: bytes₃) =
      .ok (envelope.topic, 0x2C :: 0x22 :: bytes₃) :=
    Json.readVariant_renderString (Topic.ofName?_name envelope.topic) _
  have created := readCreated_rfc3339 valid (0x2C :: 0x22 :: bytes₄)
  have first : Draft.readMember fuel {} bytes₁ =
      .ok (⟨some envelope.schemaVersion, none, none, none⟩, 0x2C :: 0x22 :: bytes₂) := by
    simp only [Draft.readMember, named₁]
    rw [if_pos trivial]
    exact readField_none version
  have second : Draft.readMember fuel ⟨some envelope.schemaVersion, none, none, none⟩ bytes₂ =
      .ok (⟨some envelope.schemaVersion, some envelope.topic, none, none⟩,
        0x2C :: 0x22 :: bytes₃) := by
    simp only [Draft.readMember, named₂]
    rw [if_neg (by decide), if_pos trivial]
    exact readField_none topic
  have third : Draft.readMember fuel ⟨some envelope.schemaVersion, some envelope.topic, none, none⟩
      bytes₃ = .ok (⟨some envelope.schemaVersion, some envelope.topic, some envelope.created, none⟩,
        0x2C :: 0x22 :: bytes₄) := by
    simp only [Draft.readMember, named₃]
    rw [if_neg (by decide), if_neg (by decide), if_pos trivial]
    exact readField_none created
  have fourth : Draft.readMember fuel
      ⟨some envelope.schemaVersion, some envelope.topic, some envelope.created, none⟩ bytes₄ =
      .ok (⟨some envelope.schemaVersion, some envelope.topic, some envelope.created,
        some envelope.payload⟩, 0x7D :: rest) := by
    simp only [Draft.readMember, named₄]
    rw [if_neg (by decide), if_neg (by decide), if_neg (by decide), if_pos trivial]
    exact readField_none payloadRead
  rw [text]
  obtain rfl : fuel = extra + 1 + 1 + 1 + 1 + 1 := same
  rw [Json.readMembers_first first, Json.readMembers_next second, Json.readMembers_next third,
    Json.readMembers_next fourth]
  exact Json.readMembers_end ..

/-- Whatever is sent is read back, at whatever time. -/
theorem decode_encode {envelope : Envelope} (valid : envelope.created.Valid)
    (fits : envelope.payload.Fits 126) (now : Calendar.Instant) :
    decode now envelope.encode = .ok envelope := by
  obtain ⟨count, sizes⟩ := Json.length_renderMembers envelope.members
  have whole : envelope.encode = 0x7B :: (Json.renderMembers envelope.members ++ [0x7D]) := by
    rw [encode, Json.Value.render, List.cons_append]
  have length : envelope.encode.length = (Json.renderMembers envelope.members).length + 2 := by
    rw [whole, List.length_cons, List.length_append, List.length_singleton]
  have enough : envelope.payload.render.length < envelope.encode.length + 1 := by
    have payload := sizes ("Payload", envelope.payload) (by simp [members])
    simp only at payload
    omega
  have steps : 5 ≤ envelope.encode.length + 1 := by
    have four : envelope.members.length = 4 := rfl
    omega
  have all := readMembers_members valid fits enough steps []
  have object : readObject now (envelope.encode.length + 1)
      (Json.renderMembers envelope.members ++ [0x7D]) = .ok (envelope, []) := by
    rw [readObject, all]
    rfl
  have read : read now (envelope.encode.length + 1) envelope.encode = .ok (envelope, []) := by
    rw [← object, whole]
    rfl
  rw [decode, parse, read]
  rfl

theorem decodeExpecting_encode {envelope : Envelope} (valid : envelope.created.Valid)
    (fits : envelope.payload.Fits 126) (now : Calendar.Instant) :
    decodeExpecting now envelope.topic envelope.encode = .ok envelope := by
  rw [decodeExpecting, decode_encode valid fits now]
  exact if_pos rfl

end Envelope

/-! The bodies of the replies -/

namespace Json.Value

theorem toPid_ofPid (pid : UInt32) : (ofPid pid).toPid = .ok pid := by
  rw [ofPid, toPid, toWord32_toNat]
  rfl

theorem fits_ofPid (pid : UInt32) (depth : Nat) : (ofPid pid).Fits depth := by
  have small := pid.toNat_lt
  rw [ofPid]
  simp only [Fits]
  exact ⟨by omega, by omega⟩

end Json.Value

namespace BodyFields

variable {wanted : List BodyField} {field : BodyField} {fields next : BodyFields}

theorem ofMembers_cons {key : String} {value : Json.Value}
    (found : wanted.find? (·.text = key) = some field) (taken : fields.set field value = .ok next)
    (members : List (String × Json.Value)) :
    ofMembers wanted fields ((key, value) :: members) = ofMembers wanted next members := by
  simp only [ofMembers, found, taken]

theorem set_name (fields : BodyFields) (name : String) :
    fields.set .name (.string name) = .ok { fields with name := some name } :=
  rfl

theorem set_acknowledged (fields : BodyFields) (flag : Bool) :
    fields.set .acknowledged (.boolean flag) = .ok { fields with acknowledged := some flag } :=
  rfl

theorem set_pid (fields : BodyFields) (pid : UInt32) :
    fields.set .pid (.ofPid pid) = .ok { fields with pid := some pid } := by
  rw [set, Json.Value.toPid_ofPid]
  rfl

end BodyFields

namespace WorkerHealth

theorem fits_toValue (body : WorkerHealth) (depth : Nat) : body.toValue.Fits (depth + 1) := by
  have sorted : "name" < "pid" := by decide
  simp only [toValue, Json.Value.Fits]
  refine ⟨List.pairwise_pair.mpr sorted, fun member inside => ?_⟩
  simp only [List.mem_cons, List.not_mem_nil, or_false] at inside
  rcases inside with rfl | rfl
  · simp only [Json.Value.Fits]
  · exact Json.Value.fits_ofPid ..

theorem ofValue_toValue (body : WorkerHealth) : ofValue body.toValue = .ok body := by
  have name : [BodyField.name, .pid].find? (·.text = "name") = some .name := by decide
  have pid : [BodyField.name, .pid].find? (·.text = "pid") = some .pid := by decide
  have fields : BodyFields.ofValue "WorkerHealth" [.name, .pid] body.toValue =
      .ok ⟨some body.name, some body.pid, none⟩ := by
    rw [toValue, BodyFields.ofValue, BodyFields.ofMembers_cons name (BodyFields.set_name ..),
      BodyFields.ofMembers_cons pid (BodyFields.set_pid ..), BodyFields.ofMembers]
  rw [ofValue, fields]
  rfl

end WorkerHealth

namespace WorkerTermination

theorem fits_toValue (body : WorkerTermination) (depth : Nat) :
    body.toValue.Fits (depth + 1) := by
  have first : "acknowledged" < "name" := by decide
  have outer : "acknowledged" < "pid" := by decide
  have second : "name" < "pid" := by decide
  simp only [toValue, Json.Value.Fits]
  refine ⟨.cons (List.forall_mem_cons.mpr ⟨first, List.forall_mem_singleton.mpr outer⟩)
    (List.pairwise_pair.mpr second), fun member inside => ?_⟩
  simp only [List.mem_cons, List.not_mem_nil, or_false] at inside
  rcases inside with rfl | rfl | rfl
  · simp only [Json.Value.Fits]
  · simp only [Json.Value.Fits]
  · exact Json.Value.fits_ofPid ..

theorem ofValue_toValue (body : WorkerTermination) : ofValue body.toValue = .ok body := by
  have acknowledged : [BodyField.name, .pid, .acknowledged].find? (·.text = "acknowledged") =
      some .acknowledged := by decide
  have name : [BodyField.name, .pid, .acknowledged].find? (·.text = "name") = some .name := by
    decide
  have pid : [BodyField.name, .pid, .acknowledged].find? (·.text = "pid") = some .pid := by decide
  have fields : BodyFields.ofValue "WorkerTermination" [.name, .pid, .acknowledged]
      body.toValue = .ok ⟨some body.name, some body.pid, some body.acknowledged⟩ := by
    rw [toValue, BodyFields.ofValue,
      BodyFields.ofMembers_cons acknowledged (BodyFields.set_acknowledged ..),
      BodyFields.ofMembers_cons name (BodyFields.set_name ..),
      BodyFields.ofMembers_cons pid (BodyFields.set_pid ..), BodyFields.ofMembers]
  rw [ofValue, fields]
  rfl

end WorkerTermination

namespace Envelope

/-- A datagram that is read as an envelope of this topic, with this body in it. -/
def Carries (now : Calendar.Instant) (topic : Topic)
    (read : Json.Value → Except Json.Rejection α) (body : α) (bytes : Bytes) : Prop :=
  ∃ envelope, decodeExpecting now topic bytes = .ok envelope ∧ envelope.payloadAs read = .ok body

theorem carries_encode {envelope : Envelope} {read : Json.Value → Except Json.Rejection α}
    {body : α} (valid : envelope.created.Valid) (fits : envelope.payload.Fits 126)
    (same : read envelope.payload = .ok body) (now : Calendar.Instant) :
    Carries now envelope.topic read body envelope.encode := by
  refine ⟨envelope, decodeExpecting_encode valid fits now, ?_⟩
  rw [payloadAs, same]
  rfl

theorem carries_healthCheckReply {date : Calendar.Instant} (valid : date.Valid)
    (body : WorkerHealth) (now : Calendar.Instant) :
    Carries now .healthCheckReply WorkerHealth.ofValue body
      (healthCheckReply date body).encode :=
  carries_encode (show (healthCheckReply date body).created.Valid from valid)
    (body.fits_toValue 125) body.ofValue_toValue now

theorem carries_terminateWorkerReply {date : Calendar.Instant} (valid : date.Valid)
    (body : WorkerTermination) (now : Calendar.Instant) :
    Carries now .terminateWorkerReply WorkerTermination.ofValue body
      (terminateWorkerReply date body).encode :=
  carries_encode (show (terminateWorkerReply date body).created.Valid from valid)
    (body.fits_toValue 125) body.ofValue_toValue now

end Envelope

end Heartbeat
