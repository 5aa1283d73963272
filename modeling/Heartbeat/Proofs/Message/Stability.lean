import Heartbeat.Proofs.Calendar.Readable
import Heartbeat.Proofs.Json.Ranges
import Heartbeat.Proofs.Message.Acceptance
import Heartbeat.Proofs.Message.RoundTrip

/-!
What has been read once stays as it is. However a datagram was spelled, its envelope is written and
read again without a change, unless there is a float in its payload.
-/

namespace Heartbeat.Envelope

/-- A date that can be printed and a payload that can be, floats apart. -/
structure Readable (created : Calendar.Instant) (payload : Json.Value) : Prop where
  created : created.Valid
  payload : payload.FloatFree → payload.Fits 126

theorem valid_of_readCreated {bytes rest : Bytes} {t : Calendar.Instant}
    (read : readCreated bytes = .ok (t, rest)) : t.Valid := by
  unfold readCreated at read
  split at read
  · cases read
  · split at read
    · rename_i instant
      cases read
      exact Calendar.valid_of_readInstant instant
    · cases read

namespace Draft

structure Readable (draft : Draft) : Prop where
  created : ∀ t ∈ draft.created, t.Valid
  payload : ∀ value ∈ draft.payload, value.FloatFree → value.Fits 126

theorem readable_of_readMember {fuel : Nat} {draft next : Draft} {bytes rest : Bytes}
    (took : readMember fuel draft bytes = .ok (next, rest)) (readable : draft.Readable) :
    next.Readable := by
  unfold readMember at took
  split at took
  · cases took
  · split at took
    · obtain ⟨-, _, _, _, _, _, _, rfl⟩ := of_readField took
      exact ⟨readable.created, readable.payload⟩
    · split at took
      · obtain ⟨-, _, _, _, _, _, _, rfl⟩ := of_readField took
        exact ⟨readable.created, readable.payload⟩
      · split at took
        · obtain ⟨-, _, t, _, _, _, read, rfl⟩ := of_readField took
          refine ⟨?_, readable.payload⟩
          rintro _ ⟨⟩
          exact valid_of_readCreated read
        · split at took
          · obtain ⟨-, _, value, _, _, _, read, rfl⟩ := of_readField took
            refine ⟨readable.created, ?_⟩
            rintro _ ⟨⟩
            exact Json.yields_readValue fuel 126 _ _ _ read
          · split at took
            · cases took
            · obtain ⟨_, _, same⟩ := Json.eq_of_map_ok took
              cases same
              exact readable

end Draft

variable {now : Calendar.Instant} {fuel : Nat} {bytes rest : Bytes} {envelope : Envelope}

/-- A value that is not there may be replaced. -/
theorem holds_getD {holds : α → Prop} {held : Option α} {default : α}
    (value : ∀ a ∈ held, holds a) (absent : holds default) : holds (held.getD default) := by
  cases held with
  | none => exact absent
  | some a => exact value a rfl

theorem readable_of_parts {created : Option Calendar.Instant} {payload : Option Json.Value}
    (clock : now.Valid) (valid : ∀ t ∈ created, t.Valid)
    (fits : ∀ value ∈ payload, value.FloatFree → value.Fits 126) :
    Readable (created.getD now) (payload.getD .null) where
  created := holds_getD valid clock
  payload := holds_getD fits fun _ => by simp only [Json.Value.Fits]

theorem readable_of_readObject (clock : now.Valid)
    (read : readObject now fuel bytes = .ok (envelope, rest)) :
    Readable envelope.created envelope.payload := by
  unfold readObject at read
  split at read
  · cases read
  · rename_i draft _ members
    have readable : draft.Readable :=
      Json.holds_of_readMembers Draft.Readable (fun _ _ _ _ => Draft.readable_of_readMember)
        members ⟨nofun, nofun⟩
    split at read
    · rename_i finished
      cases read
      obtain ⟨topic, _, rfl⟩ := Option.map_eq_some_iff.mp finished
      exact readable_of_parts clock readable.created readable.payload
    · cases read

theorem holds_of_readOptional {read : Bytes → Json.Result α} {holds : α → Prop} {held : Option α}
    (keeps : ∀ bytes value rest, read bytes = .ok (value, rest) → holds value)
    (took : Json.readOptional read false bytes = .ok (held, rest)) : ∀ a ∈ held, holds a := by
  rintro a ⟨⟩
  obtain ⟨_, _, _, _, _, _, got⟩ := Json.readOptional_some took
  exact keeps _ _ _ got

theorem readable_of_readList (clock : now.Valid)
    (read : readList now fuel bytes = .ok (envelope, rest)) :
    Readable envelope.created envelope.payload := by
  obtain ⟨⟨version, _⟩, _, read⟩ := Json.eq_of_bind_ok read
  obtain ⟨⟨topic, _⟩, _, read⟩ := Json.eq_of_bind_ok read
  cases topic with
  | none => cases read
  | some topic =>
      obtain ⟨⟨created, _⟩, dated, read⟩ := Json.eq_of_bind_ok read
      obtain ⟨⟨payload, _⟩, loaded, read⟩ := Json.eq_of_bind_ok read
      obtain ⟨_, _, read⟩ := Json.eq_of_bind_ok read
      cases read
      exact readable_of_parts clock
        (holds_of_readOptional (fun _ _ _ => valid_of_readCreated) dated)
        (holds_of_readOptional (Json.yields_readValue fuel 126) loaded)

theorem readable_of_decode (clock : now.Valid) (decoded : decode now bytes = .ok envelope) :
    Readable envelope.created envelope.payload := by
  have parsed := Json.eq_of_mapError_ok decoded
  unfold parse at parsed
  split at parsed
  · cases parsed
  · rename_i found rest taken
    obtain ⟨_, _, same⟩ := Json.eq_of_map_ok parsed
    cases same
    unfold read at taken
    split at taken
    · cases taken
    · exact readable_of_readList clock taken
    · exact readable_of_readObject clock taken
    · cases taken

/-! Whether a datagram is read does not depend on when. -/

theorem readObject_later (taken : readObject now fuel bytes = .ok (envelope, rest))
    (later : Calendar.Instant) :
    ∃ found, readObject later fuel bytes = .ok (found, rest) ∧ found.topic = envelope.topic := by
  unfold readObject at taken ⊢
  split at taken
  · cases taken
  · rename_i draft rest' members
    split at taken
    · rename_i finished
      cases taken
      obtain ⟨topic, present, rfl⟩ := Option.map_eq_some_iff.mp finished
      rw [Draft.finish, present]
      exact ⟨_, rfl, rfl⟩
    · cases taken

theorem readList_later (taken : readList now fuel bytes = .ok (envelope, rest))
    (later : Calendar.Instant) :
    ∃ found, readList later fuel bytes = .ok (found, rest) ∧ found.topic = envelope.topic := by
  obtain ⟨⟨version?, _⟩, version, taken⟩ := Json.eq_of_bind_ok taken
  obtain ⟨⟨topic?, _⟩, topic, taken⟩ := Json.eq_of_bind_ok taken
  cases topic? with
  | none => cases taken
  | some found =>
      obtain ⟨⟨created?, _⟩, created, taken⟩ := Json.eq_of_bind_ok taken
      obtain ⟨⟨payload?, _⟩, payload, taken⟩ := Json.eq_of_bind_ok taken
      obtain ⟨_, close, taken⟩ := Json.eq_of_bind_ok taken
      cases taken
      refine ⟨⟨version?.getD currentVersion, found, created?.getD later, payload?.getD .null⟩, ?_,
        rfl⟩
      simp only [readList, version, topic, created, payload, close, bind, Except.bind]
      rfl

theorem decode_later (decoded : decode now bytes = .ok envelope) (later : Calendar.Instant) :
    ∃ found, decode later bytes = .ok found ∧ found.topic = envelope.topic := by
  have parsed := Json.eq_of_mapError_ok decoded
  unfold parse at parsed
  split at parsed
  · cases parsed
  · rename_i found rest taken
    obtain ⟨_, ended, same⟩ := Json.eq_of_map_ok parsed
    cases same
    have again : ∃ found, read later (bytes.length + 1) bytes = .ok (found, rest) ∧
        found.topic = envelope.topic := by
      unfold read at taken ⊢
      split at taken
      · cases taken
      · exact readList_later taken later
      · exact readObject_later taken later
      · cases taken
    obtain ⟨found, read, topic⟩ := again
    refine ⟨found, ?_, topic⟩
    simp only [decode, parse, read, ended]
    rfl

theorem isOk_decodeExpecting (now later : Calendar.Instant) (topic : Topic) (bytes : Bytes) :
    (decodeExpecting now topic bytes).isOk = (decodeExpecting later topic bytes).isOk := by
  have one_way : ∀ first second : Calendar.Instant,
      (decodeExpecting first topic bytes).isOk → (decodeExpecting second topic bytes).isOk := by
    intro first second accepted
    unfold decodeExpecting at accepted ⊢
    split at accepted
    · cases accepted
    · rename_i envelope decoded
      obtain ⟨found, again, same⟩ := decode_later decoded second
      simp only [again, same]
      split at accepted
      · rename_i expected
        rw [if_pos expected]
        rfl
      · cases accepted
  exact Bool.eq_iff_iff.mpr ⟨one_way now later, one_way later now⟩

/-- However an envelope was written, it is written and read again as it is, at whatever time. -/
theorem decode_encode_of_decode (clock : now.Valid) (decoded : decode now bytes = .ok envelope)
    (floatFree : envelope.payload.FloatFree) (later : Calendar.Instant) :
    decode later envelope.encode = .ok envelope ∧
      ∀ again, decode later envelope.encode = .ok again → again.encode = envelope.encode := by
  have readable := readable_of_decode clock decoded
  have same := decode_encode readable.created (readable.payload floatFree) later
  refine ⟨same, fun again decodedAgain => ?_⟩
  rw [same] at decodedAgain
  cases decodedAgain
  rfl

/-- A leap second of a late year in another zone, names out of order and one of them twice. -/
theorem decode_encode_of_late_leap_second :
    let datagram := Utf8.encode <|
      "\x7b\"Topic\":\"HealthCheckReply\",\"CreatedDate\":\"+12016-12-31T18:59:60.5-05:00\"," ++
        "\"Payload\":\x7b\"b\":1e0,\"a\":[-1,18446744073709551615,\"\\u001f\"]," ++
        "\"b\":\x7b\x7d\x7d\x7d"
    let envelope : Envelope :=
      ⟨1, .healthCheckReply, ⟨3669591, 86399, 1500000000⟩,
        .object [("a", .array [.number (.integer (-1)), .number (.integer 18446744073709551615),
          .string "\u001f"]), ("b", .object [])]⟩;
    decode ⟨0, 0, 0⟩ datagram = .ok envelope ∧
      decode ⟨1, 2, 3⟩ envelope.encode = .ok envelope := by
  intro datagram envelope
  have clock : Calendar.Instant.Valid ⟨0, 0, 0⟩ := by
    constructor <;> decide
  have decoded : decode ⟨0, 0, 0⟩ datagram = .ok envelope := by decide +kernel
  have floatFree : envelope.payload.FloatFree := by
    refine .object (List.forall_mem_cons.mpr
      ⟨.array (List.forall_mem_cons.mpr ⟨.integer _, ?_⟩),
        List.forall_mem_singleton.mpr (.object nofun)⟩)
    exact List.forall_mem_cons.mpr ⟨.integer _, List.forall_mem_singleton.mpr (.string _)⟩
  exact ⟨decoded, (decode_encode_of_decode clock decoded floatFree ⟨1, 2, 3⟩).1⟩

end Heartbeat.Envelope
