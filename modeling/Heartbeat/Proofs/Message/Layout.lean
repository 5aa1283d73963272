import Heartbeat.Proofs.Message.Members
import Heartbeat.Proofs.Message.RoundTrip

/-!
An envelope does not depend on how its object is laid out: not on the order of the members nor on
the blanks, not on members that are no fields, nor on whether a default is written out.
-/

namespace Heartbeat.Envelope

open Json (IsBlank IsString IsObject Derives Writes Sole said? alone compact)

/-! The fields alone -/

/-- The texts of the values of the four fields, of those that are there. -/
structure Parts where
  version : Option Bytes := none
  topic : Bytes
  created : Option Bytes := none
  payload : Option Bytes := none

/-- The only value under a name, if there is one. -/
def Once (name : String) (text : Option Bytes) (pairs : List (Bytes × Bytes)) : Prop :=
  match text with
  | some text => Sole name text pairs
  | none => ∀ pair ∈ pairs, ¬ Writes name pair.1

namespace Parts

/-- The members are these fields in any order, and any others with names of their own. -/
structure AreIn (parts : Parts) (pairs : List (Bytes × Bytes)) : Prop where
  names : ∀ pair ∈ pairs, ∃ name, Writes name pair.1
  version : Once "SchemaVersion" parts.version pairs
  topic : Once "Topic" (some parts.topic) pairs
  created : Once "CreatedDate" parts.created pairs
  payload : Once "Payload" parts.payload pairs

def member (name : String) (text : Option Bytes) : List (Bytes × Bytes) :=
  (text.map fun text => (Json.renderString name, compact text)).toList

def pairs (parts : Parts) : List (Bytes × Bytes) :=
  member "SchemaVersion" parts.version ++ (member "Topic" (some parts.topic) ++
    (member "CreatedDate" parts.created ++ member "Payload" parts.payload))

/-- The fields in their order, and not a blank between them or in them. -/
def text (parts : Parts) : Bytes :=
  Json.objectText parts.pairs

/-- All four fields, those that are not there with their defaults. -/
def filled (now : Calendar.Instant) (parts : Parts) : Parts where
  version := some (parts.version.getD [0x31])
  topic := parts.topic
  created := some (parts.created.getD (Json.renderString (String.ofList now.rfc3339)))
  payload := some (parts.payload.getD Json.wordNull)

structure Derive (parts : Parts) : Prop where
  version : ∀ text ∈ parts.version, Derives .value text
  topic : Derives .value parts.topic
  created : ∀ text ∈ parts.created, Derives .value text
  payload : ∀ text ∈ parts.payload, Derives .value text

/-- The envelope of these fields. -/
def envelope? (now : Calendar.Instant) (parts : Parts) : Option Envelope :=
  field version? (some currentVersion) parts.version.toList >>= fun version =>
    topic? parts.topic >>= fun topic =>
      field created? (some now) parts.created.toList >>= fun created =>
        field payload? (some .null) parts.payload.toList >>= fun payload =>
          some ⟨version, topic, created, payload⟩

end Parts

theorem named_of_once {text : Option Bytes} {pairs : List (Bytes × Bytes)}
    (once : Once name text pairs) (strings : ∀ pair ∈ pairs, IsString pair.1) :
    named name pairs = text.toList := by
  have none_of : ∀ others : List (Bytes × Bytes), (∀ pair ∈ others, IsString pair.1) →
      (∀ pair ∈ others, ¬ Writes name pair.1) → named name others = [] := by
    intro others strings differ
    refine List.filterMap_eq_nil_iff.mpr fun pair member => if_neg fun known => ?_
    exact differ pair member (Json.writes_of_said? (strings pair member) known)
  cases text with
  | none => exact none_of pairs strings once
  | some text =>
      obtain ⟨before, key, behind, rfl, writes, others⟩ := once
      have first := none_of before (fun pair member => strings pair (List.mem_append_left _ member))
        fun pair member => others pair (List.mem_append_left _ member)
      have last := none_of behind
        (fun pair member => strings pair (List.mem_append_right _ (List.mem_cons_of_mem _ member)))
        fun pair member => others pair (List.mem_append_right _ member)
      rw [named] at first last ⊢
      rw [List.filterMap_append, List.filterMap_cons, if_pos writes.said?, first, last]
      rfl

namespace Parts

theorem named_member (name : String) (text : Option Bytes) :
    named name (member name text) = (text.map compact).toList := by
  cases text with
  | none => rfl
  | some text => exact named_cons_of_eq (Json.writes_renderString name).said? []

theorem named_member_of_ne (differs : other ≠ name) (text : Option Bytes) :
    named name (member other text) = [] := by
  cases text with
  | none => rfl
  | some text => exact named_cons_of_ne (Json.writes_renderString other).said? differs []

section

variable (parts : Parts)

theorem named_pairs (name : String) :
    named name parts.pairs =
      named name (member "SchemaVersion" parts.version) ++
        (named name (member "Topic" (some parts.topic)) ++
          (named name (member "CreatedDate" parts.created) ++
            named name (member "Payload" parts.payload))) := by
  rw [pairs, named_append, named_append, named_append]

theorem named_version :
    named "SchemaVersion" parts.pairs = (parts.version.map compact).toList := by
  rw [named_pairs, named_member, named_member_of_ne (by decide), named_member_of_ne (by decide),
    named_member_of_ne (by decide)]
  exact List.append_nil _

theorem named_topic : named "Topic" parts.pairs = [compact parts.topic] := by
  rw [named_pairs, named_member, named_member_of_ne (by decide), named_member_of_ne (by decide),
    named_member_of_ne (by decide)]
  rfl

theorem named_created :
    named "CreatedDate" parts.pairs = (parts.created.map compact).toList := by
  rw [named_pairs, named_member, named_member_of_ne (by decide), named_member_of_ne (by decide),
    named_member_of_ne (by decide)]
  exact List.append_nil _

theorem named_payload :
    named "Payload" parts.pairs = (parts.payload.map compact).toList := by
  rw [named_pairs, named_member, named_member_of_ne (by decide), named_member_of_ne (by decide),
    named_member_of_ne (by decide)]
  rfl

end

variable {parts : Parts} {now : Calendar.Instant}

theorem ofPairs_of_areIn {pairs : List (Bytes × Bytes)} (areIn : parts.AreIn pairs)
    (strings : ∀ pair ∈ pairs, IsString pair.1) :
    ofPairs now pairs = parts.envelope? now := by
  rw [ofPairs, named_of_once areIn.version strings, named_of_once areIn.topic strings,
    named_of_once areIn.created strings, named_of_once areIn.payload strings]
  rfl

theorem field_compact {read : Nat → Bytes → Json.Result α} {default : Option α}
    {text : Option Bytes} (settles : ∀ t ∈ text, Json.Settles read t) :
    field (alone read) default (text.map compact).toList =
      field (alone read) default text.toList := by
  cases text with
  | none => rfl
  | some text => exact (settles text rfl).alone_compact

theorem ofPairs_pairs (derive : parts.Derive) : ofPairs now parts.pairs = parts.envelope? now := by
  have version : field version? (some currentVersion) (parts.version.map compact).toList =
      field version? (some currentVersion) parts.version.toList :=
    field_compact fun t present => Json.settles_readWord32 (derive.version t present)
  have topic : topic? (compact parts.topic) = topic? parts.topic :=
    (Topic.settles_read derive.topic).alone_compact
  have created : field created? (some now) (parts.created.map compact).toList =
      field created? (some now) parts.created.toList :=
    field_compact fun t present => settles_readCreated (derive.created t present)
  have payload : field payload? (some .null) (parts.payload.map compact).toList =
      field payload? (some .null) parts.payload.toList :=
    field_compact fun t present => settles_readPayload (derive.payload t present)
  rw [ofPairs, named_version, named_topic, named_created, named_payload, version, created, payload,
    field, topic]
  rfl

theorem forall_mem_member {holds : Bytes × Bytes → Prop} {name : String} {text : Option Bytes}
    (each : ∀ t ∈ text, holds (Json.renderString name, compact t)) :
    ∀ pair ∈ member name text, holds pair := by
  cases text with
  | none => exact fun _ inside => absurd inside List.not_mem_nil
  | some text => exact List.forall_mem_singleton.mpr (each text rfl)

theorem known_of_mem_pairs (parts : Parts) : ∀ pair ∈ parts.pairs, (said? pair.1).isSome := by
  have known : ∀ name text, ∀ pair ∈ member name text, (said? pair.1).isSome :=
    fun name text => forall_mem_member fun _ _ =>
      Option.isSome_of_eq_some (Json.writes_renderString name).said?
  exact List.forall_mem_append.mpr ⟨known _ _, List.forall_mem_append.mpr
    ⟨known _ _, List.forall_mem_append.mpr ⟨known _ _, known _ _⟩⟩⟩

theorem derives_of_mem_pairs (derive : parts.Derive) :
    ∀ pair ∈ parts.pairs, IsString pair.1 ∧ Derives .value pair.2 := by
  have each : ∀ name text, (∀ t ∈ text, Derives .value t) →
      ∀ pair ∈ member name text, IsString pair.1 ∧ Derives .value pair.2 :=
    fun name _ derives => forall_mem_member fun t present =>
      ⟨(Json.writes_renderString name).isString, (derives t present).compact⟩
  have topic : ∀ t ∈ some parts.topic, Derives .value t := by
    rintro _ ⟨⟩
    exact derive.topic
  exact List.forall_mem_append.mpr ⟨each _ _ derive.version, List.forall_mem_append.mpr
    ⟨each _ _ topic, List.forall_mem_append.mpr
      ⟨each _ _ derive.created, each _ _ derive.payload⟩⟩⟩

theorem decodes_text (derive : parts.Derive) (now : Calendar.Instant) :
    Decodes (parts.envelope? now) (decode now parts.text) := by
  rw [← ofPairs_pairs derive]
  exact decodes_ofPairs (Json.isObject_objectText (derives_of_mem_pairs derive))
    parts.known_of_mem_pairs now

/-! Defaults -/

theorem field_filled {read : Bytes → Option α} {default : α} {spelled : Bytes}
    (reads : read spelled = some default) (text : Option Bytes) :
    field read (some default) (some (text.getD spelled)).toList =
      field read (some default) text.toList := by
  cases text with
  | none => exact reads
  | some text => rfl

theorem created?_rfc3339 (valid : now.Valid) :
    created? (Json.renderString (String.ofList now.rfc3339)) = some now := by
  have read := readCreated_rfc3339 valid []
  rw [List.append_nil] at read
  rw [created?, alone, read]

theorem envelope?_filled (valid : now.Valid) :
    (parts.filled now).envelope? now = parts.envelope? now := by
  have version : version? [0x31] = some currentVersion := rfl
  have payload : payload? Json.wordNull = some .null := rfl
  rw [envelope?, envelope?, filled, field_filled version, field_filled (created?_rfc3339 valid),
    field_filled payload]

theorem Derive.filled (derive : parts.Derive) (now : Calendar.Instant) :
    (parts.filled now).Derive where
  version := by
    rintro _ ⟨⟩
    cases version : parts.version with
    | none =>
        exact .number (.positive
          ⟨[0x31], [], [], .digits rfl (by decide) nofun, .none, .none, rfl⟩)
    | some text => exact derive.version text version
  topic := derive.topic
  created := by
    rintro _ ⟨⟩
    cases created : parts.created with
    | none => exact .string (Json.writes_renderString _).isString
    | some text => exact derive.created text created
  payload := by
    rintro _ ⟨⟩
    cases payload : parts.payload with
    | none => exact .null
    | some text => exact derive.payload text payload

/-- What an envelope has for a field that is not there. -/
structure Defaults (parts : Parts) (now : Calendar.Instant) (envelope : Envelope) : Prop where
  version : parts.version = none → envelope.schemaVersion = 1
  created : parts.created = none → envelope.created = now
  payload : parts.payload = none → envelope.payload = .null

theorem defaults_of_envelope? {envelope : Envelope} (made : parts.envelope? now = some envelope) :
    parts.Defaults now envelope := by
  simp only [envelope?, Option.bind_eq_bind, Option.bind_eq_some_iff] at made
  obtain ⟨version, versioned, topic, -, created, dated, payload, loaded, same⟩ := made
  cases same
  exact {
    version := fun absent => by rw [absent] at versioned; exact (Option.some.inj versioned).symm
    created := fun absent => by rw [absent] at dated; exact (Option.some.inj dated).symm
    payload := fun absent => by rw [absent] at loaded; exact (Option.some.inj loaded).symm }

theorem derive_of_areIn {pairs : List (Bytes × Bytes)} (areIn : parts.AreIn pairs)
    (derives : ∀ pair ∈ pairs, Derives .value pair.2) : parts.Derive := by
  have each : ∀ {name text}, Once name text pairs → ∀ t ∈ text, Derives .value t := by
    rintro name _ once text ⟨⟩
    obtain ⟨before, key, behind, rfl, -, -⟩ := once
    exact derives _ (List.mem_append_right before List.mem_cons_self)
  exact ⟨each areIn.version, each areIn.topic _ rfl, each areIn.created, each areIn.payload⟩

end Parts

/-! Any layout -/

/-- The same envelope, or malformed both. -/
def SameOutcome (result result' : Except CodecFault Envelope) : Prop :=
  (∃ envelope, result = .ok envelope ∧ result' = .ok envelope) ∨
    ∃ diagnosis diagnosis', result = .error (.malformed diagnosis) ∧
      result' = .error (.malformed diagnosis')

theorem Decodes.sameOutcome {made : Option Envelope} {result result' : Except CodecFault Envelope}
    (decodes : Decodes made result) (decodes' : Decodes made result') :
    SameOutcome result result' := by
  cases made with
  | none =>
      obtain ⟨diagnosis, failed⟩ := decodes
      obtain ⟨diagnosis', failed'⟩ := decodes'
      exact .inr ⟨diagnosis, diagnosis', failed, failed'⟩
  | some envelope => exact .inl ⟨envelope, decodes, decodes'⟩

/-- Two members under one name, wherever they stand. -/
def Twice (name : String) (pairs : List (Bytes × Bytes)) : Prop :=
  ∃ before first between second behind,
    pairs = before ++ first :: (between ++ second :: behind) ∧
      Writes name first.1 ∧ Writes name second.1

def fieldNames : List String :=
  ["SchemaVersion", "Topic", "CreatedDate", "Payload"]

theorem field_of_two (read : Bytes → Option α) (default : Option α)
    (before between behind : List Bytes) (first second : Bytes) :
    field read default (before ++ first :: (between ++ second :: behind)) = none := by
  cases before with
  | nil => cases between <;> rfl
  | cons text before => cases before <;> rfl

theorem field_of_twice (twice : Twice name pairs) (read : Bytes → Option α) (default : Option α) :
    field read default (named name pairs) = none := by
  obtain ⟨before, first, between, second, behind, rfl, writes, writes'⟩ := twice
  rw [named_append, named_cons_of_eq writes.said?, named_append, named_cons_of_eq writes'.said?]
  exact field_of_two ..

theorem ofPairs_of_twice (field : name ∈ fieldNames) (twice : Twice name pairs)
    (now : Calendar.Instant) : ofPairs now pairs = none := by
  cases made : ofPairs now pairs with
  | none => rfl
  | some envelope =>
      simp only [ofPairs, Option.bind_eq_bind, Option.bind_eq_some_iff] at made
      obtain ⟨version, versioned, topic, topical, created, dated, payload, loaded, -⟩ := made
      simp only [fieldNames, List.mem_cons, List.not_mem_nil, or_false] at field
      rcases field with rfl | rfl | rfl | rfl
      · cases (field_of_twice twice ..).symm.trans versioned
      · cases (field_of_twice twice ..).symm.trans topical
      · cases (field_of_twice twice ..).symm.trans dated
      · cases (field_of_twice twice ..).symm.trans loaded

theorem malformed_of_twice (object : IsObject pairs text) (field : name ∈ fieldNames)
    (twice : Twice name pairs) (now : Calendar.Instant) :
    ∃ diagnosis, decode now text = .error (.malformed diagnosis) := by
  have decodes := decodes_foldlM object now
  have nothing : (pairs.foldlM Draft.note {} >>= Draft.finish now) = none := by
    by_cases known : ∀ pair ∈ pairs, (said? pair.1).isSome
    · rw [finish_foldlM_note known]
      exact ofPairs_of_twice field twice now
    · simp only [not_forall, Option.not_isSome_iff_eq_none] at known
      obtain ⟨pair, member, unknown⟩ := known
      rw [foldlM_note_of_unknown member unknown]
      rfl
  rw [nothing] at decodes
  exact decodes

theorem decodes_of_areIn {parts : Parts} (object : IsObject pairs text)
    (areIn : parts.AreIn pairs) (now : Calendar.Instant) :
    Decodes (parts.envelope? now) (decode now text) := by
  have derives := object.derives
  rw [← Parts.ofPairs_of_areIn areIn fun pair member => (derives pair member).1]
  refine decodes_ofPairs object (fun pair member => ?_) now
  obtain ⟨name, writes⟩ := areIn.names pair member
  exact Option.isSome_of_eq_some writes.said?

/-- The order of the members, the blanks, and members that are no fields make no difference: an
object is decoded as the compact text of its fields alone, whether the fields that are not there are
left out or written with their defaults. And no field may be there twice. -/
theorem decode_of_layout {pairs : List (Bytes × Bytes)} {text : Bytes}
    (object : IsObject pairs text) (now : Calendar.Instant) :
    (∀ parts : Parts, parts.AreIn pairs →
      SameOutcome (decode now text) (decode now parts.text) ∧
        (∀ envelope, decode now text = .ok envelope → parts.Defaults now envelope) ∧
        (now.Valid → SameOutcome (decode now text) (decode now (parts.filled now).text))) ∧
      ∀ name ∈ fieldNames, Twice name pairs →
        ∃ diagnosis, decode now text = .error (.malformed diagnosis) := by
  refine ⟨fun parts areIn => ?_, fun name field twice => malformed_of_twice object field twice now⟩
  have decodes := decodes_of_areIn object areIn now
  have derive : parts.Derive :=
    Parts.derive_of_areIn areIn fun pair member => (object.derives pair member).2
  refine ⟨decodes.sameOutcome (Parts.decodes_text derive now), fun envelope decoded => ?_,
    fun valid => ?_⟩
  · cases made : parts.envelope? now with
    | none =>
        rw [made] at decodes
        obtain ⟨diagnosis, failed⟩ := decodes
        cases decoded.symm.trans failed
    | some found =>
        rw [made] at decodes
        cases decoded.symm.trans decodes
        exact Parts.defaults_of_envelope? made
  · have filled := Parts.decodes_text (derive.filled now) now
    rw [Parts.envelope?_filled valid] at filled
    exact decodes.sameOutcome filled

/-- A topic between two members of one other name; and two topics with a member between them. -/
theorem decode_of_layout_past_others :
    let now : Calendar.Instant := ⟨0, 0, 0⟩
    let text := Utf8.encode
      "\x7b \"x\" : [\x7b\x7d] ,\"Topic\":\"HealthCheckRequest\",\"x\":true\x7d"
    let topic := (Json.renderString "Topic", Json.renderString "HealthCheckRequest")
    let other := (Json.renderString "x", Json.wordTrue)
    decode now text = .ok (.healthCheckRequest now) ∧
      SameOutcome (decode now text) (decode now (Parts.filled now { topic := topic.2 }).text) ∧
      ∃ diagnosis,
        decode now (Json.objectText [topic, other, topic]) = .error (.malformed diagnosis) := by
  intro now text topic other
  have valid : now.Valid := by constructor <;> decide
  have blank : IsBlank [0x20] := List.forall_mem_singleton.mpr rfl
  have key := Json.writes_renderString "Topic"
  have key' := Json.writes_renderString "x"
  have value : IsString topic.2 := (Json.writes_renderString "HealthCheckRequest").isString
  let pairs := [(other.1, [0x5B, 0x7B, 0x7D, 0x5D]), topic, other]
  have inside : Derives (.members pairs) _ :=
    .moreMembers (.member blank key'.isString blank (.element blank (.list (.lastElement (.element
        Json.isBlank_nil (.emptyObject Json.isBlank_nil) Json.isBlank_nil))) blank))
      (.moreMembers (Json.derives_member key.isString (.string value))
        (.lastMember (Json.derives_member key'.isString .yes)))
  have object : IsObject pairs text :=
    ⟨[], _, [], Json.isBlank_nil, Json.isBlank_nil, by decide +kernel, .inl inside⟩
  have differs : ∀ {name}, name ≠ "x" → ¬ Writes name other.1 :=
    fun apart writes => apart (writes.unique key')
  have absent : ∀ {name}, name ≠ "x" → name ≠ "Topic" → Once name none pairs :=
    fun apart apart' => List.forall_mem_cons.mpr ⟨differs apart, List.forall_mem_cons.mpr
      ⟨fun writes => apart' (writes.unique key), List.forall_mem_singleton.mpr (differs apart)⟩⟩
  have areIn : Parts.AreIn { topic := topic.2 } pairs := {
    names := List.forall_mem_cons.mpr ⟨⟨_, key'⟩, List.forall_mem_cons.mpr
      ⟨⟨_, key⟩, List.forall_mem_singleton.mpr ⟨_, key'⟩⟩⟩
    version := absent (by decide) (by decide)
    topic := ⟨[_], _, [_], rfl, key, List.forall_mem_cons.mpr
      ⟨differs (by decide), List.forall_mem_singleton.mpr (differs (by decide))⟩⟩
    created := absent (by decide) (by decide)
    payload := absent (by decide) (by decide) }
  have twice : Twice "Topic" [topic, other, topic] := ⟨[], _, [_], _, [], rfl, key, key⟩
  have object' : IsObject [topic, other, topic] _ :=
    Json.isObject_objectText <| List.forall_mem_cons.mpr
      ⟨⟨key.isString, .string value⟩, List.forall_mem_cons.mpr
        ⟨⟨key'.isString, .yes⟩, List.forall_mem_singleton.mpr ⟨key.isString, .string value⟩⟩⟩
  exact ⟨by decide +kernel, ((decode_of_layout object now).1 _ areIn).2.2 valid,
    (decode_of_layout object' now).2 _ (by decide) twice⟩

end Heartbeat.Envelope
