import Heartbeat.Message.Codec
import Heartbeat.Proofs.Json.Typed

/-!
Which datagrams are taken for an envelope. An envelope that is read was written as an object with
exactly one topic, or as a list whose second element is the topic; and the topic itself was
written as a string, or as an object around one.
-/

namespace Heartbeat

open Json (IsBlank Derives Writes IsObject ReadsValue Sole)

namespace Topic

/-- The text is this topic, in one of its two spellings. -/
def Names (topic : Topic) (text : Bytes) : Prop :=
  Writes topic.name text ∨ Json.Wraps topic.name text

theorem name_of_ofName? {name : String} {topic : Topic} (found : ofName? name = some topic) :
    topic.name = name := by
  unfold ofName? at found
  have same := List.find?_some found
  exact of_decide_eq_true same

theorem Names.derives {topic : Topic} (names : topic.Names text) : Derives .value text := by
  rcases names with writes | ⟨key, inside, writes, derives, rfl⟩
  · exact .string writes.isString
  · exact .object derives

theorem names_of_read {topic : Topic} {bytes rest : Bytes}
    (taken : read bytes = .ok (topic, rest)) :
    ∃ gap text, IsBlank gap ∧ topic.Names text ∧ bytes = gap ++ (text ++ rest) := by
  obtain ⟨gap, text, name, blank, found, spelled, whole⟩ := Json.names_of_readVariant taken
  rw [← name_of_ofName? found] at spelled
  exact ⟨gap, text, blank, spelled, whole⟩

end Topic

namespace Envelope

theorem readsValue_readCreated : ReadsValue readCreated := by
  intro bytes created rest read
  unfold readCreated at read
  split at read
  · cases read
  · rename_i taken
    split at read
    · cases read
      obtain ⟨gap, text, blank, writes, whole⟩ := Json.writes_of_readText taken
      exact ⟨gap, text, blank, .string writes.isString, whole⟩
    · cases read

theorem readsValue_readPayload (fuel : Nat) : ReadsValue (readPayload fuel) :=
  Json.readsValue_readValue fuel 126

namespace Draft

/-- What a member does to the topic of a draft. -/
def Takes (draft : Draft) (name text : Bytes) (next : Draft) : Prop :=
  (Writes "Topic" name ∧ draft.topic = none ∧
      ∃ topic, next.topic = some topic ∧ topic.Names text) ∨
    (¬ Writes "Topic" name ∧ next.topic = draft.topic)

theorem of_readField {name : String} {old : Option α} {read : Bytes → Json.Result α}
    {store : α → Draft} {bytes rest : Bytes} {draft : Draft}
    (taken : readField name old read store bytes = .ok (draft, rest)) :
    old = none ∧ ∃ gap value more, IsBlank gap ∧ bytes = gap ++ 0x3A :: more ∧
      read more = .ok (value, rest) ∧ draft = store value := by
  unfold readField at taken
  split at taken
  · cases taken
  · split at taken
    · cases taken
    · rename_i colon
      obtain ⟨⟨value, rest'⟩, got, same⟩ := Json.eq_of_map_ok taken
      cases same
      obtain ⟨gap, blank, whole⟩ := Json.colon_of_skipColon colon
      exact ⟨rfl, gap, value, _, blank, whole, got, rfl⟩

/-- What follows the name of a member: a colon and a value. -/
def IsRest (text bytes rest : Bytes) : Prop :=
  ∃ gap before, IsBlank gap ∧ IsBlank before ∧ Derives .value text ∧
    bytes = gap ++ 0x3A :: (before ++ (text ++ rest))

theorem IsRest.member (isRest : IsRest text bytes rest) (writes : Writes name key) :
    ∃ part, Derives (.member key text) part ∧ key ++ bytes = part ++ rest := by
  obtain ⟨gap, before, blank, blank', derives, rfl⟩ := isRest
  refine ⟨_, .member Json.isBlank_nil writes.isString blank
    (.element blank' derives Json.isBlank_nil), ?_⟩
  simp only [List.append_assoc, List.cons_append, List.nil_append]

theorem isRest_of_readField {name : String} {old : Option α} {read : Bytes → Json.Result α}
    {store : α → Draft} {bytes rest : Bytes} {draft next : Draft} (reads : ReadsValue read)
    (taken : readField name old read store bytes = .ok (next, rest))
    (keeps : ∀ value, (store value).topic = draft.topic) :
    next.topic = draft.topic ∧ ∃ text, IsRest text bytes rest := by
  obtain ⟨-, gap, value, more, blank, rfl, got, rfl⟩ := of_readField taken
  obtain ⟨before, text, blank', derives, rfl⟩ := reads _ _ _ got
  exact ⟨keeps value, text, gap, before, blank, blank', derives, rfl⟩

theorem readsMember_readMember (fuel : Nat) : Json.ReadsMember Takes (readMember fuel) := by
  intro draft bytes next rest taken
  unfold readMember at taken
  split at taken
  · cases taken
  · rename_i name after named
    obtain ⟨key, writes, whole⟩ := Json.writes_of_readString named
    have passed : name ≠ "Topic" → (next.topic = draft.topic ∧ ∃ text, IsRest text after rest) →
        ∃ name text part, Derives (.member name text) part ∧ 0x22 :: bytes = part ++ rest ∧
          draft.Takes name text next := by
      rintro differs ⟨keeps, text, isRest⟩
      obtain ⟨part, derives, same⟩ := isRest.member writes
      exact ⟨key, text, part, derives, whole.trans same,
        .inr ⟨fun writes' => differs (writes.unique writes'), keeps⟩⟩
    split at taken
    · rename_i same
      exact passed (by rw [same]; decide)
        (isRest_of_readField Json.readsValue_readWord32 taken fun _ => rfl)
    · split at taken
      · rename_i same
        subst same
        obtain ⟨absent, gap, topic, more, blank, rfl, got, rfl⟩ := of_readField taken
        obtain ⟨before, text, blank', names, rfl⟩ := Topic.names_of_read got
        have isRest : IsRest text (gap ++ 0x3A :: (before ++ (text ++ rest))) rest :=
          ⟨gap, before, blank, blank', names.derives, rfl⟩
        obtain ⟨part, derives, same⟩ := isRest.member writes
        exact ⟨key, text, part, derives, whole.trans same,
          .inl ⟨writes, absent, topic, rfl, names⟩⟩
      · rename_i notTopic
        split at taken
        · exact passed notTopic (isRest_of_readField readsValue_readCreated taken fun _ => rfl)
        · split at taken
          · exact passed notTopic
              (isRest_of_readField (readsValue_readPayload fuel) taken fun _ => rfl)
          · split at taken
            · cases taken
            · rename_i colon
              obtain ⟨rest', skipped, same⟩ := Json.eq_of_map_ok taken
              cases same
              obtain ⟨gap, blank, rfl⟩ := Json.colon_of_skipColon colon
              obtain ⟨before, text, blank', derives, rfl⟩ := Json.derives_of_skipValue skipped
              exact passed notTopic ⟨rfl, text, gap, before, blank, blank', derives, rfl⟩

theorem not_writes_of_gathers {topic : Topic} {draft last : Draft}
    (gathers : Json.Gathers Takes draft pairs last)
    (present : draft.topic = some topic) :
    last.topic = some topic ∧ ∀ pair ∈ pairs, ¬ Writes "Topic" pair.1 := by
  induction gathers with
  | nil => exact ⟨present, fun _ member => absurd member List.not_mem_nil⟩
  | cons takes _ ih =>
      rcases takes with ⟨-, absent, -⟩ | ⟨other, keeps⟩
      · rw [present] at absent
        exact absurd absent (Option.some_ne_none topic)
      · obtain ⟨final, none⟩ := ih (keeps.trans present)
        exact ⟨final, List.forall_mem_cons.mpr ⟨other, none⟩⟩

theorem sole_of_gathers {topic : Topic} {draft last : Draft}
    (gathers : Json.Gathers Takes draft pairs last) (absent : draft.topic = none)
    (present : last.topic = some topic) :
    ∃ value, Json.Sole "Topic" value pairs ∧ topic.Names value := by
  induction gathers with
  | nil =>
      rw [absent] at present
      exact absurd present.symm (Option.some_ne_none topic)
  | @cons draft name value next pairs last takes more ih =>
      rcases takes with ⟨writes, -, found, stored, names⟩ | ⟨other, keeps⟩
      · obtain ⟨final, none⟩ := not_writes_of_gathers more stored
        rw [present] at final
        cases final
        exact ⟨value, ⟨[], name, pairs, rfl, writes, none⟩, names⟩
      · obtain ⟨value', ⟨before, key, behind, rfl, writes, none⟩, names⟩ :=
          ih (keeps.trans absent) present
        exact ⟨value', ⟨(name, value) :: before, key, behind, rfl, writes,
          List.forall_mem_cons.mpr ⟨other, none⟩⟩, names⟩

end Draft

theorem sole_of_readObject {now : Calendar.Instant} {fuel : Nat} {bytes rest : Bytes}
    {envelope : Envelope} (taken : readObject now fuel bytes = .ok (envelope, rest)) :
    ∃ pairs inside value, (Derives (.members pairs) inside ∨ pairs = [] ∧ IsBlank inside) ∧
      bytes = inside ++ 0x7D :: rest ∧ Json.Sole "Topic" value pairs ∧
      envelope.topic.Names value := by
  unfold readObject at taken
  split at taken
  · cases taken
  · rename_i draft rest' members
    split at taken
    · rename_i finished
      cases taken
      obtain ⟨topic, present, rfl⟩ := Option.map_eq_some_iff.mp finished
      obtain ⟨pairs, inside, derives, gathers, whole⟩ :=
        Json.members_of_readMembers (Draft.readsMember_readMember fuel) members
      obtain ⟨value, sole, names⟩ := Draft.sole_of_gathers gathers rfl present
      exact ⟨pairs, inside, value, derives, whole, sole, names⟩
    · cases taken

theorem names_of_readList {now : Calendar.Instant} {fuel : Nat} {bytes rest : Bytes}
    {envelope : Envelope} (taken : readList now fuel bytes = .ok (envelope, rest)) :
    ∃ texts inside value, Derives (.elements texts) inside ∧ bytes = inside ++ 0x5D :: rest ∧
      texts[1]? = some value ∧ envelope.topic.Names value := by
  obtain ⟨⟨version?, afterVersion⟩, version, taken⟩ := Json.eq_of_bind_ok taken
  obtain ⟨⟨topic?, afterTopic⟩, topic, taken⟩ := Json.eq_of_bind_ok taken
  cases topic? with
  | none => cases taken
  | some found =>
      obtain ⟨⟨created?, afterCreated⟩, created, taken⟩ := Json.eq_of_bind_ok taken
      obtain ⟨⟨payload?, afterPayload⟩, payload, taken⟩ := Json.eq_of_bind_ok taken
      obtain ⟨afterList, close, taken⟩ := Json.eq_of_bind_ok taken
      cases taken
      obtain ⟨gap, blank, ended⟩ := Json.close_of_expectListEnd close
      obtain ⟨texts, text, tail, rfl⟩ :=
        Json.listTail_of_readOptional readsValue_readCreated created
          (Json.listTail_of_readOptional (readsValue_readPayload fuel) payload
            ⟨[], _, .done blank, ended.trans (List.append_cons ..)⟩)
      obtain ⟨gap', gap'', more, blank', blank'', rfl, named⟩ := Json.readOptional_some topic
      obtain ⟨before, value, behind, names, rfl⟩ := Topic.names_of_read named
      have tail' := tail.cons blank' blank'' behind names.derives
      cases version? with
      | none =>
          -- Without a version the list has ended, but the topic came after a comma.
          obtain ⟨rfl, start, more, blank₀, whole⟩ := Json.readOptional_none version
          cases Json.eq_of_gap_append blank' blank₀ rfl rfl whole
      | some counted =>
          obtain ⟨start, more, blank₀, rfl, counts⟩ := Json.readOptional_first version
          obtain ⟨before', text', blank₁, derives, rfl⟩ := Json.readsValue_readWord32 _ _ _ counts
          obtain ⟨inside, elements, whole⟩ := tail'.elements blank₁ derives
          refine ⟨_, start ++ inside, value, elements.elements_after_gap blank₀, ?_, rfl, names⟩
          have whole' := congrArg (start ++ · ++ rest) whole
          simpa only [List.append_assoc, List.cons_append, List.nil_append] using whole'

theorem isBlank_of_expectEnd {bytes : Bytes} (ended : Json.expectEnd bytes = .ok ()) :
    IsBlank bytes := by
  unfold Json.expectEnd at ended
  split at ended
  · rename_i nothing
    obtain ⟨gap, blank, rfl⟩ := Json.gap_of_skipSpace nothing
    rw [List.append_nil]
    exact blank
  · cases ended

/-- The datagram is an object with exactly one topic. -/
def IsObjectOf (topic : Topic) (bytes : Bytes) : Prop :=
  ∃ pairs value, IsObject pairs bytes ∧ Sole "Topic" value pairs ∧ topic.Names value

/-- The datagram is a list whose second element is the topic. -/
def IsListOf (topic : Topic) (bytes : Bytes) : Prop :=
  ∃ texts value, Json.IsList texts bytes ∧ texts[1]? = some value ∧ topic.Names value

theorem form_of_parse {now : Calendar.Instant} {bytes : Bytes} {envelope : Envelope}
    (parsed : parse now bytes = .ok envelope) :
    IsObjectOf envelope.topic bytes ∨ IsListOf envelope.topic bytes := by
  unfold parse at parsed
  split at parsed
  · cases parsed
  · rename_i rest taken
    obtain ⟨_, ended, same⟩ := Json.eq_of_map_ok parsed
    cases same
    have behind := isBlank_of_expectEnd ended
    unfold read at taken
    split at taken
    · cases taken
    · rename_i same
      obtain ⟨before, blank, rfl⟩ := Json.gap_of_skipSpace same
      obtain ⟨texts, inside, value, derives, rfl, second, names⟩ := names_of_readList taken
      exact .inr ⟨texts, value, ⟨before, inside, rest, blank, behind, rfl, derives⟩, second, names⟩
    · rename_i same
      obtain ⟨before, blank, rfl⟩ := Json.gap_of_skipSpace same
      obtain ⟨pairs, inside, value, derives, rfl, sole, names⟩ := sole_of_readObject taken
      exact .inl ⟨pairs, value, ⟨before, inside, rest, blank, behind, rfl, derives⟩, sole, names⟩
    · cases taken

theorem form_of_decodeExpecting {now : Calendar.Instant} {topic : Topic} {bytes : Bytes}
    {envelope : Envelope} (accepted : decodeExpecting now topic bytes = .ok envelope) :
    IsObjectOf topic bytes ∨ IsListOf topic bytes := by
  unfold decodeExpecting decode at accepted
  cases parsed : parse now bytes with
  | error fault =>
      rw [parsed] at accepted
      cases accepted
  | ok found =>
      rw [parsed] at accepted
      change (if found.topic = topic then _ else _) = _ at accepted
      split at accepted
      · rename_i expected
        rw [← expected]
        exact form_of_parse parsed
      · cases accepted

/-- The datagram is a JSON object with exactly one member `Topic`, and that is the name of this
topic as a string. -/
def InWireForm (topic : Topic) (bytes : Bytes) : Prop :=
  (Utf8.decode? bytes).isSome ∧
    ∃ pairs value, IsObject pairs bytes ∧ Sole "Topic" value pairs ∧
      Writes topic.name value

/-- Every datagram that is accepted names the topic in an object or in a list, and it is in the
wire form exactly if it is UTF-8 and the object's topic is written as a string. -/
theorem form_of_accepted {now : Calendar.Instant} {topic : Topic} {bytes : Bytes}
    {envelope : Envelope} (accepted : decodeExpecting now topic bytes = .ok envelope) :
    (IsObjectOf topic bytes ∨ IsListOf topic bytes) ∧
      (InWireForm topic bytes ↔ (Utf8.decode? bytes).isSome ∧
        ∃ pairs value, IsObject pairs bytes ∧ Sole "Topic" value pairs ∧
          value.head? = some 0x22) := by
  have form := form_of_decodeExpecting accepted
  refine ⟨form, ?_⟩
  constructor
  · rintro ⟨unicode, pairs, value, object, sole, body, -, rfl⟩
    exact ⟨unicode, pairs, _, object, sole, rfl⟩
  · rintro ⟨unicode, pairs, value, object, sole, quote⟩
    rcases form with ⟨pairs', value', object', sole', names⟩ | ⟨texts, second, list, -, -⟩
    · cases object.unique object'
      cases sole.unique sole'
      rcases names with writes | ⟨key, inside, -, -, rfl⟩
      · exact ⟨unicode, pairs, value, object, sole, writes⟩
      · cases quote
    · exact absurd list (object.not_isList texts)

theorem form_of_plain_request :
    InWireForm .terminateWorkerRequest
      (Utf8.encode "\x7b\"Topic\":\"TerminateWorkerRequest\"\x7d") := by
  have accepted : decodeExpecting ⟨0, 0, 0⟩ .terminateWorkerRequest
      (Utf8.encode "\x7b\"Topic\":\"TerminateWorkerRequest\"\x7d") =
      .ok (.terminateWorkerRequest ⟨0, 0, 0⟩) := by decide +kernel
  have unicode : (Utf8.decode?
      (Utf8.encode "\x7b\"Topic\":\"TerminateWorkerRequest\"\x7d")).isSome = true := by
    rw [Utf8.decode?_encode]
    rfl
  have whole : Utf8.encode "\x7b\"Topic\":\"TerminateWorkerRequest\"\x7d" =
      [] ++ 0x7B :: (Json.renderString "Topic" ++ 0x3A ::
        Json.renderString "TerminateWorkerRequest" ++ 0x7D :: []) := by decide +kernel
  have name := Json.writes_renderString "Topic"
  have text := Json.writes_renderString "TerminateWorkerRequest"
  have member := Derives.member Json.isBlank_nil name.isString Json.isBlank_nil
    (.element Json.isBlank_nil (.string text.isString) Json.isBlank_nil)
  rw [List.nil_append, List.nil_append, List.nil_append, List.append_nil] at member
  have object : IsObject [(Json.renderString "Topic", Json.renderString "TerminateWorkerRequest")]
      (Utf8.encode "\x7b\"Topic\":\"TerminateWorkerRequest\"\x7d") :=
    ⟨[], _, [], Json.isBlank_nil, Json.isBlank_nil, whole, .inl (.lastMember member)⟩
  have sole : Sole "Topic" (Json.renderString "TerminateWorkerRequest")
      [(Json.renderString "Topic", Json.renderString "TerminateWorkerRequest")] :=
    ⟨[], _, [], rfl, name, fun _ inside => absurd inside List.not_mem_nil⟩
  exact (form_of_accepted accepted).2.mpr ⟨unicode, _, _, object, sole, rfl⟩

/-- A list without any member is accepted. -/
theorem list_is_accepted :
    let datagram := Utf8.encode "[1,\"TerminateWorkerRequest\"]"
    (decodeExpecting ⟨0, 0, 0⟩ .terminateWorkerRequest datagram).isOk ∧
      ¬ InWireForm .terminateWorkerRequest datagram := by
  intro datagram
  refine ⟨by decide +kernel, ?_⟩
  rintro ⟨-, pairs, value, ⟨before, inside, behind, blank, -, same, -⟩, -⟩
  have starts : datagram = [] ++ 0x5B :: datagram.tail := by decide +kernel
  rw [starts] at same
  cases Json.eq_of_gap_append Json.isBlank_nil blank rfl rfl same

end Envelope

end Heartbeat
