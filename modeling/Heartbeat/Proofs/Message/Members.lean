import Heartbeat.Proofs.Message.Fields

/-!
What is read of an object is what is read of the values of its four fields, wherever they stand and
whatever else the object holds.
-/

namespace Heartbeat.Envelope

open Json (IsBlank IsString IsObject Derives Ends Comes said? alone)

def version? (text : Bytes) : Option UInt32 :=
  alone (fun _ => Json.readWord32) text

def topic? (text : Bytes) : Option Topic :=
  alone (fun _ => Topic.read) text

def created? (text : Bytes) : Option Calendar.Instant :=
  alone (fun _ => readCreated) text

def payload? (text : Bytes) : Option Json.Value :=
  alone readPayload text

/-! One member after another -/

namespace Draft

/-- A field can be filled only once. -/
def fill (old made : Option α) (store : α → Draft) : Option Draft :=
  match old with
  | some _ => none
  | none => made.map store

/-- What a member makes of a draft. -/
def note (draft : Draft) (pair : Bytes × Bytes) : Option Draft :=
  said? pair.1 >>= fun name =>
    if name = "SchemaVersion" then
      fill draft.schemaVersion (version? pair.2)
        fun version => { draft with schemaVersion := some version }
    else if name = "Topic" then
      fill draft.topic (topic? pair.2) fun topic => { draft with topic := some topic }
    else if name = "CreatedDate" then
      fill draft.created (created? pair.2) fun t => { draft with created := some t }
    else if name = "Payload" then
      fill draft.payload (payload? pair.2) fun payload => { draft with payload := some payload }
    else some draft

theorem comes_readField {read : Nat → Bytes → Json.Result α} (settles : Json.Settles read text)
    (name : String) (old : Option α) (store : α → Draft) (blank : IsBlank gap)
    (blankBefore : IsBlank before) (ends : Ends rest) {fuel : Nat}
    (enough : (before ++ (text ++ rest)).length < fuel) :
    Comes (fill old (alone read text) store) rest
      (readField name old (read fuel) store (gap ++ 0x3A :: (before ++ (text ++ rest)))) := by
  cases old with
  | some value => exact .error _ rest
  | none =>
      simp only [readField, Json.skipColon_gap blank]
      exact (settles.makes fuel before rest blankBefore ends enough).map store

theorem notes_readMember (string : IsString name) (derives : Derives .value text) :
    Json.NotesMember readMember note (name, text) := by
  intro fuel draft gap before rest blank blankBefore ends enough
  have short : (before ++ (text ++ rest)).length < fuel := by
    simp only [List.length_append, List.length_cons] at enough ⊢
    omega
  unfold readMember note
  obtain ⟨made, fault, failed⟩ | ⟨said, made, read⟩ :=
    (Json.comes_readString string (gap ++ 0x3A :: (before ++ (text ++ rest)))).cases
  · simp only [made, failed]
    exact .error fault rest
  · simp only [made, read]
    show Comes (if said = "SchemaVersion" then _ else _) rest _
    by_cases version : said = "SchemaVersion"
    · rw [if_pos version, if_pos version]
      exact comes_readField (Json.settles_readWord32 derives) _ _ _ blank blankBefore ends short
    · rw [if_neg version, if_neg version]
      by_cases topic : said = "Topic"
      · rw [if_pos topic, if_pos topic]
        exact comes_readField (Topic.settles_read derives) _ _ _ blank blankBefore ends short
      · rw [if_neg topic, if_neg topic]
        by_cases created : said = "CreatedDate"
        · rw [if_pos created, if_pos created]
          exact comes_readField (settles_readCreated derives) _ _ _ blank blankBefore ends short
        · rw [if_neg created, if_neg created]
          by_cases payload : said = "Payload"
          · rw [if_pos payload, if_pos payload]
            exact comes_readField (settles_readPayload derives) _ _ _ blank blankBefore ends short
          · rw [if_neg payload, if_neg payload, Json.skipColon_gap blank]
            simp only [Json.skipValue_of_derives derives blankBefore ends short]
            exact .ok draft rest

end Draft

/-! Field by field -/

/-- The texts of the values under a name, in their order. -/
def named (name : String) (pairs : List (Bytes × Bytes)) : List Bytes :=
  pairs.filterMap fun pair => if said? pair.1 = some name then some pair.2 else none

/-- What comes of a field with something in it already. -/
def gather (read : Bytes → Option α) (old : Option α) : List Bytes → Option (Option α)
  | [] => some old
  | text :: texts =>
      match old with
      | some _ => none
      | none => read text >>= fun value => gather read (some value) texts

theorem named_cons_of_eq (known : said? pair.1 = some name) (pairs : List (Bytes × Bytes)) :
    named name (pair :: pairs) = pair.2 :: named name pairs := by
  rw [named, List.filterMap_cons, if_pos known]
  rfl

theorem named_cons_of_ne (known : said? pair.1 = some other) (differs : other ≠ name)
    (pairs : List (Bytes × Bytes)) : named name (pair :: pairs) = named name pairs := by
  have apart : said? pair.1 ≠ some name :=
    fun same => differs (Option.some.inj (known.symm.trans same))
  rw [named, List.filterMap_cons, if_neg apart]
  rfl

theorem named_append (name : String) (pairs others : List (Bytes × Bytes)) :
    named name (pairs ++ others) = named name pairs ++ named name others :=
  List.filterMap_append

namespace Draft

/-- A draft of these fields, unless one of them could not be filled. -/
def ofFields (version : Option (Option UInt32)) (topic : Option (Option Topic))
    (created : Option (Option Calendar.Instant)) (payload : Option (Option Json.Value)) :
    Option Draft :=
  version >>= fun version => topic >>= fun topic => created >>= fun created =>
    payload >>= fun payload => some ⟨version, topic, created, payload⟩

section

variable (version : Option (Option UInt32)) (topic : Option (Option Topic))
  (created : Option (Option Calendar.Instant)) (payload : Option (Option Json.Value))

theorem ofFields_none_topic : ofFields version none created payload = none := by
  cases version <;> rfl

theorem ofFields_none_created : ofFields version topic none payload = none := by
  cases version with
  | none => rfl
  | some version => cases topic <;> rfl

theorem ofFields_none_payload : ofFields version topic created none = none := by
  cases version with
  | none => rfl
  | some version =>
      cases topic with
      | none => rfl
      | some topic => cases created <;> rfl

end

/-- To fill a field and go on is to go on with the other fields as they are. -/
theorem fill_bind {read : Bytes → Option α} {old : Option α} {store : α → Draft}
    {next : Draft → Option Draft} (whole : Option (Option α) → Option Draft)
    (strict : whole none = none)
    (goesOn : ∀ value, next (store value) = whole (gather read (some value) texts)) :
    (fill old (read text) store >>= next) = whole (gather read old (text :: texts)) := by
  cases old with
  | some value => exact strict.symm
  | none =>
      simp only [fill, gather]
      cases read text with
      | none => exact strict.symm
      | some value => exact goesOn value

theorem foldlM_note {pairs : List (Bytes × Bytes)}
    (known : ∀ pair ∈ pairs, (said? pair.1).isSome) (draft : Draft) :
    pairs.foldlM note draft =
      ofFields (gather version? draft.schemaVersion (named "SchemaVersion" pairs))
        (gather topic? draft.topic (named "Topic" pairs))
        (gather created? draft.created (named "CreatedDate" pairs))
        (gather payload? draft.payload (named "Payload" pairs)) := by
  induction pairs generalizing draft with
  | nil => rfl
  | cons pair pairs ih =>
      have later := ih fun other member => known other (List.mem_cons_of_mem _ member)
      obtain ⟨name, same⟩ := Option.isSome_iff_exists.mp (known pair List.mem_cons_self)
      have skips : ∀ {other}, name ≠ other → named other (pair :: pairs) = named other pairs :=
        fun differs => named_cons_of_ne same differs pairs
      rw [List.foldlM_cons, note, same]
      show ((if name = "SchemaVersion" then _ else _) >>= _) = _
      by_cases version : name = "SchemaVersion"
      · subst version
        rw [if_pos rfl, named_cons_of_eq same, skips (by decide), skips (by decide),
          skips (by decide)]
        exact fill_bind (ofFields · _ _ _) rfl fun _ => later _
      · rw [if_neg version, skips version]
        by_cases topic : name = "Topic"
        · subst topic
          rw [if_pos rfl, named_cons_of_eq same, skips (by decide), skips (by decide)]
          exact fill_bind (ofFields _ · _ _) (ofFields_none_topic ..) fun _ => later _
        · rw [if_neg topic, skips topic]
          by_cases created : name = "CreatedDate"
          · subst created
            rw [if_pos rfl, named_cons_of_eq same, skips (by decide)]
            exact fill_bind (ofFields _ _ · _) (ofFields_none_created ..) fun _ => later _
          · rw [if_neg created, skips created]
            by_cases payload : name = "Payload"
            · subst payload
              rw [if_pos rfl, named_cons_of_eq same]
              exact fill_bind (ofFields _ _ _ ·) (ofFields_none_payload ..) fun _ => later _
            · rw [if_neg payload, skips payload]
              exact later draft

end Draft

/-! The whole object -/

/-- What is read of the values under a name: one at most, and the default if there is none. -/
def field (read : Bytes → Option α) (default : Option α) : List Bytes → Option α
  | [] => default
  | [text] => read text
  | _ => none

/-- The envelope of these members. -/
def ofPairs (now : Calendar.Instant) (pairs : List (Bytes × Bytes)) : Option Envelope :=
  field version? (some currentVersion) (named "SchemaVersion" pairs) >>= fun version =>
    field topic? none (named "Topic" pairs) >>= fun topic =>
      field created? (some now) (named "CreatedDate" pairs) >>= fun created =>
        field payload? (some .null) (named "Payload" pairs) >>= fun payload =>
          some ⟨version, topic, created, payload⟩

theorem gather_none (read : Bytes → Option α) (default : Option α) (texts : List Bytes) :
    (gather read none texts >>= (Option.or · default)) = field read default texts := by
  cases texts with
  | nil => rfl
  | cons text texts =>
      simp only [gather]
      cases texts with
      | nil =>
          show (read text >>= _) >>= _ = read text
          cases read text <;> rfl
      | cons other texts =>
          show (read text >>= _) >>= _ = none
          cases read text <;> rfl

theorem finish_ofFields (now : Calendar.Instant) (version : Option (Option UInt32))
    (topic : Option (Option Topic)) (created : Option (Option Calendar.Instant))
    (payload : Option (Option Json.Value)) :
    (Draft.ofFields version topic created payload >>= Draft.finish now) =
      (version >>= (Option.or · (some currentVersion))) >>= fun version =>
        (topic >>= (Option.or · none)) >>= fun topic =>
          (created >>= (Option.or · (some now))) >>= fun created =>
            (payload >>= (Option.or · (some .null))) >>= fun payload =>
              some ⟨version, topic, created, payload⟩ := by
  cases version with
  | none => rfl
  | some version =>
      cases topic with
      | none => cases version <;> rfl
      | some topic =>
          cases created with
          | none => cases version <;> cases topic <;> rfl
          | some created =>
              cases payload with
              | none => cases version <;> cases topic <;> cases created <;> rfl
              | some payload =>
                  cases version <;> cases topic <;> cases created <;> cases payload <;> rfl

theorem finish_foldlM_note {pairs : List (Bytes × Bytes)}
    (known : ∀ pair ∈ pairs, (said? pair.1).isSome) (now : Calendar.Instant) :
    (pairs.foldlM Draft.note {} >>= Draft.finish now) = ofPairs now pairs := by
  rw [Draft.foldlM_note known, finish_ofFields, gather_none, gather_none, gather_none, gather_none]
  rfl

/-- A name that says nothing spoils the object. -/
theorem foldlM_note_of_unknown {pairs : List (Bytes × Bytes)} {pair : Bytes × Bytes}
    (member : pair ∈ pairs) (unknown : said? pair.1 = none) (draft : Draft) :
    pairs.foldlM Draft.note draft = none := by
  induction pairs generalizing draft with
  | nil => exact absurd member List.not_mem_nil
  | cons first pairs ih =>
      rw [List.foldlM_cons]
      rcases List.mem_cons.mp member with rfl | later
      · rw [Draft.note, unknown]
        rfl
      · cases draft.note first with
        | none => rfl
        | some next => exact ih later next

/-- What decoding makes of a datagram: an envelope, or nothing because it is malformed. -/
def Decodes (made : Option Envelope) (result : Except CodecFault Envelope) : Prop :=
  match made with
  | some envelope => result = .ok envelope
  | none => ∃ diagnosis, result = .error (.malformed diagnosis)

theorem expectEnd_of_isBlank (blank : IsBlank behind) : Json.expectEnd behind = .ok () := by
  have ended := Json.skipSpace_append blank []
  rw [List.append_nil] at ended
  rw [Json.expectEnd, ended]
  rfl

theorem decodes_foldlM (object : IsObject pairs text) (now : Calendar.Instant) :
    Decodes (pairs.foldlM Draft.note {} >>= Draft.finish now) (decode now text) := by
  have derives := object.derives
  obtain ⟨before, inside, behind, blank, blankBehind, rfl, holds⟩ := object
  have notes : ∀ pair ∈ pairs, Json.NotesMember Draft.readMember Draft.note pair :=
    fun pair member => Draft.notes_readMember (derives pair member).1 (derives pair member).2
  have comes := Json.comes_readMembers_inside notes holds behind {}
    (show _ < (before ++ 0x7B :: (inside ++ 0x7D :: behind)).length + 1 by
      simp only [List.length_append, List.length_cons]
      omega)
  unfold decode parse read
  rw [Json.skipSpace_gap blank rfl]
  simp only [readObject]
  obtain ⟨made, fault, failed⟩ | ⟨draft, made, taken⟩ := comes.cases
  · simp only [made, failed]
    exact ⟨_, rfl⟩
  · simp only [made, taken]
    show Decodes (draft.finish now) _
    cases draft.finish now with
    | none => exact ⟨_, rfl⟩
    | some envelope =>
        simp only [expectEnd_of_isBlank blankBehind]
        rfl

theorem decodes_ofPairs (object : IsObject pairs text)
    (known : ∀ pair ∈ pairs, (said? pair.1).isSome) (now : Calendar.Instant) :
    Decodes (ofPairs now pairs) (decode now text) := by
  rw [← finish_foldlM_note known]
  exact decodes_foldlM object now

end Heartbeat.Envelope
