import Heartbeat.Proofs.Toml.Filling
import Heartbeat.Toml.Reader

/-!
What is known of values that were read: integers have 64 bits, and no name stands twice in an
inline table. What a document gives to the keys of its sections is then known as well.
-/

namespace Heartbeat.Toml

/-- If it is an integer, then it is one of 64 bits. -/
def Value.InRange (value : Value) : Prop :=
  ∀ n, value = .integer n → -9223372036854775808 ≤ n ∧ n < 9223372036854775808

structure Value.IsRegular (value : Value) : Prop where
  inRange : value.InRange
  orderly : value.IsOrderly
  inside : ∀ {name held}, value.member? name = some held → held.InRange

/-- Whatever is read is regular. -/
def Yields (read : Option (Value × List Char)) : Prop :=
  ∀ value rest, read = some (value, rest) → value.IsRegular

/-! Numbers -/

theorem isRegular_of_integer? (made : integer? n = some value) : value.IsRegular := by
  unfold integer? at made
  split at made
  · rename_i inRange
    cases made
    refine ⟨?_, nofun, nofun⟩
    rintro n ⟨⟩
    exact inRange
  · cases made

theorem yields_integer? (n : Int) (rest : List Char) : Yields ((integer? n).map (·, rest)) := by
  intro value rest read
  obtain ⟨value', made, same⟩ := Option.map_eq_some_iff.mp read
  cases same
  exact isRegular_of_integer? made

theorem yields_readReal (negative : Bool) (whole fraction text : List Char) :
    Yields (readReal negative whole fraction text) := by
  have scaled : ∀ exponent rest', Yields ((Real.ofDecimal? negative (whole ++ fraction)
      (exponent - fraction.length)).bind fun x => some (.real x, rest')) := by
    intro exponent rest' value rest read
    obtain ⟨x, -, same⟩ := Option.bind_eq_some_iff.mp read
    cases same
    exact ⟨nofun, nofun, nofun⟩
  intro value rest read
  unfold readReal at read
  simp only at read
  split at read
  · split at read
    · obtain ⟨⟨exponent, after⟩, -, read⟩ := Option.bind_eq_some_iff.mp read
      exact scaled exponent after value rest read
    · exact scaled 0 _ value rest read
  · exact scaled 0 _ value rest read

theorem yields_readDecimal (negative : Bool) (text : List Char) :
    Yields (readDecimal negative text) := by
  intro value rest read
  obtain ⟨⟨whole, after⟩, -, read⟩ := Option.bind_eq_some_iff.mp read
  simp only at read
  split at read
  · obtain ⟨⟨fraction, after⟩, -, read⟩ := Option.bind_eq_some_iff.mp read
    exact yields_readReal _ _ _ _ value rest read
  · split at read
    · exact yields_readReal _ _ _ _ value rest read
    · exact yields_integer? _ _ value rest read
  · exact yields_integer? _ _ value rest read

theorem yields_readRadix (radix : Nat) (text : List Char) : Yields (readRadix radix text) := by
  intro value rest read
  obtain ⟨⟨digits, after⟩, -, read⟩ := Option.bind_eq_some_iff.mp read
  obtain ⟨value', made, same⟩ := Option.bind_eq_some_iff.mp read
  cases same
  exact isRegular_of_integer? made

theorem yields_readMagnitude (negative : Bool) (text : List Char) :
    Yields (readMagnitude negative text) := by
  unfold readMagnitude
  split
  · rintro value rest ⟨⟩
    exact ⟨nofun, nofun, nofun⟩
  · rintro value rest ⟨⟩
    exact ⟨nofun, nofun, nofun⟩
  · exact yields_readDecimal negative text

theorem yields_readNumber (text : List Char) : Yields (readNumber text) := by
  unfold readNumber
  split
  · exact yields_readRadix 16 _
  · exact yields_readRadix 8 _
  · exact yields_readRadix 2 _
  · exact yields_readMagnitude false _
  · exact yields_readMagnitude true _
  · exact yields_readMagnitude false _

/-! Values -/

theorem yields_readScalar (text : List Char) : Yields (readScalar text) := by
  unfold readScalar
  split
  · rintro value rest ⟨⟩
    exact ⟨nofun, nofun, nofun⟩
  · rintro value rest ⟨⟩
    exact ⟨nofun, nofun, nofun⟩
  · split
    · intro value rest read
      obtain ⟨quoted, -, same⟩ := Option.map_eq_some_iff.mp read
      cases same
      exact ⟨nofun, nofun, nofun⟩
    · split
      · intro value rest read
        obtain ⟨after, -, same⟩ := Option.map_eq_some_iff.mp read
        cases same
        exact ⟨nofun, nofun, nofun⟩
      · exact yields_readNumber _
  · exact nofun

section

variable {read : List Char → Option (Value × List Char)}

theorem isRegular_of_readPair? (yields : ∀ text, Yields (read text))
    (taken : readPair? read text = some (pair, rest)) : pair.value.IsRegular := by
  obtain ⟨⟨path, afterPath⟩, -, taken⟩ := Option.bind_eq_some_iff.mp taken
  obtain ⟨afterMark, -, taken⟩ := Option.bind_eq_some_iff.mp taken
  obtain ⟨⟨value, rest'⟩, got, same⟩ := Option.bind_eq_some_iff.mp taken
  cases same
  exact yields _ _ _ got

theorem isRegular_of_readPairs (yields : ∀ text, Yields (read text))
    (taken : readPairs read fuel text = some (pairs, rest)) :
    ∀ pair ∈ pairs, pair.value.IsRegular := by
  induction fuel generalizing text pairs with
  | zero => cases taken
  | succ fuel ih =>
      obtain ⟨⟨pair, after⟩, got, taken⟩ := Option.bind_eq_some_iff.mp taken
      have first := isRegular_of_readPair? yields got
      simp only at taken
      split at taken
      · obtain ⟨⟨pairs', rest'⟩, more, same⟩ := Option.bind_eq_some_iff.mp taken
        cases same
        exact List.forall_mem_cons.mpr ⟨first, ih more⟩
      · cases taken
        exact List.forall_mem_singleton.mpr first
      · cases taken

theorem isRegular_of_inlineTable? (regular : ∀ pair ∈ pairs, pair.value.IsRegular)
    (made : inlineTable? pairs = some value) : value.IsRegular := by
  obtain ⟨members, filled, rfl⟩ := Option.map_eq_some_iff.mp made
  have grows := grows_addPairs distinct_nil filled
  refine ⟨nofun, ?_, ?_⟩
  · rintro kind members ⟨⟩
    exact grows.sound
  · rintro name held found n rfl
    rcases (grows.found rfl).mp found with old | given
    · cases old
    · exact (regular _ given).inRange n rfl

theorem yields_readInlineTable (yields : ∀ text, Yields (read text)) (text : List Char) :
    Yields (readInlineTable read text) := by
  intro value rest taken
  unfold readInlineTable at taken
  split at taken
  · cases taken
    refine ⟨nofun, ?_, nofun⟩
    rintro kind members ⟨⟩
    exact distinct_nil
  · obtain ⟨⟨pairs, rest'⟩, got, taken⟩ := Option.bind_eq_some_iff.mp taken
    obtain ⟨table, made, same⟩ := Option.bind_eq_some_iff.mp taken
    cases same
    exact isRegular_of_inlineTable? (isRegular_of_readPairs yields got) made

end

theorem yields_readValue (depth : Nat) (text : List Char) : Yields (readValue depth text) := by
  induction depth generalizing text with
  | zero => exact yields_readScalar text
  | succ depth ih =>
      unfold readValue
      split
      · intro value rest taken
        obtain ⟨items, -, same⟩ := Option.map_eq_some_iff.mp taken
        cases same
        exact ⟨nofun, nofun, nofun⟩
      · exact yields_readInlineTable ih _
      · exact yields_readScalar _

/-! Documents -/

/-- The pairs before the first heading of a text, and its sections. -/
def document? (text : String) : Option (List Pair × List Section) :=
  (readLines ((dropMark text.toList).length + 1) (dropMark text.toList)).map gather

theorem parse_eq (text : String) :
    parse text = (document? text).bind fun document => ofSections? document.1 document.2 := by
  rw [document?, Option.bind_map]
  rfl

def Line.IsRegular : Line → Prop
  | .pair given => given.value.IsRegular
  | _ => True

theorem isRegular_of_readLine (taken : readLine text = some (line, rest)) : line.IsRegular := by
  unfold readLine at taken
  split at taken
  · obtain ⟨heading, -, same⟩ := Option.map_eq_some_iff.mp taken
    cases same
    trivial
  · split at taken
    · cases taken
      trivial
    · obtain ⟨⟨pair, after⟩, got, same⟩ := Option.map_eq_some_iff.mp taken
      cases same
      exact isRegular_of_readPair? (yields_readValue maxDepth) got
  · cases taken
    trivial

theorem isRegular_of_readLines (taken : readLines fuel text = some lines) :
    ∀ line ∈ lines, line.IsRegular := by
  induction fuel generalizing text lines with
  | zero =>
      cases text with
      | nil =>
          cases taken
          exact fun line inside => absurd inside List.not_mem_nil
      | cons c text => cases taken
  | succ fuel ih =>
      cases text with
      | nil =>
          cases taken
          exact fun line inside => absurd inside List.not_mem_nil
      | cons c text =>
          obtain ⟨⟨line, after⟩, got, taken⟩ := Option.bind_eq_some_iff.mp taken
          obtain ⟨rest, -, taken⟩ := Option.bind_eq_some_iff.mp taken
          obtain ⟨lines', more, same⟩ := Option.bind_eq_some_iff.mp taken
          cases same
          exact List.forall_mem_cons.mpr ⟨isRegular_of_readLine got, ih more⟩

theorem isRegular_gather {lines : List Line} (regular : ∀ line ∈ lines, line.IsRegular) :
    (∀ pair ∈ (gather lines).1, pair.value.IsRegular) ∧
      ∀ part ∈ (gather lines).2, ∀ pair ∈ part.pairs, pair.value.IsRegular := by
  induction lines with
  | nil => exact ⟨fun _ inside => absurd inside List.not_mem_nil, fun _ inside =>
      absurd inside List.not_mem_nil⟩
  | cons line lines ih =>
      obtain ⟨first, more⟩ := List.forall_mem_cons.mp regular
      obtain ⟨pairs, sections⟩ := ih more
      cases line with
      | blank => exact ⟨pairs, sections⟩
      | pair pair => exact ⟨List.forall_mem_cons.mpr ⟨first, pairs⟩, sections⟩
      | heading heading =>
          exact ⟨fun _ inside => absurd inside List.not_mem_nil,
            List.forall_mem_cons.mpr ⟨pairs, sections⟩⟩

/-- The table of a document is orderly, holds what the document gives, and its integers have 64
bits. -/
theorem grows_parse {pairs : List Pair} {sections : List Section} {root : Members}
    (read : document? text = some (pairs, sections)) (parsed : parse text = some root) :
    Grows Orderly inner? (Gives pairs sections) [] root ∧
      ∀ {place value}, inner? place root = some value → value.InRange := by
  rw [parse_eq, read] at parsed
  obtain ⟨lines, taken, gathered⟩ := Option.map_eq_some_iff.mp read
  obtain ⟨regular, regular'⟩ := isRegular_gather (isRegular_of_readLines taken)
  rw [gathered] at regular regular'
  have grows := grows_ofSections? (fun pair inside => (regular pair inside).orderly) parsed
  refine ⟨grows, ?_⟩
  rintro place value found n rfl
  rcases (grows.found rfl).mp found with old | inside | ⟨inside, held⟩ | ⟨inside, given⟩
  · cases old
  · exact (regular _ inside).inRange n rfl
  · exact (regular _ inside).inside held n rfl
  · exact (regular' _ inside _ given).inRange n rfl

end Heartbeat.Toml
