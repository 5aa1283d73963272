import Heartbeat.Proofs.Json.Printing
import Heartbeat.Proofs.Json.Reading

/-!
What a reader can have made of a text: integers of 64 bits, objects in order, and no more brackets
than it may open. Apart from floats, that is what is printed and read back.
-/

namespace Heartbeat.Json

/-! Numbers -/

theorem absorb_le {significand : Nat} (small : significand ≤ maxWord) (digits : Bytes) :
    (absorb significand digits).1 ≤ maxWord := by
  induction digits generalizing significand with
  | nil => exact small
  | cons d digits ih =>
      simp only [absorb]
      split
      · rename_i next
        exact ih next
      · exact small

section

variable {negative : Bool} {significand : Nat} {exponent : Int} {bytes rest : Bytes} {n : Int}

theorem not_integer_of_floatOf :
    floatOf negative significand exponent bytes ≠ .ok (.integer n, rest) := by
  unfold floatOf
  split <;> rintro ⟨⟩

theorem not_integer_of_readExponent :
    readExponent negative significand exponent bytes ≠ .ok (.integer n, rest) := by
  unfold readExponent
  split
  · rintro ⟨⟩
  · split
    · split
      · exact not_integer_of_floatOf
      · split <;> rintro ⟨⟩
    · rintro ⟨⟩

theorem not_integer_of_readFraction :
    readFraction negative significand exponent bytes ≠ .ok (.integer n, rest) := by
  unfold readFraction
  split
  · rintro ⟨⟩
  · rintro ⟨⟩
  · simp only
    split
    · exact not_integer_of_readExponent
    · exact not_integer_of_readExponent
    · exact not_integer_of_floatOf

theorem inRange_of_integerOf (small : significand ≤ maxWord)
    (read : integerOf negative significand bytes = .ok (.integer n, rest)) : InRange n := by
  unfold integerOf at read
  unfold InRange
  rw [maxWord] at *
  split at read
  · cases read
    omega
  · split at read
    · cases read
      omega
    · exact absurd read not_integer_of_floatOf

theorem inRange_of_readAfterInteger {dropped : Nat} (small : significand ≤ maxWord)
    (read : readAfterInteger negative significand dropped bytes = .ok (.integer n, rest)) :
    InRange n := by
  unfold readAfterInteger at read
  split at read
  · exact absurd read not_integer_of_readFraction
  · exact absurd read not_integer_of_readExponent
  · exact absurd read not_integer_of_readExponent
  · split at read
    · exact inRange_of_integerOf small read
    · exact absurd read not_integer_of_floatOf

theorem inRange_of_readNumber (read : readNumber negative bytes = .ok (.integer n, rest)) :
    InRange n := by
  unfold readNumber at read
  split at read
  · cases read
  · split at read
    · exact inRange_of_readAfterInteger (Nat.zero_le _) read
    · split at read
      · cases read
      · exact inRange_of_readAfterInteger (Nat.zero_le _) read
  · split at read
    · exact inRange_of_readAfterInteger (absorb_le (Nat.zero_le _) _) read
    · cases read

end

/-! Walks -/

section

variable (holds : α → Prop) {step : α → Bytes → Result α} {fuel : Nat} {first : Bool}
  {held held' : α} {bytes rest : Bytes}

theorem holds_of_readElements
    (keeps : ∀ held bytes held' rest, step held bytes = .ok (held', rest) → holds held → holds held')
    (read : readElements step fuel first held bytes = .ok (held', rest)) (before : holds held) :
    holds held' := by
  induction fuel generalizing first held bytes with
  | zero => cases read
  | succ fuel ih =>
      rw [readElements] at read
      split at read
      · cases read
      · cases read
        exact before
      · split at read
        · cases read
        · rename_i took
          exact ih read (keeps _ _ _ _ took before)

theorem holds_of_readMembers
    (keeps : ∀ held bytes held' rest, step held bytes = .ok (held', rest) → holds held → holds held')
    (read : readMembers step fuel first held bytes = .ok (held', rest)) (before : holds held) :
    holds held' := by
  induction fuel generalizing first held bytes with
  | zero => cases read
  | succ fuel ih =>
      rw [readMembers] at read
      split at read
      · cases read
      · cases read
        exact before
      · split at read
        · cases read
        · rename_i took
          exact ih read (keeps _ _ _ _ took before)

end

/-! Objects -/

theorem mem_insertMember {name : String} {value : Value} {members : List (String × Value)}
    {member : String × Value} (inside : member ∈ insertMember name value members) :
    member = (name, value) ∨ member ∈ members := by
  induction members with
  | nil => exact .inl (List.mem_singleton.mp inside)
  | cons first members ih =>
      obtain ⟨key, old⟩ := first
      rw [insertMember] at inside
      split at inside
      · exact List.mem_cons.mp inside
      · split at inside
        · exact (List.mem_cons.mp inside).imp_right (List.mem_cons_of_mem _)
        · rcases List.mem_cons.mp inside with rfl | later
          · exact .inr List.mem_cons_self
          · exact (ih later).imp_right (List.mem_cons_of_mem _)

theorem pairwise_insertMember (name : String) (value : Value) {members : List (String × Value)}
    (sorted : members.Pairwise (·.1 < ·.1)) :
    (insertMember name value members).Pairwise (·.1 < ·.1) := by
  induction members with
  | nil => exact List.pairwise_singleton _ _
  | cons first members ih =>
      obtain ⟨key, old⟩ := first
      obtain ⟨least, sorted'⟩ := List.pairwise_cons.mp sorted
      rw [insertMember]
      split
      · rename_i before
        refine List.pairwise_cons.mpr ⟨fun member inside => ?_, sorted⟩
        rcases List.mem_cons.mp inside with rfl | later
        · exact before
        · exact String.lt_trans before (least member later)
      · split
        · rename_i same
          subst same
          exact List.pairwise_cons.mpr ⟨least, sorted'⟩
        · rename_i notBefore other
          have behind : key < name := Decidable.byContradiction fun notBehind =>
            other (String.le_antisymm (String.not_lt.mp notBehind) (String.not_lt.mp notBefore))
          refine List.pairwise_cons.mpr ⟨fun member inside => ?_, ih sorted'⟩
          rcases mem_insertMember inside with rfl | old
          · exact behind
          · exact least member old

/-! Values -/

/-- A value without a float in it. -/
inductive Value.FloatFree : Value → Prop
  | null : FloatFree .null
  | boolean (flag : Bool) : FloatFree (.boolean flag)
  | integer (n : Int) : FloatFree (.number (.integer n))
  | string (text : String) : FloatFree (.string text)
  | array : (∀ item ∈ items, FloatFree item) → FloatFree (.array items)
  | object : (∀ member ∈ members, FloatFree member.2) → FloatFree (.object members)

/-- What a reader makes fits, once no float is in it. -/
def Yields (depth : Nat) (read : Bytes → Result Value) : Prop :=
  ∀ bytes value rest, read bytes = .ok (value, rest) → value.FloatFree → value.Fits depth

theorem isFlat_of_readScalar {bytes rest : Bytes} {value : Value}
    (read : readScalar bytes = .ok (value, rest)) :
    value.IsFlat ∧ ∀ n, value = .number (.integer n) → InRange n := by
  unfold readScalar at read
  split at read
  · cases read
  · obtain ⟨_, _, same⟩ := eq_of_map_ok read
    cases same
    exact ⟨trivial, nofun⟩
  · obtain ⟨_, _, same⟩ := eq_of_map_ok read
    cases same
    exact ⟨trivial, nofun⟩
  · obtain ⟨_, _, same⟩ := eq_of_map_ok read
    cases same
    exact ⟨trivial, nofun⟩
  · obtain ⟨_, _, same⟩ := eq_of_map_ok read
    cases same
    exact ⟨trivial, nofun⟩
  · obtain ⟨⟨number, _⟩, taken, same⟩ := eq_of_map_ok read
    cases same
    refine ⟨trivial, fun n same => ?_⟩
    cases same
    exact inRange_of_readNumber taken
  · split at read
    · obtain ⟨⟨number, _⟩, taken, same⟩ := eq_of_map_ok read
      cases same
      refine ⟨trivial, fun n same => ?_⟩
      cases same
      exact inRange_of_readNumber taken
    · cases read

theorem yields_readScalar (depth : Nat) : Yields depth readScalar := by
  intro bytes value rest read floatFree
  obtain ⟨flat, inRange⟩ := isFlat_of_readScalar read
  cases floatFree with
  | null => simp only [Value.Fits]
  | boolean flag => simp only [Value.Fits]
  | integer n =>
      simp only [Value.Fits]
      exact inRange n rfl
  | string text => simp only [Value.Fits]
  | array _ => exact flat.elim
  | object _ => exact flat.elim

section

variable {read : Bytes → Result Value} {depth fuel : Nat} {bytes rest : Bytes}

theorem fits_of_readItems {items : List Value} (yields : Yields depth read)
    (took : readElements (readItem read) fuel true [] bytes = .ok (items, rest)) :
    ∀ item ∈ items, item.FloatFree → item.Fits depth := by
  refine holds_of_readElements (fun items => ∀ item ∈ items, item.FloatFree → item.Fits depth)
    (fun held bytes held' rest item before => ?_) took fun _ member => absurd member List.not_mem_nil
  obtain ⟨⟨value, _⟩, valued, same⟩ := eq_of_map_ok item
  cases same
  exact List.forall_mem_cons.mpr ⟨yields _ _ _ valued, before⟩

theorem fits_of_readMembers {members : List (String × Value)} (yields : Yields depth read)
    (took : readMembers (readMember read) fuel true [] bytes = .ok (members, rest)) :
    members.Pairwise (·.1 < ·.1) ∧
      ∀ member ∈ members, member.2.FloatFree → member.2.Fits depth := by
  refine holds_of_readMembers
    (fun members => members.Pairwise (·.1 < ·.1) ∧
      ∀ member ∈ members, member.2.FloatFree → member.2.Fits depth)
    (fun held bytes held' rest got before => ?_) took
    ⟨.nil, fun _ member => absurd member List.not_mem_nil⟩
  obtain ⟨⟨name, afterName⟩, named, got⟩ := eq_of_bind_ok got
  obtain ⟨afterColon, colon, got⟩ := eq_of_bind_ok got
  obtain ⟨⟨value, afterValue⟩, valued, got⟩ := eq_of_bind_ok got
  cases got
  refine ⟨pairwise_insertMember name value before.1, fun member inside => ?_⟩
  rcases mem_insertMember inside with rfl | old
  · exact yields _ _ _ valued
  · exact before.2 member old

end

theorem yields_readWith_none (fuel : Nat) : Yields 0 (readWith fuel none) := by
  intro bytes value rest read floatFree
  unfold readWith at read
  split at read
  · cases read
  · cases read
  · exact yields_readScalar 0 _ _ _ read floatFree

theorem yields_readWith_some {inner : Bytes → Result Value} {depth : Nat}
    (yields : Yields depth inner) (fuel : Nat) :
    Yields (depth + 1) (readWith fuel (some inner)) := by
  intro bytes value rest read floatFree
  unfold readWith at read
  split at read
  · obtain ⟨⟨items, _⟩, elements, same⟩ := eq_of_map_ok read
    cases same
    cases floatFree with
    | array each =>
        simp only [Value.Fits]
        intro item inside
        exact fits_of_readItems yields elements item (List.mem_reverse.mp inside)
          (each item inside)
  · obtain ⟨⟨members, _⟩, taken, same⟩ := eq_of_map_ok read
    cases same
    obtain ⟨sorted, fits⟩ := fits_of_readMembers yields taken
    cases floatFree with
    | object each =>
        simp only [Value.Fits]
        exact ⟨sorted, fun member inside => fits member inside (each member inside)⟩
  · exact yields_readScalar (depth + 1) _ _ _ read floatFree

/-- A value that is read has no more brackets open than its reader may open, its integers are of 64
bits and its objects are in order. -/
theorem yields_readValue (fuel depth : Nat) : Yields depth (readValue fuel depth) := by
  induction depth with
  | zero => exact yields_readWith_none fuel
  | succ depth ih => exact yields_readWith_some ih fuel

end Heartbeat.Json
