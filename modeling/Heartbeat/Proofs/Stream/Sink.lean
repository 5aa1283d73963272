import Heartbeat.Stream.Sink

/-!
Writing to a sink. Each write takes bytes from the front, until all of them are taken or a write
takes nothing. A sink that takes something of every write gets all of the bytes, in their order.
-/

namespace Heartbeat

namespace Sink

/-- The sink after writes that took these pieces, one after another. -/
def takes (sink : Sink) (pieces : List Bytes) : Sink :=
  pieces.foldl take sink

@[simp] theorem accepted_take (sink : Sink) (bytes : Bytes) :
    (sink.take bytes).accepted = sink.accepted ++ bytes := by
  simp [accepted, take]

@[simp] theorem accepted_takes (sink : Sink) (pieces : List Bytes) :
    (sink.takes pieces).accepted = sink.accepted ++ pieces.flatten := by
  induction pieces generalizing sink with
  | nil => exact (List.append_nil _).symm
  | cons piece pieces ih =>
      rw [List.flatten_cons, ← List.append_assoc, ← accepted_take]
      exact ih (sink.take piece)

/-- Writes change the room of a sink and what it has taken, and nothing else. -/
theorem takes_eq (sink : Sink) (pieces : List Bytes) :
    sink.takes pieces =
      { sink with
        room := (sink.takes pieces).room
        portions := (sink.takes pieces).portions
        writes := (sink.takes pieces).writes } := by
  induction pieces generalizing sink with
  | nil => rfl
  | cons piece pieces ih => exact ih (sink.take piece)

@[simp] theorem flushes_takes (sink : Sink) (pieces : List Bytes) :
    (sink.takes pieces).flushes = sink.flushes := by
  rw [takes_eq]

@[simp] theorem flushError_takes (sink : Sink) (pieces : List Bytes) :
    (sink.takes pieces).flushError = sink.flushError := by
  rw [takes_eq]

@[simp] theorem refusal_takes (sink : Sink) (pieces : List Bytes) :
    (sink.takes pieces).refusal = sink.refusal := by
  rw [takes_eq]
  rfl

theorem takes_append (sink : Sink) (pieces more : List Bytes) :
    sink.takes (pieces ++ more) = (sink.takes pieces).takes more :=
  List.foldl_append

/-! Sinks that take nothing -/

/-- A sink that takes nothing of the next write. -/
def Refuses (sink : Sink) : Prop :=
  sink.room = some 0 ∨ sink.portion = some 0

theorem capped_eq_zero_iff (bound : Option Nat) (n : Nat) :
    capped bound n = 0 ↔ bound = some 0 ∨ n = 0 := by
  cases bound with
  | none => simp [capped]
  | some bound => rw [capped, Nat.min_eq_zero_iff, Option.some.injEq]

theorem taken_eq_zero_iff {sink : Sink} {n : Nat} (offered : 0 < n) :
    sink.taken n = 0 ↔ sink.Refuses := by
  rw [taken, capped_eq_zero_iff, capped_eq_zero_iff, Refuses, or_iff_left (Nat.ne_of_gt offered)]

/-- All of the bytes are taken, or the sink refuses when it has taken some of them. -/
theorem writeAll_cases (bytes : Bytes) (sink : Sink) :
    ∃ pieces left, bytes = pieces.flatten ++ left ∧
      (left = [] ∧ sink.writeAll bytes = (.ok (), sink.takes pieces) ∨
        left ≠ [] ∧ (sink.takes pieces).Refuses ∧
          sink.writeAll bytes = (.error sink.refusal, sink.takes pieces)) := by
  induction bytes, sink using writeAll.induct with
  | case1 sink => exact ⟨[], [], rfl, .inl ⟨rfl, by rw [writeAll, if_pos rfl]; rfl⟩⟩
  | case2 bytes sink nonempty n stuck =>
      have offered : 0 < bytes.length := List.length_pos_iff.mpr nonempty
      refine ⟨[], bytes, rfl, .inr ⟨nonempty, (taken_eq_zero_iff offered).mp stuck, ?_⟩⟩
      rw [writeAll, if_neg nonempty, dif_pos stuck]
      rfl
  | case3 bytes sink nonempty n moving ih =>
      have first : sink.writeAll bytes = (sink.take (bytes.take n)).writeAll (bytes.drop n) := by
        rw [writeAll, if_neg nonempty, dif_neg moving]
      obtain ⟨pieces, left, same, outcome⟩ := ih
      refine ⟨bytes.take n :: pieces, left, ?_, ?_⟩
      · rw [List.flatten_cons, List.append_assoc, ← same, List.take_append_drop]
      · rw [first]
        exact outcome

/-! Sinks that take something of every write -/

/-- A sink with room for everything, each of whose writes takes at least one byte. -/
structure Willing (sink : Sink) : Prop where
  endless : sink.room = none
  portions_pos : ∀ n ∈ sink.portions, 0 < n
  perWrite_pos : ∀ n, sink.perWrite = some n → 0 < n

theorem Willing.take {sink : Sink} (willing : sink.Willing) (bytes : Bytes) :
    (sink.take bytes).Willing where
  endless := by simp [Sink.take, willing.endless]
  portions_pos n member := willing.portions_pos n (List.mem_of_mem_tail member)
  perWrite_pos := willing.perWrite_pos

theorem Willing.takes {sink : Sink} (willing : sink.Willing) (pieces : List Bytes) :
    (sink.takes pieces).Willing := by
  induction pieces generalizing sink with
  | nil => exact willing
  | cons piece pieces ih => exact ih (willing.take piece)

theorem Willing.portion_pos {sink : Sink} (willing : sink.Willing) {n : Nat}
    (portion : sink.portion = some n) : 0 < n := by
  unfold Sink.portion at portion
  cases portions : sink.portions with
  | nil =>
      rw [portions] at portion
      exact willing.perWrite_pos n portion
  | cons first others =>
      rw [portions] at portion
      cases portion
      exact willing.portions_pos n (by rw [portions]; exact List.mem_cons_self)

theorem Willing.not_refuses {sink : Sink} (willing : sink.Willing) : ¬ sink.Refuses := by
  rintro (full | stuck)
  · rw [willing.endless] at full
    exact absurd full.symm (Option.some_ne_none 0)
  · exact absurd (willing.portion_pos stuck) (Nat.lt_irrefl 0)

/-- What a row of writes to a willing sink leaves behind. -/
structure Took (bytes : Bytes) (before after : Sink) : Prop where
  willing : after.Willing
  accepted : after.accepted = before.accepted ++ bytes
  flushError : after.flushError = before.flushError

end Sink

end Heartbeat
