import Heartbeat.Stream.Source

/-!
Reading data that stands ahead in a source. How the data is cut into chunks does not show: a row of
reads takes the front of all the bytes and leaves the others, cut in some way. A row that wants
more than there is goes on with what comes behind them.
-/

namespace Heartbeat

namespace Piece

theorem pull_data_of_le (live : Bool) {n : Nat} {chunks : List Bytes} (later : List Piece)
    (enough : n ≤ chunks.flatten.length) :
    ∃ left : List Bytes,
      pull live n (chunks.map .data ++ later) =
          ⟨chunks.flatten.take n, .filled, left.map .data ++ later⟩ ∧
        left.flatten = chunks.flatten.drop n := by
  induction chunks generalizing n with
  | nil =>
      have none_wanted : n = 0 := Nat.le_zero.mp enough
      subst none_wanted
      exact ⟨[], by simp [pull], rfl⟩
  | cons chunk chunks ih =>
      cases n with
      | zero => exact ⟨chunk :: chunks, by simp [pull], rfl⟩
      | succ n =>
          rw [List.flatten_cons, List.length_append] at enough
          simp only [List.map_cons, List.cons_append, pull]
          split
          · rename_i inside
            refine ⟨chunk.drop (n + 1) :: chunks, ?_, ?_⟩
            · rw [List.flatten_cons, List.take_append_of_le_length (by omega), List.map_cons,
                List.cons_append]
            · rw [List.flatten_cons, List.flatten_cons,
                List.drop_append_of_le_length (by omega)]
          · rename_i inside
            have whole : chunk.length ≤ n + 1 := Nat.le_of_not_lt inside
            obtain ⟨left, pulled, flat⟩ := @ih (n + 1 - chunk.length) (by omega)
            refine ⟨left, ?_, ?_⟩
            · rw [pulled, List.flatten_cons, List.take_append, List.take_of_length_le whole]
            · rw [flat, List.flatten_cons, List.drop_append, List.drop_of_length_le whole,
                List.nil_append]

theorem pull_data_of_lt (live : Bool) {n : Nat} {chunks : List Bytes} (later : List Piece)
    (short : chunks.flatten.length < n) :
    pull live n (chunks.map .data ++ later) =
      { pull live (n - chunks.flatten.length) later with
        bytes := chunks.flatten ++ (pull live (n - chunks.flatten.length) later).bytes } := by
  induction chunks generalizing n with
  | nil => rfl
  | cons chunk chunks ih =>
      obtain ⟨n, rfl⟩ := Nat.exists_eq_succ_of_ne_zero (Nat.ne_zero_of_lt short)
      rw [List.flatten_cons, List.length_append] at short
      simp only [List.map_cons, List.cons_append, pull]
      split
      · rename_i inside
        omega
      · rw [@ih (n.succ - chunk.length) (by omega), List.flatten_cons, List.length_append,
          Nat.sub_sub, List.append_assoc]

end Piece

namespace Source

/-- A source that brings these chunks first, one a read. -/
def ahead (later : Source) (chunks : List Bytes) : Source :=
  { later with pieces := chunks.map .data ++ later.pieces }

/-- A source that brings these chunks, one a read, and ends. -/
def ofChunks (chunks : List Bytes) : Source :=
  ⟨chunks.map .data, false⟩

theorem ofChunks_eq (chunks : List Bytes) : ofChunks chunks = ahead ⟨[], false⟩ chunks := by
  rw [ofChunks, ahead, List.append_nil]

@[simp] theorem bytes_ahead (later : Source) (chunks : List Bytes) :
    (later.ahead chunks).bytes = chunks.flatten ++ later.bytes := by
  induction chunks with
  | nil => rfl
  | cons chunk chunks ih =>
      rw [List.flatten_cons, List.append_assoc, ← ih]
      rfl

theorem pull_ahead_of_le {n : Nat} (later : Source) {chunks : List Bytes}
    (enough : n ≤ chunks.flatten.length) :
    ∃ left : List Bytes,
      (later.ahead chunks).pull n = ⟨chunks.flatten.take n, .filled, (later.ahead left).pieces⟩ ∧
        left.flatten = chunks.flatten.drop n :=
  Piece.pull_data_of_le later.live later.pieces enough

theorem pull_ahead_of_lt {n : Nat} (later : Source) {chunks : List Bytes}
    (short : chunks.flatten.length < n) :
    (later.ahead chunks).pull n =
      { later.pull (n - chunks.flatten.length) with
        bytes := chunks.flatten ++ (later.pull (n - chunks.flatten.length)).bytes } :=
  Piece.pull_data_of_lt later.live later.pieces short

theorem pull_ofChunks_of_lt {n : Nat} {chunks : List Bytes}
    (short : chunks.flatten.length < n) :
    (ofChunks chunks).pull n = ⟨chunks.flatten, .ended, []⟩ := by
  obtain ⟨more, same⟩ := Nat.exists_eq_add_of_lt short
  have wanted : n - chunks.flatten.length = more + 1 := by omega
  rw [ofChunks_eq, pull_ahead_of_lt _ short, wanted]
  show Pull.mk (chunks.flatten ++ []) .ended [] = _
  rw [List.append_nil]

theorem pull_ofChunks (n : Nat) (chunks : List Bytes) :
    ∃ left : List Bytes, left.flatten = chunks.flatten.drop n ∧
      (ofChunks chunks).pull n =
        ⟨chunks.flatten.take n, if chunks.flatten.length < n then .ended else .filled,
          (ofChunks left).pieces⟩ := by
  by_cases short : chunks.flatten.length < n
  · have all := Nat.le_of_lt short
    refine ⟨[], (List.drop_of_length_le all).symm, ?_⟩
    rw [pull_ofChunks_of_lt short, List.take_of_length_le all, if_pos short]
    rfl
  · obtain ⟨left, pulled, flat⟩ := pull_ahead_of_le ⟨[], false⟩ (Nat.le_of_not_lt short)
    rw [← ofChunks_eq, ← ofChunks_eq] at pulled
    exact ⟨left, flat, by rw [pulled, if_neg short]⟩

end Source

end Heartbeat
