import Heartbeat.Proofs.Channel.Scenario
import Heartbeat.Responder.Budget

/-!
Counting failed receives. The budget of a responder that is still listening holds the number of
failures since the last success, which is below the bound; the bound is met exactly when as many
arrivals in a row have been faults.
-/

namespace Heartbeat

/-- The failures among the first `n` arrivals that come after their last success. -/
def failuresInRow (arrivals : Nat → Arrival) : Nat → Nat
  | 0 => 0
  | n + 1 => if (arrivals n).isFault then failuresInRow arrivals n + 1 else 0

/-- The last `m` of the first `n` arrivals are faults. -/
def FaultsEnd (arrivals : Nat → Arrival) (m n : Nat) : Prop :=
  m ≤ n ∧ ∀ i, n - m ≤ i → i < n → (arrivals i).isFault

/-- The first `n` arrivals are the fewest of which the last `m` are faults, and all are heard. -/
structure FailsAfter (arrivals : Nat → Arrival) (m n : Nat) : Prop where
  heard : ∀ i < n, arrivals i ≠ .silence
  ended : FaultsEnd arrivals m n
  first : ∀ k < n, ¬ FaultsEnd arrivals m k

theorem faultsEnd_iff {arrivals : Nat → Arrival} {m n : Nat} :
    FaultsEnd arrivals m n ↔ m ≤ failuresInRow arrivals n := by
  induction n generalizing m with
  | zero =>
      refine ⟨And.left, fun few => ⟨few, ?_⟩⟩
      intro i _ late
      exact absurd late (Nat.not_lt_zero i)
  | succ n ih =>
      cases m with
      | zero =>
          refine ⟨fun _ => Nat.zero_le _, fun _ => ⟨Nat.zero_le _, ?_⟩⟩
          intro i early late
          omega
      | succ m =>
          rw [failuresInRow]
          split
          · rename_i fault
            rw [Nat.succ_le_succ_iff, ← ih]
            constructor
            · intro ⟨few, faults⟩
              exact ⟨Nat.le_of_succ_le_succ few, fun i early late => faults i (by omega) (by omega)⟩
            · intro ⟨few, faults⟩
              refine ⟨Nat.succ_le_succ few, fun i early late => ?_⟩
              rcases Nat.lt_succ_iff_lt_or_eq.mp late with before | rfl
              · exact faults i (by omega) before
              · exact fault
          · rename_i sound
            refine ⟨fun ⟨_, faults⟩ => ?_, fun none => absurd none (Nat.not_succ_le_zero m)⟩
            exact absurd (faults n (by omega) (Nat.lt_succ_self n)) sound

instance (arrivals : Nat → Arrival) (m n : Nat) : Decidable (FaultsEnd arrivals m n) :=
  decidable_of_iff _ faultsEnd_iff.symm

namespace Budget

/-- A budget that is not used up, with its bound and its count as numbers without a width. -/
structure Counts (budget : Budget) (m n : Nat) : Prop where
  max : budget.max.toNat = m
  consecutive : budget.consecutive.toNat = n
  below : n < m

theorem max_new (bound : UInt32) : (new bound).max = if bound = 0 then 1 else bound := rfl

theorem max_new_pos (bound : UInt32) : 0 < (new bound).max.toNat := by
  rw [max_new]
  split
  · decide
  · rename_i positive
    exact Nat.pos_of_ne_zero fun zero => positive (UInt32.toNat_inj.mp zero)

theorem counts_new (bound : UInt32) : (new bound).Counts (new bound).max.toNat 0 :=
  ⟨rfl, rfl, max_new_pos bound⟩

theorem isExhausted_iff {budget : Budget} :
    budget.isExhausted = true ↔ budget.max.toNat ≤ budget.consecutive.toNat := by
  rw [isExhausted, decide_eq_true_iff, UInt32.le_iff_toNat_le]

theorem Counts.reset {budget : Budget} (counts : budget.Counts m n) : budget.reset.Counts m 0 :=
  ⟨counts.max, rfl, Nat.zero_lt_of_lt counts.below⟩

theorem Counts.isExhausted {budget : Budget} (counts : budget.Counts m n) :
    budget.isExhausted = false := by
  rw [← Bool.not_eq_true, isExhausted_iff, counts.max, counts.consecutive]
  exact Nat.not_le.mpr counts.below

/-- The addition does not wrap, as long as there is some budget left. -/
theorem Counts.consecutive_add_one {budget : Budget} (counts : budget.Counts m n) :
    (budget.consecutive + 1).toNat = n + 1 := by
  have bound := budget.max.toNat_lt
  have below := counts.below
  have max := counts.max
  rw [UInt32.toNat_add, counts.consecutive]
  exact Nat.mod_eq_of_lt (by simp; omega)

/-- Nor does the bound cut the count. -/
theorem Counts.recordFailure_eq {budget : Budget} (counts : budget.Counts m n) :
    budget.recordFailure = { budget with consecutive := budget.consecutive + 1 } := by
  have small : budget.consecutive + 1 ≤ budget.max := by
    rw [UInt32.le_iff_toNat_le, counts.consecutive_add_one, counts.max]
    exact counts.below
  exact congrArg (Budget.mk · budget.max) (if_pos small)

theorem Counts.consecutive_recordFailure {budget : Budget} (counts : budget.Counts m n) :
    budget.recordFailure.consecutive.toNat = n + 1 := by
  rw [counts.recordFailure_eq]
  exact counts.consecutive_add_one

theorem Counts.isExhausted_recordFailure {budget : Budget} (counts : budget.Counts m n) :
    budget.recordFailure.isExhausted = true ↔ n + 1 = m := by
  rw [isExhausted_iff, counts.consecutive_recordFailure]
  show budget.max.toNat ≤ n + 1 ↔ n + 1 = m
  rw [counts.max]
  exact ⟨Nat.le_antisymm counts.below, fun last => Nat.le_of_eq last.symm⟩

theorem Counts.recordFailure {budget : Budget} (counts : budget.Counts m n) (more : n + 1 < m) :
    budget.recordFailure.Counts m (n + 1) ∧ budget.recordFailure.isExhausted = false := by
  refine ⟨⟨counts.max, counts.consecutive_recordFailure, more⟩, ?_⟩
  rw [← Bool.not_eq_true, counts.isExhausted_recordFailure]
  exact Nat.ne_of_lt more

theorem Counts.exhausted {budget : Budget} (counts : budget.Counts m n) (last : m ≤ n + 1) :
    budget.recordFailure.isExhausted = true ∧ budget.recordFailure.consecutive = budget.max := by
  have full : n + 1 = m := Nat.le_antisymm counts.below last
  refine ⟨counts.isExhausted_recordFailure.mpr full, ?_⟩
  rw [← UInt32.toNat_inj, counts.consecutive_recordFailure, counts.max, full]

/-- A budget that has counted these failures and no others, and has room for one more. Adding that
one does not wrap and is not cut, and uses the budget up if and only if the bound is met. -/
structure HasRoom (budget : Budget) (bound : UInt32) (failures : Nat) : Prop where
  max : budget.max = bound
  consecutive : budget.consecutive.toNat = failures
  below : failures < bound.toNat
  left : budget.isExhausted = false
  unwrapped : budget.consecutive.toNat + 1 < UInt32.size
  sum : (budget.consecutive + 1).toNat = failures + 1
  uncut : budget.recordFailure.consecutive = budget.consecutive + 1
  exhausts : budget.recordFailure.isExhausted = true ↔ failures + 1 = bound.toNat

theorem Counts.hasRoom {budget : Budget} {bound : UInt32} {n : Nat}
    (counts : budget.Counts bound.toNat n) : budget.HasRoom bound n where
  max := UInt32.toNat_inj.mp counts.max
  consecutive := counts.consecutive
  below := counts.below
  left := counts.isExhausted
  unwrapped := by
    rw [counts.consecutive]
    exact Nat.lt_of_le_of_lt counts.below bound.toNat_lt_size
  sum := counts.consecutive_add_one
  uncut := congrArg Budget.consecutive counts.recordFailure_eq
  exhausts := counts.isExhausted_recordFailure

end Budget

end Heartbeat
