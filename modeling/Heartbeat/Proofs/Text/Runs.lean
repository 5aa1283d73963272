import Mathlib.Data.List.TakeDrop

/-!
Runs of characters of one kind, bytes or others, and where such a run ends.
-/

namespace Heartbeat.Text

variable {kind : α → Bool} {run rest : List α}

/-- A text that does not go on with characters of this kind. -/
def Stops (kind : α → Bool) (rest : List α) : Prop :=
  ∀ c ∈ rest.head?, kind c = false

theorem dropWhile_of_stops (stops : Stops kind rest) : rest.dropWhile kind = rest := by
  cases rest with
  | nil => rfl
  | cons c rest => exact List.dropWhile_cons_of_neg (ne_true_of_eq_false (stops c rfl))

theorem takeWhile_of_stops (stops : Stops kind rest) : rest.takeWhile kind = [] := by
  cases rest with
  | nil => rfl
  | cons c rest => exact List.takeWhile_cons_of_neg (ne_true_of_eq_false (stops c rfl))

theorem dropWhile_run (all : ∀ c ∈ run, kind c = true) (stops : Stops kind rest) :
    (run ++ rest).dropWhile kind = rest := by
  rw [List.dropWhile_append_of_pos all, dropWhile_of_stops stops]

theorem takeWhile_run (all : ∀ c ∈ run, kind c = true) (stops : Stops kind rest) :
    (run ++ rest).takeWhile kind = run := by
  rw [List.takeWhile_append_of_pos all, takeWhile_of_stops stops, List.append_nil]

theorem span_run (all : ∀ c ∈ run, kind c = true) (stops : Stops kind rest) :
    (run ++ rest).span kind = (run, rest) := by
  rw [List.span_eq_takeWhile_dropWhile, dropWhile_run all stops, takeWhile_run all stops]

theorem exists_run (kind : α → Bool) (text : List α) :
    ∃ run, (∀ c ∈ run, kind c = true) ∧ text = run ++ text.dropWhile kind :=
  ⟨text.takeWhile kind, fun c member => List.all_eq_true.mp List.all_takeWhile c member,
    List.takeWhile_append_dropWhile.symm⟩

theorem run_of_span {text : List α} (span : text.span kind = (run, rest)) :
    (∀ c ∈ run, kind c = true) ∧ text = run ++ rest := by
  rw [List.span_eq_takeWhile_dropWhile] at span
  cases span
  exact ⟨fun c member => List.all_eq_true.mp List.all_takeWhile c member,
    List.takeWhile_append_dropWhile.symm⟩

end Heartbeat.Text
