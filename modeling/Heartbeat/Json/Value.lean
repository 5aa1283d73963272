import Heartbeat.Decimal.Shortest

/-!
JSON values. The members of an object stand in the order of their names, each name once.
-/

namespace Heartbeat.Json

inductive Number where
  | integer (value : Int)
  | float (negative : Bool) (size : Decimal.Binary64)
deriving DecidableEq

inductive Value where
  | null
  | boolean (value : Bool)
  | number (value : Number)
  | string (text : String)
  | array (items : List Value)
  | object (members : List (String × Value))

/-- A value under a name that is already there replaces the older one. -/
def insertMember (name : String) (value : Value) :
    List (String × Value) → List (String × Value)
  | [] => [(name, value)]
  | (first, old) :: rest =>
      if name < first then (name, value) :: (first, old) :: rest
      else if name = first then (name, value) :: rest
      else (first, old) :: insertMember name value rest

mutual

def Value.same : Value → Value → Bool
  | .null, .null => true
  | .boolean x, .boolean y => x == y
  | .number x, .number y => x == y
  | .string x, .string y => x == y
  | .array xs, .array ys => sameItems xs ys
  | .object xs, .object ys => sameMembers xs ys
  | _, _ => false

def sameItems : List Value → List Value → Bool
  | [], [] => true
  | x :: xs, y :: ys => x.same y && sameItems xs ys
  | _, _ => false

def sameMembers : List (String × Value) → List (String × Value) → Bool
  | [], [] => true
  | (m, x) :: xs, (n, y) :: ys => m == n && x.same y && sameMembers xs ys
  | _, _ => false

end

mutual

theorem Value.same_iff : ∀ x y : Value, x.same y = true ↔ x = y
  | .null, y => by cases y <;> simp [Value.same]
  | .boolean x, y => by cases y <;> simp [Value.same]
  | .number x, y => by cases y <;> simp [Value.same]
  | .string x, y => by cases y <;> simp [Value.same]
  | .array xs, y => by
      cases y with
      | array ys => simp [Value.same, sameItems_iff xs ys]
      | _ => simp [Value.same]
  | .object xs, y => by
      cases y with
      | object ys => simp [Value.same, sameMembers_iff xs ys]
      | _ => simp [Value.same]

theorem sameItems_iff : ∀ xs ys : List Value, sameItems xs ys = true ↔ xs = ys
  | [], ys => by cases ys <;> simp [sameItems]
  | x :: xs, ys => by
      cases ys with
      | nil => simp [sameItems]
      | cons y ys => simp [sameItems, Value.same_iff x y, sameItems_iff xs ys]

theorem sameMembers_iff :
    ∀ xs ys : List (String × Value), sameMembers xs ys = true ↔ xs = ys
  | [], ys => by cases ys <;> simp [sameMembers]
  | (m, x) :: xs, ys => by
      cases ys with
      | nil => simp [sameMembers]
      | cons y ys =>
          obtain ⟨n, y⟩ := y
          simp [sameMembers, Value.same_iff x y, sameMembers_iff xs ys, and_assoc]

end

instance : DecidableEq Value := fun x y =>
  decidable_of_iff _ (Value.same_iff x y)

end Heartbeat.Json
