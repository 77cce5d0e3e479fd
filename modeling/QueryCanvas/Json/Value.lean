/-!
# JSON values

The tree of a JSON document. Whole numbers and binary64 numbers are kept apart, a binary64 number
by its bits, so that equality of values is decidable (`Json.decEq`).
-/

namespace QueryCanvas

/-- A JSON value. The members of an object stand in an order. -/
inductive Json where
  | null
  | bool (value : Bool)
  | int (value : Int)
  | float (bits : UInt64)
  | string (value : String)
  | array (items : List Json)
  | object (members : List (String × Json))
deriving Inhabited

namespace Json

mutual

/-- Equality of two values. -/
def eq : Json → Json → Bool
  | .null, .null => true
  | .bool a, .bool b => a == b
  | .int a, .int b => a == b
  | .float a, .float b => a == b
  | .string a, .string b => a == b
  | .array a, .array b => eqItems a b
  | .object a, .object b => eqMembers a b
  | _, _ => false

/-- Equality of two lists of values. -/
def eqItems : List Json → List Json → Bool
  | [], [] => true
  | x :: xs, y :: ys => eq x y && eqItems xs ys
  | _, _ => false

/-- Equality of two lists of members. -/
def eqMembers : List (String × Json) → List (String × Json) → Bool
  | [], [] => true
  | (k, x) :: xs, (l, y) :: ys => k == l && (eq x y && eqMembers xs ys)
  | _, _ => false

end

mutual

theorem eq_iff : ∀ a b : Json, eq a b = true ↔ a = b
  | .null, b => by cases b <;> simp [eq]
  | .bool _, b => by cases b <;> simp [eq]
  | .int _, b => by cases b <;> simp [eq]
  | .float _, b => by cases b <;> simp [eq]
  | .string _, b => by cases b <;> simp [eq]
  | .array a, b => by cases b <;> simp [eq, eqItems_iff a]
  | .object a, b => by cases b <;> simp [eq, eqMembers_iff a]

theorem eqItems_iff : ∀ a b : List Json, eqItems a b = true ↔ a = b
  | [], b => by cases b <;> simp [eqItems]
  | x :: xs, b => by cases b <;> simp [eqItems, eq_iff x, eqItems_iff xs]

theorem eqMembers_iff : ∀ a b : List (String × Json), eqMembers a b = true ↔ a = b
  | [], b => by cases b <;> simp [eqMembers]
  | (k, x) :: xs, b => by
      cases b with
      | nil => simp [eqMembers]
      | cons y ys =>
          obtain ⟨l, y⟩ := y
          simp [eqMembers, eq_iff x, eqMembers_iff xs, and_assoc]

end

instance decEq : DecidableEq Json := fun a b =>
  decidable_of_iff (eq a b = true) (eq_iff a b)

/-- The member of an object with the given name. -/
def member? (name : String) : Json → Option Json
  | .object members => members.lookup name
  | _ => none

end Json

end QueryCanvas
