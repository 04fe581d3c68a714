import PushRelay.Json.Number
import PushRelay.Table

/-!
# PushRelay.Json.Basic

JSON values.  The members of an object are listed in ascending order of
their names, one member a name (`Json.Ordered`); every value that is read
or built here is so.
-/

namespace PushRelay

/-- A JSON value. -/
inductive Json where
  | null
  | bool (b : Bool)
  | number (n : Json.Number)
  | string (s : String)
  | array (items : List Json)
  | object (members : List (String × Json))

namespace Json

instance : Inhabited Json := ⟨.null⟩

/-! ## Building and asking -/

/-- The object with the given members, the last of a name winning. -/
def ofMembers (members : List (String × Json)) : Json :=
  .object (Entries.insertAll [] members)

/-- The member of an object with the given name. -/
def member? (name : String) : Json → Option Json
  | .object members => Entries.find? name members
  | _ => none

/-- The text, if the value is a string. -/
def string? : Json → Option String
  | .string s => some s
  | _ => none

/-- The whole number `n`; beyond 64 bits it is the nearest binary64 number,
and null if there is none. -/
def ofInt (n : Int) : Json :=
  match Number.ofInt? n with
  | some x => .number x
  | none =>
    match Finite.ofRank? (n < 0) (Binary64.nearest n.natAbs 1) with
    | some x => .number (.real x)
    | none => .null

/-- A binary64 number; one that is not finite has no JSON form and becomes
null. -/
def ofDouble : Double → Json
  | .finite x => .number (.real x)
  | _ => .null

/-! ## Equality -/

mutual

/-- Whether two values are the same. -/
def beq : Json → Json → Bool
  | .null, .null => true
  | .bool a, .bool b => a == b
  | .number a, .number b => a == b
  | .string a, .string b => a == b
  | .array xs, .array ys => beqItems xs ys
  | .object xs, .object ys => beqMembers xs ys
  | _, _ => false
termination_by structural x => x

def beqItems : List Json → List Json → Bool
  | [], [] => true
  | x :: xs, y :: ys => beq x y && beqItems xs ys
  | _, _ => false
termination_by structural x => x

def beqMembers : List (String × Json) → List (String × Json) → Bool
  | [], [] => true
  | (k, x) :: xs, (l, y) :: ys => k == l && beq x y && beqMembers xs ys
  | _, _ => false
termination_by structural x => x

end

mutual

/-- The test for equality of values is exact. -/
theorem beq_iff : (x y : Json) → (beq x y = true ↔ x = y)
  | .null, y => by cases y <;> simp [beq]
  | .bool _, y => by cases y <;> simp [beq]
  | .number _, y => by cases y <;> simp [beq]
  | .string _, y => by cases y <;> simp [beq]
  | .array xs, y => by cases y <;> simp [beq, beqItems_iff xs]
  | .object xs, y => by cases y <;> simp [beq, beqMembers_iff xs]

/-- So it is for the items of arrays. -/
theorem beqItems_iff : (xs ys : List Json) → (beqItems xs ys = true ↔ xs = ys)
  | [], ys => by cases ys <;> simp [beqItems]
  | x :: xs, ys => by cases ys <;> simp [beqItems, beq_iff x, beqItems_iff xs]

/-- So it is for the members of objects. -/
theorem beqMembers_iff : (xs ys : List (String × Json)) → (beqMembers xs ys = true ↔ xs = ys)
  | [], ys => by cases ys <;> simp [beqMembers]
  | (k, x) :: xs, ys => by
    rcases ys with _ | ⟨⟨l, y⟩, ys⟩
    · simp [beqMembers]
    · simp [beqMembers, beq_iff x, beqMembers_iff xs, and_assoc]

end

instance : DecidableEq Json := fun x y => decidable_of_iff _ (beq_iff x y)

/-! ## Depth and order -/

mutual

/-- How deep arrays and objects nest in a value. -/
def depth : Json → Nat
  | .array xs => depthItems xs + 1
  | .object ms => depthMembers ms + 1
  | _ => 0
termination_by structural x => x

def depthItems : List Json → Nat
  | [] => 0
  | x :: xs => max (depth x) (depthItems xs)
termination_by structural xs => xs

def depthMembers : List (String × Json) → Nat
  | [] => 0
  | (_, x) :: ms => max (depth x) (depthMembers ms)
termination_by structural ms => ms

end

mutual

/-- In every object the members ascend by name. -/
def Ordered : Json → Prop
  | .array xs => OrderedItems xs
  | .object ms => Entries.Ascending ms ∧ OrderedMembers ms
  | _ => True
termination_by structural x => x

def OrderedItems : List Json → Prop
  | [] => True
  | x :: xs => Ordered x ∧ OrderedItems xs
termination_by structural xs => xs

def OrderedMembers : List (String × Json) → Prop
  | [] => True
  | (_, x) :: ms => Ordered x ∧ OrderedMembers ms
termination_by structural ms => ms

end

end Json

end PushRelay
