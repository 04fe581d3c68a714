import PushRelay.Json.Basic

/-!
# PushRelay.Node.Basic

Dynamic values: JSON values and what a program may hold beside them.

Arrays, objects, functions, patterns and dates are shared when they are
passed on.  Each carries an `Identity`, by which one can tell whether two
of them are the same thing or only look alike.  A copy keeps the identity;
whatever is made anew takes an unused one.
-/

namespace PushRelay

/-- What tells a shared value from all others. -/
abbrev Identity := Nat

/-- A dynamic value. -/
inductive Node where
  | undefined
  | null
  | bool (b : Bool)
  | number (x : Double)
  | string (s : String)
  | array (id : Identity) (items : List Node)
  /-- members in ascending order of their names -/
  | object (id : Identity) (members : List (String × Node))
  | function (id : Identity)
  | pattern (id : Identity) (source : String)
  /-- an instant, in milliseconds since the beginning of 1970 -/
  | date (id : Identity) (millis : Int)

namespace Node

instance : Inhabited Node := ⟨.undefined⟩

/-- The kinds of dynamic values. -/
inductive Kind where
  | undefined
  | null
  | bool
  | number
  | string
  | array
  | object
  | function
  | pattern
  | date
deriving DecidableEq, Repr

def kind : Node → Kind
  | .undefined => .undefined
  | .null => .null
  | .bool _ => .bool
  | .number _ => .number
  | .string _ => .string
  | .array .. => .array
  | .object .. => .object
  | .function _ => .function
  | .pattern .. => .pattern
  | .date .. => .date

/-- The name of a kind. -/
def Kind.shown : Kind → String
  | .undefined => "Undefined"
  | .null => "Null"
  | .bool => "Bool"
  | .number => "Number"
  | .string => "String"
  | .array => "Array"
  | .object => "Object"
  | .function => "Function"
  | .pattern => "Pattern"
  | .date => "Date"

/-! ## JSON values as dynamic values -/

mutual

/-- The dynamic value of a JSON value, with identities from `next` on for
its arrays and objects, and the first identity that is left. -/
def ofJson : Json → (next : Identity) → Node × Identity
  | .null, next => (.null, next)
  | .bool b, next => (.bool b, next)
  | .number n, next => (.number n.toDouble, next)
  | .string s, next => (.string s, next)
  | .array xs, next =>
    let (items, next') := itemsOfJson xs (next + 1)
    (.array next items, next')
  | .object ms, next =>
    let (members, next') := membersOfJson ms (next + 1)
    (.object next members, next')
termination_by structural x => x

def itemsOfJson : List Json → (next : Identity) → List Node × Identity
  | [], next => ([], next)
  | x :: xs, next =>
    let (y, next) := ofJson x next
    let (ys, next) := itemsOfJson xs next
    (y :: ys, next)
termination_by structural xs => xs

def membersOfJson : List (String × Json) → (next : Identity) → List (String × Node) × Identity
  | [], next => ([], next)
  | (k, x) :: ms, next =>
    let (y, next) := ofJson x next
    let (ys, next) := membersOfJson ms next
    ((k, y) :: ys, next)
termination_by structural ms => ms

end

end Node

end PushRelay
