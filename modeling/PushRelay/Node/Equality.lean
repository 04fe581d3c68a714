import PushRelay.Node.Basic

/-!
# PushRelay.Node.Equality

When two dynamic values are equal, by the first of these rules that
applies:

1. null and undefined equal only themselves;
2. values of different kinds are not equal;
3. functions, patterns and dates are equal if they are the same thing;
4. truth values and strings are equal if they are the same, numbers by
   numerical equality;
5. arrays and objects are equal if they are the same thing;
6. other arrays are equal if they have the same length and equal items;
7. other objects are equal if they have the same names and equal members.

A number that is no number equals nothing.  Rule 5 comes before the items
are looked at, so an array that holds such a number still equals its copy.
-/

namespace PushRelay

namespace Node

mutual

/-- Whether two dynamic values are equal. -/
def equals : Node → Node → Bool
  | .undefined, .undefined => true
  | .null, .null => true
  | .bool a, .bool b => a == b
  | .number a, .number b => decide (a.Same b)
  | .string a, .string b => a == b
  | .array i xs, .array j ys => i == j || equalItems xs ys
  | .object i xs, .object j ys =>
    i == j || (ys.all fun e => (Entries.find? e.1 xs).isSome) && equalMembers xs ys
  | .function i, .function j => i == j
  | .pattern i _, .pattern j _ => i == j
  | .date i _, .date j _ => i == j
  | _, _ => false
termination_by structural x => x

/-- Whether two lists have the same length and equal items. -/
def equalItems : List Node → List Node → Bool
  | [], [] => true
  | x :: xs, y :: ys => equals x y && equalItems xs ys
  | _, _ => false
termination_by structural xs => xs

/-- Whether every member of the first list has an equal one of its name in
the second. -/
def equalMembers : List (String × Node) → List (String × Node) → Bool
  | [], _ => true
  | (k, x) :: xs, ys =>
    (match Entries.find? k ys with
      | some y => equals x y
      | none => false) && equalMembers xs ys
termination_by structural xs => xs

end

/-- Equality of JSON values, as dynamic values that share nothing. -/
def jsonEquals (x y : Json) : Bool :=
  let (a, next) := ofJson x 0
  equals a (ofJson y next).1

end Node

end PushRelay
