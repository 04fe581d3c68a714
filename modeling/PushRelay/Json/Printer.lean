import PushRelay.Json.Basic
import PushRelay.Json.Quoted

/-!
# PushRelay.Json.Printer

The compact text of a JSON value: no blanks, the members of an object in
their order.
-/

namespace PushRelay

namespace Json

mutual

/-- The compact text of a value. -/
def chars : Json → List Char
  | .null => ['n', 'u', 'l', 'l']
  | .bool true => ['t', 'r', 'u', 'e']
  | .bool false => ['f', 'a', 'l', 's', 'e']
  | .number n => n.chars
  | .string s => stringChars s
  | .array [] => ['[', ']']
  | .array (x :: xs) => '[' :: (chars x ++ itemChars xs)
  | .object [] => ['\x7b', '\x7d']
  | .object ((k, x) :: ms) => '\x7b' :: (stringChars k ++ ':' :: (chars x ++ memberChars ms))
termination_by structural x => x

/-- The items behind the first one, each after a comma, and the closing
bracket. -/
def itemChars : List Json → List Char
  | [] => [']']
  | x :: xs => ',' :: (chars x ++ itemChars xs)
termination_by structural xs => xs

/-- The members behind the first one, each after a comma, and the closing
brace. -/
def memberChars : List (String × Json) → List Char
  | [] => ['\x7d']
  | (k, x) :: ms => ',' :: (stringChars k ++ ':' :: (chars x ++ memberChars ms))
termination_by structural ms => ms

end

/-- The compact text of a value. -/
def render (x : Json) : String := String.ofList (chars x)

end Json

end PushRelay
