import PushRelay.Json.Reader

/-!
# PushRelay.Json.Skipping

Passing over a JSON value that nobody asked for.

The value must be well-formed, but it is not built, and less is asked of
it than of a value that is read: numbers may be out of range, halves of
surrogate pairs may stand alone, and nesting has no limit.  For the last
reason the brackets that are open are kept on a stack.
-/

namespace PushRelay

namespace Json

/-- A bracket that is open. -/
inductive Bracket where
  | array
  | object
deriving DecidableEq

def Bracket.closing : Bracket → Char
  | .array => ']'
  | .object => '\x7d'

/-- What may come next. -/
inductive SkipStage where
  /-- a value -/
  | value
  /-- a first element or the closing bracket -/
  | opened
  /-- a comma or the closing bracket, or nothing more -/
  | done

/-- Passes over a literal, a number or a string that begins with `c`.  A
number that ends too early is malformed here, not truncated. -/
def skipAtom (c : Char) (cs : List Char) : Except Fault (List Char) :=
  if c = 'n' then expectWord ['u', 'l', 'l'] cs
  else if c = 't' then expectWord ['r', 'u', 'e'] cs
  else if c = 'f' then expectWord ['a', 'l', 's', 'e'] cs
  else if c = '"' then skipString cs
  else if c = '-' ∨ c.isDigit then
    match readNumberText (c :: cs) with
    | .error _ => .error .malformed
    | .ok (_, cs) => .ok cs
  else .error .malformed

/-- Passes over what stands before the value of an element: nothing in an
array, a name and a colon in an object. -/
def skipName : Bracket → List Char → Except Fault (List Char)
  | .array, cs => .ok cs
  | .object, cs =>
    match expectMark '"' cs with
    | .error e => .error e
    | .ok cs =>
      match skipString cs with
      | .error e => .error e
      | .ok cs => expectMark ':' cs

/-- Passes over the rest of a value with the brackets `pending` still to be
closed, the innermost first.  The `fuel` is at least twice the length of
the text. -/
def skipFrom : (fuel : Nat) → (pending : List Bracket) → SkipStage → List Char →
    Except Fault (List Char)
  | 0, _, _, _ => .error .truncated
  | fuel + 1, pending, .value, cs =>
    match skipBlanks cs with
    | [] => .error .truncated
    | c :: cs =>
      if c = '[' then skipFrom fuel (.array :: pending) .opened cs
      else if c = '\x7b' then skipFrom fuel (.object :: pending) .opened cs
      else match skipAtom c cs with
        | .error e => .error e
        | .ok cs => skipFrom fuel pending .done cs
  | _ + 1, [], _, cs => .ok cs
  | fuel + 1, b :: pending, .opened, cs =>
    match skipBlanks cs with
    | [] => .error .truncated
    | c :: cs =>
      if c = b.closing then skipFrom fuel pending .done cs
      else match skipName b (c :: cs) with
        | .error e => .error e
        | .ok cs => skipFrom fuel (b :: pending) .value cs
  | fuel + 1, b :: pending, .done, cs =>
    match skipBlanks cs with
    | [] => .error .truncated
    | c :: cs =>
      if c = b.closing then skipFrom fuel pending .done cs
      else if c = ',' then
        match skipName b cs with
        | .error e => .error e
        | .ok cs => skipFrom fuel (b :: pending) .value cs
      else .error .malformed

/-- Passes over the value at the head of a text of at most `size`
characters. -/
def skipValue (size : Nat) (cs : List Char) : Except Fault (List Char) :=
  skipFrom (2 * size + 2) [] .value cs

end Json

end PushRelay
