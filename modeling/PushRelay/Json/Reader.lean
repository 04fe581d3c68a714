import PushRelay.Json.Printer

/-!
# PushRelay.Json.Reader

Reading a JSON text.

1. The format is strict: the only blanks are space, tab, line feed and
   carriage return, no comma stands before a closing bracket, and nothing
   but blanks follows the value.
2. At most `maxDepth` arrays and objects may be open at a time.
3. Of the members of an object with one name the last one stays.
4. A text is read from left to right, and the first fault that is met is
   the one reported.

A reader of a part takes the text and returns what it read and the rest.
Readers of lists take the reader of their elements as an argument, so that
`readValue` is a recursion on the depth that is left.  They also take a
`fuel`, a bound on the number of elements: the length of the whole text is
always enough, since each element takes a character at least.
-/

namespace PushRelay

namespace Json

/-- How many arrays and objects may be open at a time. -/
def maxDepth : Nat := 127

/-! ## Blanks and literals -/

def isBlank (c : Char) : Bool := c = ' ' || c = '\n' || c = '\t' || c = '\r'

def skipBlanks (cs : List Char) : List Char := cs.dropWhile isBlank

/-- Takes the characters of `word` off the text. -/
def expectWord : (word : List Char) → List Char → Except Fault (List Char)
  | [], cs => .ok cs
  | _ :: _, [] => .error .truncated
  | w :: word, c :: cs => if c = w then expectWord word cs else .error .malformed

/-- Takes a mark off the text, with the blanks before it. -/
def expectMark (mark : Char) (cs : List Char) : Except Fault (List Char) :=
  match skipBlanks cs with
  | [] => .error .truncated
  | c :: cs => if c = mark then .ok cs else .error .malformed

/-! ## Values without parts -/

/-- Reads a literal, a number or a string that begins with `c`. -/
def readAtom (c : Char) (cs : List Char) : Reading Json :=
  if c = 'n' then (expectWord ['u', 'l', 'l'] cs).map fun cs => (.null, cs)
  else if c = 't' then (expectWord ['r', 'u', 'e'] cs).map fun cs => (.bool true, cs)
  else if c = 'f' then (expectWord ['a', 'l', 's', 'e'] cs).map fun cs => (.bool false, cs)
  else if c = '"' then
    match readString cs with
    | .error e => .error e
    | .ok (s, cs) => .ok (.string s, cs)
  else if c = '-' ∨ c.isDigit then
    match readNumber (c :: cs) with
    | .error e => .error e
    | .ok (n, cs) => .ok (.number n, cs)
  else .error .malformed

/-! ## Lists of elements -/

/-- Reads elements up to the closing bracket, at least one; `acc` holds
those before, the last one first. -/
def readItems {α : Type} (item : List Char → Reading α) :
    (fuel : Nat) → List α → List Char → Reading (List α)
  | 0, _, _ => .error .truncated
  | fuel + 1, acc, cs =>
    match item cs with
    | .error e => .error e
    | .ok (x, cs) =>
      match skipBlanks cs with
      | [] => .error .truncated
      | c :: cs =>
        if c = ']' then .ok ((x :: acc).reverse, cs)
        else if c = ',' then readItems item fuel (x :: acc) cs
        else .error .malformed

/-- Reads the elements of an array behind its opening bracket. -/
def readArray {α : Type} (item : List Char → Reading α) (fuel : Nat) (cs : List Char) :
    Reading (List α) :=
  match skipBlanks cs with
  | [] => .error .truncated
  | c :: cs => if c = ']' then .ok ([], cs) else readItems item fuel [] (c :: cs)

/-- Reads the name of a member and the colon behind it. -/
def readName (cs : List Char) : Reading String :=
  match expectMark '"' cs with
  | .error e => .error e
  | .ok cs =>
    match readString cs with
    | .error e => .error e
    | .ok (name, cs) =>
      match expectMark ':' cs with
      | .error e => .error e
      | .ok cs => .ok (name, cs)

/-- Reads members up to the closing brace, at least one, and enters them
into `acc`. -/
def readMembers (value : List Char → Reading Json) :
    (fuel : Nat) → List (String × Json) → List Char → Reading (List (String × Json))
  | 0, _, _ => .error .truncated
  | fuel + 1, acc, cs =>
    match readName cs with
    | .error e => .error e
    | .ok (name, cs) =>
      match value cs with
      | .error e => .error e
      | .ok (x, cs) =>
        match skipBlanks cs with
        | [] => .error .truncated
        | c :: cs =>
          if c = '\x7d' then .ok (Entries.insert name x acc, cs)
          else if c = ',' then readMembers value fuel (Entries.insert name x acc) cs
          else .error .malformed

/-- Reads the members of an object behind its opening brace. -/
def readObject (value : List Char → Reading Json) (fuel : Nat) (cs : List Char) :
    Reading (List (String × Json)) :=
  match skipBlanks cs with
  | [] => .error .truncated
  | c :: cs => if c = '\x7d' then .ok ([], cs) else readMembers value fuel [] (c :: cs)

/-! ## Values -/

/-- Reads a value, with at most `depth` arrays and objects open in it at a
time. -/
def readValue (fuel : Nat) : (depth : Nat) → List Char → Reading Json
  | 0, cs =>
    match skipBlanks cs with
    | [] => .error .truncated
    | c :: cs => if c = '[' ∨ c = '\x7b' then .error .malformed else readAtom c cs
  | depth + 1, cs =>
    match skipBlanks cs with
    | [] => .error .truncated
    | c :: cs =>
      if c = '[' then
        match readArray (readValue fuel depth) fuel cs with
        | .error e => .error e
        | .ok (xs, cs) => .ok (.array xs, cs)
      else if c = '\x7b' then
        match readObject (readValue fuel depth) fuel cs with
        | .error e => .error e
        | .ok (ms, cs) => .ok (.object ms, cs)
      else readAtom c cs

/-- Applies a reader to a whole text: nothing but blanks may follow. -/
def readAll {α : Type} (value : (fuel : Nat) → List Char → Reading α) (cs : List Char) :
    Except Fault α :=
  match value cs.length cs with
  | .error e => .error e
  | .ok (x, cs) => if skipBlanks cs = [] then .ok x else .error .malformed

/-- Reads a JSON text. -/
def parse (text : String) : Except Fault Json :=
  readAll (fun fuel => readValue fuel maxDepth) text.toList

example : (parse " [1, 2.50, null] ").toOption.map render = some "[1,2.5,null]" := by
  decide +kernel

end Json

end PushRelay
