import PushRelay.Json.Number

/-!
# PushRelay.Json.Quoted

Strings of JSON texts.

A string is written with the escapes that it needs and no others: before a
quote and a backslash, short forms for backspace, form feed, line feed,
carriage return and tab, and four hexadecimal digits for the other controls
below U+0020.

It is read one character at a time.  `readString` accepts every escape of
the format, controls below U+0020 excepted, and joins the two halves of a
surrogate pair; a half that stands alone is refused.  `skipString` passes
over a string whose content is not asked for, and does not look at
surrogates.
-/

namespace PushRelay

namespace Json

/-! ## Writing -/

/-- A character as it stands in a string. -/
def escaped (c : Char) : List Char :=
  if c = '"' then ['\\', '"']
  else if c = '\\' then ['\\', '\\']
  else if c = '\x08' then ['\\', 'b']
  else if c = '\x0c' then ['\\', 'f']
  else if c = '\n' then ['\\', 'n']
  else if c = '\r' then ['\\', 'r']
  else if c = '\t' then ['\\', 't']
  else if c.toNat < 0x20 then
    ['\\', 'u', '0', '0', Nat.digitChar (c.toNat / 16), Nat.digitChar (c.toNat % 16)]
  else [c]

/-- A string with its quotes. -/
def stringChars (s : String) : List Char :=
  '"' :: (s.toList.flatMap escaped ++ ['"'])

/-! ## Reading -/

/-- The character that a backslash and `c` stand for. -/
def unescape? (c : Char) : Option Char :=
  if c = '"' ∨ c = '\\' ∨ c = '/' then some c
  else if c = 'b' then some '\x08'
  else if c = 'f' then some '\x0c'
  else if c = 'n' then some '\n'
  else if c = 'r' then some '\r'
  else if c = 't' then some '\t'
  else none

def hexValue? (c : Char) : Option Nat :=
  let n := c.toNat
  if 0x30 ≤ n ∧ n ≤ 0x39 then some (n - 0x30)
  else if 0x61 ≤ n ∧ n ≤ 0x66 then some (n - 0x61 + 10)
  else if 0x41 ≤ n ∧ n ≤ 0x46 then some (n - 0x41 + 10)
  else none

/-- The fault of a text `cs` that should begin with `count` hexadecimal
digits and does not: it is truncated if it is shorter than that in bytes. -/
def hexFault (count : Nat) (cs : List Char) : Fault :=
  if (String.ofList (cs.take count)).utf8ByteSize < count then .truncated else .malformed

/-- Where in a string the reader stands. -/
inductive StringState where
  /-- outside an escape -/
  | plain
  /-- behind a backslash -/
  | escape
  /-- before the last `count + 1` digits of a code unit, of which the
  earlier ones make `value`; `high` is the first half of a pair -/
  | unit (high : Option Nat) (count value : Nat)
  /-- behind the first half of a pair -/
  | pair (high : Nat)
  /-- behind the first half of a pair and a backslash -/
  | pairEscape (high : Nat)

/-- What follows a complete code unit. -/
inductive UnitResult where
  | char (c : Char)
  | half (high : Nat)
  | refused

/-- Joins a code unit with the half of a pair before it, if there is one. -/
def joinUnit (high : Option Nat) (v : Nat) : UnitResult :=
  let isLow : Bool := 0xDC00 ≤ v && v ≤ 0xDFFF
  match high with
  | none =>
    if isLow then .refused
    else if 0xD800 ≤ v ∧ v ≤ 0xDBFF then .half v
    else .char (Char.ofNat v)
  | some h =>
    if isLow then .char (Char.ofNat (0x10000 + (h - 0xD800) * 0x400 + (v - 0xDC00)))
    else .refused

/-- Reads a string up to its closing quote; `acc` holds the characters so
far, the last one first. -/
def readStringFrom : StringState → List Char → List Char → Reading String
  | _, _, [] => .error .truncated
  | .plain, acc, c :: cs =>
    if c = '"' then .ok (String.ofList acc.reverse, cs)
    else if c = '\\' then readStringFrom .escape acc cs
    else if c.toNat < 0x20 then .error .malformed
    else readStringFrom .plain (c :: acc) cs
  | .escape, acc, c :: cs =>
    if c = 'u' then readStringFrom (.unit none 3 0) acc cs
    else match unescape? c with
      | some d => readStringFrom .plain (d :: acc) cs
      | none => .error .malformed
  | .unit high count value, acc, c :: cs =>
    match hexValue? c with
    | none => .error (hexFault (count + 1) (c :: cs))
    | some d =>
      match count with
      | count + 1 => readStringFrom (.unit high count (value * 16 + d)) acc cs
      | 0 =>
        match joinUnit high (value * 16 + d) with
        | .char x => readStringFrom .plain (x :: acc) cs
        | .half h => readStringFrom (.pair h) acc cs
        | .refused => .error .malformed
  | .pair high, acc, c :: cs =>
    if c = '\\' then readStringFrom (.pairEscape high) acc cs else .error .malformed
  | .pairEscape high, acc, c :: cs =>
    if c = 'u' then readStringFrom (.unit (some high) 3 0) acc cs else .error .malformed

/-- Reads a string behind its opening quote. -/
def readString (cs : List Char) : Reading String := readStringFrom .plain [] cs

/-- Where in a string that is passed over the reader stands: outside an
escape, behind a backslash, or before `count + 1` hexadecimal digits. -/
inductive SkipState where
  | plain
  | escape
  | unit (count : Nat)

/-- Passes over a string up to its closing quote. -/
def skipStringFrom : SkipState → List Char → Except Fault (List Char)
  | _, [] => .error .truncated
  | .plain, c :: cs =>
    if c = '"' then .ok cs
    else if c = '\\' then skipStringFrom .escape cs
    else if c.toNat < 0x20 then .error .malformed
    else skipStringFrom .plain cs
  | .escape, c :: cs =>
    if c = 'u' then skipStringFrom (.unit 3) cs
    else if (unescape? c).isSome then skipStringFrom .plain cs
    else .error .malformed
  | .unit count, c :: cs =>
    match hexValue? c with
    | none => .error (hexFault (count + 1) (c :: cs))
    | some _ =>
      match count with
      | count + 1 => skipStringFrom (.unit count) cs
      | 0 => skipStringFrom .plain cs

/-- Passes over a string behind its opening quote. -/
def skipString (cs : List Char) : Except Fault (List Char) := skipStringFrom .plain cs

end Json

end PushRelay
