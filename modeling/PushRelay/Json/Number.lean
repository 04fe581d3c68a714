import PushRelay.Decimal.Layout
import PushRelay.Decimal.Reading

/-!
# PushRelay.Json.Number

Numbers of JSON texts.

1. A whole number without point and exponent that fits 64 bits, unsigned
   if it is not negative and signed if it is, stays a whole number.
2. Every other number is a finite binary64 number; one that is out of
   range is refused.  A negative zero is such a number.
3. A whole number is written in decimal.  A binary64 number is written
   with the fewest digits that stand for it, with a point and at least one
   digit behind it where its first digit has an exponent from -5 to 15,
   and with an exponent elsewhere.
-/

namespace PushRelay

namespace Json

/-! ## Values -/

/-- A number of a JSON text. -/
inductive Number where
  /-- a whole number from `-2 ^ 63` to `2 ^ 64 - 1` -/
  | whole (n : Int) (fits : -9223372036854775808 ≤ n ∧ n < 18446744073709551616)
  | real (x : Finite)
deriving DecidableEq

namespace Number

/-- The whole number `n`, if it fits 64 bits. -/
def ofInt? (n : Int) : Option Number :=
  if h : -9223372036854775808 ≤ n ∧ n < 18446744073709551616 then some (.whole n h) else none

/-- The binary64 number nearest to a number. -/
def toDouble : Number → Double
  | .whole n _ => Double.ofInt n
  | .real x => .finite x

/-! ## Writing -/

/-- How a binary64 number is written in a JSON text. -/
def layout : Decimal.Layout where
  tie := .even
  pointZero := true
  plain := some (-5, 15)

def chars : Number → List Char
  | .whole n _ => Decimal.intChars n
  | .real x => layout.render x

end Number

/-! ## Reading -/

/-- Why a JSON text is refused. -/
inductive Fault where
  /-- no JSON text begins like this -/
  | malformed
  /-- the text ends too early -/
  | truncated
  /-- well-formed so far, but not of the shape that was asked for -/
  | mismatched
deriving DecidableEq, Repr

/-- What reading a part of a text leaves: a result and the rest of the
text, or a fault. -/
abbrev Reading (α : Type) := Except Fault (α × List Char)

/-- The parts of a number as it stands in the text. -/
structure NumberText where
  negative : Bool
  /-- the digits before the point -/
  whole : List Char
  /-- the digits behind the point -/
  fraction : Option (List Char)
  /-- the digits of the exponent and whether it is negative -/
  exponent : Option (Bool × List Char)
deriving DecidableEq

/-- The digits before the point: a single zero, or digits that do not
begin with one. -/
def readWhole : List Char → Reading (List Char)
  | [] => .error .truncated
  | c :: cs =>
    if c = '0' then
      match cs with
      | d :: _ => if d.isDigit then .error .malformed else .ok (['0'], cs)
      | [] => .ok (['0'], [])
    else if c.isDigit then .ok (c :: cs.takeWhile Char.isDigit, cs.dropWhile Char.isDigit)
    else .error .malformed

/-- One digit or more. -/
def readDigits (cs : List Char) : Reading (List Char) :=
  match cs with
  | [] => .error .truncated
  | c :: _ =>
    if c.isDigit then .ok (cs.takeWhile Char.isDigit, cs.dropWhile Char.isDigit)
    else .error .malformed

/-- The point and the digits behind it, if there is a point. -/
def readFraction : List Char → Reading (Option (List Char))
  | '.' :: cs =>
    match readDigits cs with
    | .error e => .error e
    | .ok (ds, cs) => .ok (some ds, cs)
  | cs => .ok (none, cs)

/-- The exponent, if there is one. -/
def readExponent : List Char → Reading (Option (Bool × List Char))
  | [] => .ok (none, [])
  | c :: cs =>
    if c = 'e' ∨ c = 'E' then
      let (negative, cs) := match cs with
        | '-' :: cs => (true, cs)
        | '+' :: cs => (false, cs)
        | cs => (false, cs)
      match readDigits cs with
      | .error e => .error e
      | .ok (ds, cs) => .ok (some (negative, ds), cs)
    else .ok (none, c :: cs)

/-- The number at the head of a text. -/
def readNumberText (cs : List Char) : Reading NumberText :=
  let (negative, cs) := match cs with
    | '-' :: cs => (true, cs)
    | cs => (false, cs)
  match readWhole cs with
  | .error e => .error e
  | .ok (whole, cs) =>
    match readFraction cs with
    | .error e => .error e
    | .ok (fraction, cs) =>
      match readExponent cs with
      | .error e => .error e
      | .ok (exponent, cs) => .ok (⟨negative, whole, fraction, exponent⟩, cs)

/-- Appends digits to `n` for as long as the result fits 64 bits, and
returns the digits that are left. -/
def appendDigits (n : Nat) : List Char → Nat × List Char
  | [] => (n, [])
  | c :: cs =>
    let n' := n * 10 + Decimal.digitValue c
    if n' < 18446744073709551616 then appendDigits n' cs else (n, c :: cs)

/-- The significand of a number and its decimal exponent.  Digits before
the point that do not fit count into the exponent; behind the point they
are passed over. -/
def NumberText.significand (t : NumberText) : Nat × Int :=
  let (n, left) := appendDigits 0 t.whole
  let fraction := t.fraction.getD []
  let (m, unused) := appendDigits n fraction
  let e : Int := match t.exponent with
    | none => 0
    | some (true, ds) => -(Decimal.ofDigits 0 ds : Int)
    | some (false, ds) => Decimal.ofDigits 0 ds
  (m, (left.length : Int) - (fraction.length - unused.length : Nat) + e)

/-- The integer that a number without point and exponent is, as long as it
is kept as one. -/
def NumberText.whole? (t : NumberText) : Option Number :=
  let n := Decimal.ofDigits 0 t.whole
  if t.fraction = none ∧ t.exponent = none ∧ ¬ (t.negative ∧ n = 0) then
    Number.ofInt? (if t.negative then -(n : Int) else n)
  else none

/-- The value of a number, or none when it is out of range. -/
def NumberText.value? (t : NumberText) : Option Number :=
  match t.whole? with
  | some n => some n
  | none =>
    let (m, e) := t.significand
    match Decimal.scaleByTen m e with
    | none => none
    | some r => (Finite.ofRank? t.negative r).map .real

/-- The value of the number at the head of a text. -/
def readNumber (cs : List Char) : Reading Number :=
  match readNumberText cs with
  | .error e => .error e
  | .ok (t, cs) =>
    match t.value? with
    | none => .error .malformed
    | some n => .ok (n, cs)

end Json

end PushRelay
