import PushRelay.Decimal.Binary64

/-!
# PushRelay.Decimal.Reading

Decimal text read as a binary64 number.  Two readings are in use:

* `Double.ofText?` reads a number that stands alone and gives the nearest
  binary64 number;
* `scaleByTen` is the arithmetic of numbers inside JSON texts: the leading
  digits are rounded to a magnitude, which is then multiplied or divided
  by a rounded power of ten.  It rounds two or three times, so the result
  may be a neighbour of the nearest magnitude.
-/

namespace PushRelay

namespace Decimal

/-- The value of a digit. -/
def digitValue (c : Char) : Nat := c.toNat - '0'.toNat

/-- The value of a list of digits behind the digits of `n`. -/
def ofDigits (n : Nat) (ds : List Char) : Nat :=
  ds.foldl (fun acc c => acc * 10 + digitValue c) n

/-- The rank of `significand * 10 ^ exponent`, or none when it is out of
range.  The significand is rounded first; the power of ten is rounded too,
and the product or quotient of the two once more.  Below `10 ^ -308` the
division is done in two steps, and a significand of 20 digits leaves
nothing of a number below `10 ^ -616`. -/
def scaleByTen (significand : Nat) (exponent : Int) : Option Nat :=
  let r := Binary64.nearest significand 1
  let checked (r : Nat) : Option Nat := if r < Binary64.limit then some r else none
  if 0 ≤ exponent then
    if r = 0 then some 0
    else if exponent ≤ 308 then checked (Binary64.mul r (Binary64.powerOfTen exponent.toNat))
    else none
  else if -308 ≤ exponent then
    checked (Binary64.div r (Binary64.powerOfTen (-exponent).toNat))
  else if -616 ≤ exponent then
    checked (Binary64.div (Binary64.div r (Binary64.powerOfTen 308))
      (Binary64.powerOfTen (-exponent - 308).toNat))
  else some 0

/-- The rank nearest to `digits * 10 ^ exponent`.  Beyond the exponents of
the format the power of ten is not computed. -/
def nearestDecimal (digits : Nat) (exponent : Int) : Nat :=
  let lead := exponent + (Nat.log2 digits * 30103 / 100000 : Nat)
  if digits = 0 then 0
  else if 310 < lead then Binary64.limit
  else if lead < -330 then 0
  else Binary64.nearest (digits * Nat.pow 10 exponent.toNat) (Nat.pow 10 (-exponent).toNat)

/-- The exponent at the end of a number: none of it is 0. -/
def exponentOfText? : List Char → Option Int
  | [] => some 0
  | c :: cs =>
    if c = 'e' ∨ c = 'E' then
      let (negative, ds) := match cs with
        | '-' :: ds => (true, ds)
        | '+' :: ds => (false, ds)
        | ds => (false, ds)
      if ds ≠ [] ∧ ds.all Char.isDigit then
        some (if negative then -(ofDigits 0 ds : Int) else ofDigits 0 ds)
      else none
    else none

/-- The magnitude of a decimal with an optional point and exponent; it has
a digit on at least one side of the point. -/
def magnitudeOfText? (cs : List Char) : Option Nat :=
  let whole := cs.takeWhile Char.isDigit
  let (fraction, rest) := match cs.dropWhile Char.isDigit with
    | '.' :: cs => (cs.takeWhile Char.isDigit, cs.dropWhile Char.isDigit)
    | cs => ([], cs)
  if whole = [] ∧ fraction = [] then none
  else (exponentOfText? rest).map fun e =>
    nearestDecimal (ofDigits (ofDigits 0 whole) fraction) (e - fraction.length)

end Decimal

/-- Reads a number that stands alone: a decimal, `inf`, `infinity` or `nan`
in any case, with an optional sign. -/
def Double.ofText? (text : String) : Option Double :=
  let (negative, cs) := match text.toList with
    | '-' :: cs => (true, cs)
    | '+' :: cs => (false, cs)
    | cs => (false, cs)
  let word := String.ofList (cs.map Char.toLower)
  if word = "inf" ∨ word = "infinity" then some (.infinite negative)
  else if word = "nan" then some .nan
  else (Decimal.magnitudeOfText? cs).map (Double.ofRank negative)

end PushRelay
