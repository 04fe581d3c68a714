import PushRelay.Decimal.Shortest

/-!
# PushRelay.Decimal.Layout

How a decimal is written: with a point, or with a power of ten behind it.
`Layout` holds the decisions of one output format, and `Layout.render`
writes a finite number by them.
-/

namespace PushRelay

namespace Decimal

/-- The decimal digits of a natural. -/
def digitChars (n : Nat) : List Char := Nat.toDigits 10 n

/-- The decimal text of an integer. -/
def intChars (n : Int) : List Char :=
  if n < 0 then '-' :: digitChars n.natAbs else digitChars n.natAbs

/-- Digits with the point behind the digit of exponent 0, where `lead` is
the exponent of the first digit.  A whole number has no point. -/
def placePoint (ds : List Char) (lead : Int) : List Char :=
  if lead < 0 then '0' :: '.' :: List.replicate (-lead - 1).toNat '0' ++ ds
  else
    let before := lead.toNat + 1
    if ds.length ≤ before then ds ++ List.replicate (before - ds.length) '0'
    else ds.take before ++ '.' :: ds.drop before

/-- One digit before the point, and the exponent with its sign. -/
def withExponent (ds : List Char) (lead : Int) : List Char :=
  let mantissa := match ds with
    | d :: e :: ds => d :: '.' :: e :: ds
    | ds => ds
  mantissa ++ 'e' :: (if lead < 0 then '-' else '+') :: digitChars lead.natAbs

/-- The decisions of an output format. -/
structure Layout where
  /-- which of two equally near decimals is written -/
  tie : Tie
  /-- whether a whole number ends in a point and a zero -/
  pointZero : Bool
  /-- the exponents of the first digit that are written with a point, all
  of them if there is no bound -/
  plain : Option (Int × Int)

/-- The text of the magnitude of rank `r`. -/
def Layout.magnitude (l : Layout) (r : Nat) : List Char :=
  let d := shortest l.tie r
  let ds := digitChars d.digits
  let lead := d.exponent + (ds.length - 1 : Nat)
  let isPlain := match l.plain with
    | none => true
    | some (low, high) => low ≤ lead && lead ≤ high
  if isPlain then
    let text := placePoint ds lead
    if l.pointZero && !text.contains '.' then text ++ ['.', '0'] else text
  else withExponent ds lead

/-- The text of a finite number; a negative zero keeps its sign. -/
def Layout.render (l : Layout) (x : Finite) : List Char :=
  if x.negative then '-' :: l.magnitude x.rank else l.magnitude x.rank

end Decimal

end PushRelay
