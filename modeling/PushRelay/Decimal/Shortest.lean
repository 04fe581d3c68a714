import PushRelay.Decimal.Binary64

/-!
# PushRelay.Decimal.Shortest

The shortest decimal that reads back as a given binary64 magnitude, and of
those the nearest.

The reals that round to a magnitude form an interval from halfway to the
neighbour below to halfway to the neighbour above, ends included when the
mantissa is even.  For 1, 2, … 17 digits `shortest` tries the two
neighbours of the value on the decimal grid of that many digits; the first
grid with a point in the interval wins, and of two points the nearer.
Where both are equally near, `Tie` decides.  All comparisons are exact.
-/

namespace PushRelay

namespace Decimal

/-- Which of two equally near decimals is taken: the one with the even last
digit, or the one farther from zero. -/
inductive Tie where
  | even
  | away
deriving DecidableEq

/-- The number `digits * 10 ^ exponent`. -/
structure Scaled where
  digits : Nat
  exponent : Int
deriving DecidableEq, Repr

/-- Moves the trailing zeros of the digits into the exponent. -/
def Scaled.strip : (fuel : Nat) → Scaled → Scaled
  | 0, d => d
  | fuel + 1, d =>
    if d.digits ≠ 0 ∧ d.digits % 10 = 0 then strip fuel ⟨d.digits / 10, d.exponent + 1⟩ else d

/-- The number of digits before the point of `num / den`: the least `k`
with `num / den < 10 ^ k`, from an estimate by the binary logarithm. -/
def digitsBeforePoint (num den : Nat) : Int :=
  let guess := (Binary64.log2Quotient num den * 30103).fdiv 100000
  let below (k : Int) : Bool := num * Nat.pow 10 (-k).toNat < den * Nat.pow 10 k.toNat
  if below (guess - 1) then guess - 1
  else if below guess then guess
  else if below (guess + 1) then guess + 1
  else guess + 2

/-- The interval of the reals that round to a magnitude, and the magnitude
itself, over one common denominator. -/
structure Interval where
  low : Nat
  value : Nat
  high : Nat
  den : Nat
  closed : Bool

/-- Whether `n / den` lies in the interval. -/
def Interval.has (i : Interval) (n : Nat) : Bool :=
  (i.low < n && n < i.high) || (i.closed && (n == i.low || n == i.high))

/-- The interval of the magnitude of rank `r`, in units of `10 ^ unit`.
Below a power of two the gap is half as wide as above it. -/
def intervalOf (r : Nat) (unit : Int) : Interval :=
  let m := Binary64.mantissa r
  let e := Binary64.scale r - 2
  let up (n : Nat) : Nat := n * Nat.pow 2 e.toNat * Nat.pow 10 (-unit).toNat
  { low := up (if r % Binary64.binade = 0 ∧ 2 * Binary64.binade ≤ r then 4 * m - 1 else 4 * m - 2)
    value := up (4 * m)
    high := up (4 * m + 2)
    den := Nat.pow 2 (-e).toNat * Nat.pow 10 unit.toNat
    closed := m % 2 = 0 }

/-- The neighbour of the value on the grid of step `step * den` that lies in
the interval, if one does; of two the nearer. -/
def Interval.onGrid? (i : Interval) (tie : Tie) (step : Nat) : Option Nat :=
  let s := step * i.den
  let d := i.value / s
  match i.has (d * s), i.has ((d + 1) * s) with
  | false, false => none
  | true, false => some d
  | false, true => some (d + 1)
  | true, true =>
    if 2 * i.value < (2 * d + 1) * s then some d
    else if (2 * d + 1) * s < 2 * i.value then some (d + 1)
    else match tie with
      | .even => some (if d % 2 = 0 then d else d + 1)
      | .away => some (d + 1)

/-- The exact decimal of a magnitude. -/
def exact (r : Nat) : Scaled :=
  let m := Binary64.mantissa r
  let q := Binary64.scale r
  ⟨m * Nat.pow 2 q.toNat * Nat.pow 5 (-q).toNat, min q 0⟩

/-- The shortest decimal that reads back as the magnitude of rank `r`. -/
def shortest (tie : Tie) (r : Nat) : Scaled :=
  if r = 0 then ⟨0, 0⟩
  else
    let m := Binary64.mantissa r
    let q := Binary64.scale r
    let unit := digitsBeforePoint (m * Nat.pow 2 q.toNat) (Nat.pow 2 (-q).toNat) - 17
    let i := intervalOf r unit
    let hit := (List.range 17).findSome? fun k =>
      (i.onGrid? tie (Nat.pow 10 (16 - k))).map fun d => (⟨d, unit + (16 - k : Nat)⟩ : Scaled)
    Scaled.strip 20 (hit.getD (exact r))

end Decimal

end PushRelay
