/-!
# PushRelay.Decimal.Binary64

The numbers of the binary64 format, on naturals only.

1. A magnitude is given by its *rank*: its place among the magnitudes of
   the format in ascending order, 0 for zero and 1 for the least positive
   one.  The rank is the bit pattern without the sign, so a larger
   magnitude has a larger rank, and neighbours have neighbouring ranks.
2. Every operation computes its exact result as a quotient of naturals and
   rounds it once, to the nearest magnitude, a tie to the even rank
   (`nearest`).  A result at or above `limit` is out of range.
3. A `Double` is a finite number with its sign, an infinity, or the one
   value that is no number.
-/

namespace PushRelay

namespace Binary64

/-! ## Ranks -/

/-- The number of ranks from one power of two to the next, `2 ^ 52`. -/
abbrev binade : Nat := 4503599627370496

/-- The rank behind the largest finite magnitude. -/
def limit : Nat := 2047 * binade

/-- The magnitude of rank `r` is `mantissa r * 2 ^ scale r`. -/
def mantissa (r : Nat) : Nat := if r < binade then r else binade + r % binade

/-- The magnitude of rank `r` is `mantissa r * 2 ^ scale r`. -/
def scale (r : Nat) : Int := (max (r / binade) 1 : Nat) - 1075

/-! ## Rounding -/

/-- The natural nearest to `num / den`, a tie to the even one. -/
def roundQuotient (num den : Nat) : Nat :=
  let q := num / den
  let r := num % den
  if 2 * r < den then q
  else if den < 2 * r then q + 1
  else if q % 2 = 0 then q else q + 1

/-- The exponent of the highest power of two that is at most `num / den`. -/
def log2Quotient (num den : Nat) : Int :=
  let d : Int := num.log2 - den.log2
  if den * Nat.pow 2 d.toNat ≤ num * Nat.pow 2 (-d).toNat then d else d - 1

/-- The rank nearest to `num / den`. -/
def nearest (num den : Nat) : Nat :=
  if num = 0 then 0
  else
    let q := max (log2Quotient num den - 52) (-1074)
    (q + 1074).toNat * binade
      + roundQuotient (num * Nat.pow 2 (-q).toNat) (den * Nat.pow 2 q.toNat)

/-- The rank nearest to `num / den * 2 ^ e`. -/
def nearestScaled (num den : Nat) (e : Int) : Nat :=
  nearest (num * Nat.pow 2 e.toNat) (den * Nat.pow 2 (-e).toNat)

/-! ## Arithmetic -/

/-- The rounded product of two magnitudes. -/
def mul (a b : Nat) : Nat := nearestScaled (mantissa a * mantissa b) 1 (scale a + scale b)

/-- The rounded quotient of two magnitudes. -/
def div (a b : Nat) : Nat := nearestScaled (mantissa a) (mantissa b) (scale a - scale b)

/-- The rounded power of ten. -/
def powerOfTen (k : Nat) : Nat := nearest (Nat.pow 10 k) 1

end Binary64

/-! ## Signed numbers -/

/-- A finite binary64 number: its sign and the rank of its magnitude. -/
structure Finite where
  negative : Bool
  rank : Nat
  rank_lt : rank < Binary64.limit
deriving DecidableEq

/-- A binary64 number. -/
inductive Double where
  | finite (x : Finite)
  | infinite (negative : Bool)
  | nan
deriving DecidableEq

namespace Finite

/-- The number with this sign and rank, if the rank is that of a finite
magnitude. -/
def ofRank? (negative : Bool) (rank : Nat) : Option Finite :=
  if h : rank < Binary64.limit then some ⟨negative, rank, h⟩ else none

/-- Numerical equality: the two zeros are the same number. -/
def Same (x y : Finite) : Prop := x = y ∨ x.rank = 0 ∧ y.rank = 0

instance (x y : Finite) : Decidable (x.Same y) := inferInstanceAs (Decidable (_ ∨ _))

theorem Same.refl (x : Finite) : x.Same x := .inl rfl

theorem Same.symm {x y : Finite} (h : x.Same y) : y.Same x :=
  h.imp Eq.symm And.symm

/-- Sameness is transitive: between different numbers it holds of zeros
alone. -/
theorem Same.trans {x y z : Finite} (h : x.Same y) (h' : y.Same z) : x.Same z := by
  rcases h with rfl | ⟨hx, hy⟩
  · exact h'
  · rcases h' with rfl | ⟨-, hz⟩
    · exact .inr ⟨hx, hy⟩
    · exact .inr ⟨hx, hz⟩

end Finite

namespace Double

/-- The number with this sign and rank; out of range it is an infinity. -/
def ofRank (negative : Bool) (rank : Nat) : Double :=
  match Finite.ofRank? negative rank with
  | some x => .finite x
  | none => .infinite negative

/-- The number nearest to an integer. -/
def ofInt (n : Int) : Double := ofRank (n < 0) (Binary64.nearest n.natAbs 1)

/-- Numerical equality: the two zeros are equal, and the value that is no
number equals nothing. -/
def Same : Double → Double → Prop
  | .finite x, .finite y => x.Same y
  | .infinite a, .infinite b => a = b
  | _, _ => False

instance : (x y : Double) → Decidable (x.Same y)
  | .finite x, .finite y => inferInstanceAs (Decidable (x.Same y))
  | .infinite a, .infinite b => inferInstanceAs (Decidable (a = b))
  | .finite _, .infinite _ => .isFalse id
  | .finite _, .nan => .isFalse id
  | .infinite _, .finite _ => .isFalse id
  | .infinite _, .nan => .isFalse id
  | .nan, .finite _ => .isFalse id
  | .nan, .infinite _ => .isFalse id
  | .nan, .nan => .isFalse id

/-- Only what is no number is not the same as itself. -/
theorem same_self_iff {x : Double} : x.Same x ↔ x ≠ .nan := by
  cases x with
  | finite x => simp [Same, Finite.Same.refl]
  | infinite a => simp [Same]
  | nan => simp [Same]

theorem Same.symm {x y : Double} (h : x.Same y) : y.Same x := by
  cases x <;> cases y <;> simp_all [Same]
  exact Finite.Same.symm h

theorem Same.trans {x y z : Double} (h : x.Same y) (h' : y.Same z) : x.Same z := by
  cases x <;> cases y <;> cases z <;> simp_all [Same]
  exact Finite.Same.trans h h'

end Double

end PushRelay
