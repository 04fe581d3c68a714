/-!
# PushRelay.Text.Basic

Sets of characters, written as closed ranges of code points.  The tables of
this folder are such sets; they state the properties of Unicode 17.0.

The first of them is white space as Unicode has it (the property
White_Space: 25 characters), with trimming by it.  This is the white space
around the words of a command line; the blanks between the tokens of a JSON
text are fewer and are defined with its reader.
-/

namespace PushRelay

/-- A set of characters: closed ranges of code points, ascending and apart. -/
abbrev CharSet := List (Nat × Nat)

/-- Whether a character lies in one of the ranges. -/
def CharSet.has (s : CharSet) (c : Char) : Bool :=
  s.any fun r => r.1 ≤ c.toNat && c.toNat ≤ r.2

namespace Text

/-- The characters with the property White_Space. -/
def blanks : CharSet :=
  [(0x9, 0xD), (0x20, 0x20), (0x85, 0x85), (0xA0, 0xA0), (0x1680, 0x1680), (0x2000, 0x200A),
   (0x2028, 0x2029), (0x202F, 0x202F), (0x205F, 0x205F), (0x3000, 0x3000)]

def isBlank (c : Char) : Bool := blanks.has c

/-- Drops the white space at both ends. -/
def trim (cs : List Char) : List Char :=
  ((cs.dropWhile isBlank).reverse.dropWhile isBlank).reverse

/-- The part before the first U+0020 and the part after it. -/
def splitAtSpace : List Char → Option (List Char × List Char)
  | [] => none
  | c :: cs =>
    if c = ' ' then some ([], cs)
    else (splitAtSpace cs).map fun (a, b) => (c :: a, b)

/-! ## Splitting -/

/-- A text is not split if there is no U+0020 in it. -/
theorem splitAtSpace_eq_none_iff {cs : List Char} : splitAtSpace cs = none ↔ ' ' ∉ cs := by
  induction cs with
  | nil => simp [splitAtSpace]
  | cons c cs ih => by_cases h : c = ' ' <;> simp [splitAtSpace, h, ih, Ne.symm]

/-- A text is split at its first U+0020, which is in neither part. -/
theorem splitAtSpace_eq_some_iff {cs a b : List Char} :
    splitAtSpace cs = some (a, b) ↔ cs = a ++ ' ' :: b ∧ ' ' ∉ a := by
  induction cs generalizing a with
  | nil => simp [splitAtSpace]
  | cons c cs ih =>
    by_cases h : c = ' '
    · subst h
      cases a with
      | nil => simp [splitAtSpace, eq_comm]
      | cons d a => simp [splitAtSpace]; intros; simp_all
    · cases a with
      | nil => simp [splitAtSpace, h]
      | cons d a =>
        simp only [splitAtSpace, h, if_false, Option.map_eq_some_iff, Prod.exists,
          Prod.mk.injEq, List.cons.injEq, List.cons_append, List.mem_cons, not_or]
        constructor
        · rintro ⟨a', b', hs, ⟨rfl, rfl⟩, rfl⟩
          obtain ⟨rfl, hn⟩ := ih.1 hs
          exact ⟨⟨rfl, rfl⟩, Ne.symm h, hn⟩
        · rintro ⟨⟨rfl, rfl⟩, -, hn⟩
          exact ⟨a, b, ih.2 ⟨rfl, hn⟩, ⟨rfl, rfl⟩, rfl⟩

end Text

end PushRelay
