import Mathlib.Data.List.TakeWhile
import PushRelay.Json.Number

/-!
# PushRelay.Proofs.Json.Number

Numbers of JSON texts, written and read.

1. The reader of a number takes all that can belong to it.  So what it
   reads does not change by what follows, as long as that cannot go on with
   the number (`readNumber_append`), and it leaves an end of the text
   (`readNumber_suffix`).
2. A whole number is read back as it was written (`readNumber_whole`).
3. Of a binary64 number it is known that its text has none but the
   characters of numbers (`isNumberChar_of_mem_chars`).
-/

namespace PushRelay

namespace Json

/-- A text that cannot go on with a number that stands before it. -/
def NumberEnds (cs : List Char) : Prop :=
  ∀ c, cs.head? = some c → c.isDigit = false ∧ c ≠ '.' ∧ c ≠ 'e' ∧ c ≠ 'E'

theorem numberEnds_nil : NumberEnds [] := by
  intro c hc
  contradiction

/-- A number ends before a character that cannot go on with it. -/
theorem numberEnds_cons {c : Char} {cs : List Char} :
    NumberEnds (c :: cs) ↔ c.isDigit = false ∧ c ≠ '.' ∧ c ≠ 'e' ∧ c ≠ 'E' := by
  simp [NumberEnds]

/-! ## What follows on a number -/

section Following

variable {cs rest more : List Char}

/-- What follows a number adds no digit to it. -/
theorem takeWhile_isDigit_append (cs : List Char) (hmore : NumberEnds more) :
    (cs ++ more).takeWhile Char.isDigit = cs.takeWhile Char.isDigit := by
  induction cs with
  | nil =>
    cases more with
    | nil => rfl
    | cons c more => simp [(numberEnds_cons.mp hmore).1]
  | cons c cs ih => simp only [List.cons_append, List.takeWhile_cons, ih]

/-- What follows a number stays behind its digits. -/
theorem dropWhile_isDigit_append (cs : List Char) (hmore : NumberEnds more) :
    (cs ++ more).dropWhile Char.isDigit = cs.dropWhile Char.isDigit ++ more := by
  induction cs with
  | nil =>
    cases more with
    | nil => rfl
    | cons c more => simp [(numberEnds_cons.mp hmore).1]
  | cons c cs ih =>
    simp only [List.cons_append, List.dropWhile_cons, ih]
    split <;> rfl

/-- Digits are read the same if the number ends after them. -/
theorem readDigits_append {ds : List Char} (hmore : NumberEnds more)
    (h : readDigits cs = .ok (ds, rest)) : readDigits (cs ++ more) = .ok (ds, rest ++ more) := by
  cases cs with
  | nil => contradiction
  | cons c cs =>
    simp only [readDigits] at h
    split at h
    · next hc =>
      cases h
      rw [List.cons_append, readDigits, if_pos hc, ← List.cons_append,
        takeWhile_isDigit_append _ hmore, dropWhile_isDigit_append _ hmore]
    · contradiction

/-- So is the whole part. -/
theorem readWhole_append {ds : List Char} (hmore : NumberEnds more)
    (h : readWhole cs = .ok (ds, rest)) : readWhole (cs ++ more) = .ok (ds, rest ++ more) := by
  cases cs with
  | nil => contradiction
  | cons c cs =>
    by_cases hzero : c = '0'
    · subst hzero
      cases cs with
      | nil =>
        cases h
        cases more with
        | nil => rfl
        | cons d more => simp [readWhole, (numberEnds_cons.mp hmore).1]
      | cons d cs =>
        simp only [readWhole, if_true] at h
        split at h
        · contradiction
        · next hd =>
          cases h
          simp only [List.cons_append, readWhole, if_true, if_neg hd]
    · simp only [readWhole, if_neg hzero] at h
      split at h
      · next hc =>
        cases h
        simp only [List.cons_append, readWhole, if_neg hzero, if_pos hc,
          takeWhile_isDigit_append _ hmore, dropWhile_isDigit_append _ hmore]
      · contradiction

/-- So is the fraction. -/
theorem readFraction_append {ds : Option (List Char)} (hmore : NumberEnds more)
    (h : readFraction cs = .ok (ds, rest)) :
    readFraction (cs ++ more) = .ok (ds, rest ++ more) := by
  cases cs with
  | nil =>
    cases h
    cases more with
    | nil => rfl
    | cons c more =>
      have hpoint : c ≠ '.' := (numberEnds_cons.mp hmore).2.1
      simp [readFraction, hpoint]
  | cons c cs =>
    by_cases hpoint : c = '.'
    · subst hpoint
      simp only [readFraction] at h
      cases hd : readDigits cs with
      | error e => rw [hd] at h; contradiction
      | ok r =>
        rw [hd] at h
        cases h
        simp only [List.cons_append, readFraction, readDigits_append hmore hd]
    · have hnone : readFraction (c :: cs) = .ok (none, c :: cs) := by simp [readFraction, hpoint]
      rw [hnone] at h
      cases h
      simp [readFraction, hpoint]

/-- Whether an exponent is negative, and its text without the sign. -/
def exponentSign : List Char → Bool × List Char
  | '-' :: cs => (true, cs)
  | '+' :: cs => (false, cs)
  | cs => (false, cs)

/-- Only a sign is taken for one. -/
theorem exponentSign_of_ne {d : Char} (hminus : d ≠ '-') (hplus : d ≠ '+') (cs : List Char) :
    exponentSign (d :: cs) = (false, d :: cs) := by
  unfold exponentSign
  split
  · next h => exact absurd (List.cons.inj h).1 hminus
  · next h => exact absurd (List.cons.inj h).1 hplus
  · rfl

/-- The sign of an exponent does not depend on what follows. -/
theorem exponentSign_append (d : Char) (cs more : List Char) :
    exponentSign (d :: cs ++ more) =
      ((exponentSign (d :: cs)).1, (exponentSign (d :: cs)).2 ++ more) := by
  by_cases hminus : d = '-'
  · subst hminus
    rfl
  · by_cases hplus : d = '+'
    · subst hplus
      rfl
    · rw [List.cons_append, exponentSign_of_ne hminus hplus, exponentSign_of_ne hminus hplus]
      rfl

/-- After its mark an exponent has a sign, perhaps, and digits. -/
theorem readExponent_mark {c : Char} (hc : c = 'e' ∨ c = 'E') (cs : List Char) :
    readExponent (c :: cs) = match readDigits (exponentSign cs).2 with
      | .error e => .error e
      | .ok (ds, rest) => .ok (some ((exponentSign cs).1, ds), rest) := by
  simp only [readExponent, if_pos hc]
  rfl

/-- An exponent is read the same if the number ends after it. -/
theorem readExponent_append {ds : Option (Bool × List Char)} (hmore : NumberEnds more)
    (h : readExponent cs = .ok (ds, rest)) :
    readExponent (cs ++ more) = .ok (ds, rest ++ more) := by
  cases cs with
  | nil =>
    cases h
    cases more with
    | nil => rfl
    | cons c more =>
      obtain ⟨-, -, hlower, hupper⟩ := numberEnds_cons.mp hmore
      simp [readExponent, hlower, hupper]
  | cons c cs =>
    by_cases hc : c = 'e' ∨ c = 'E'
    · rw [readExponent_mark hc] at h
      rw [List.cons_append, readExponent_mark hc]
      cases cs with
      | nil => contradiction
      | cons d cs =>
        rw [exponentSign_append]
        cases hd : readDigits (exponentSign (d :: cs)).2 with
        | error e =>
          rw [hd] at h
          contradiction
        | ok r =>
          rw [hd] at h
          cases h
          simp only [readDigits_append hmore hd]
    · simp only [readExponent, if_neg hc] at h
      cases h
      simp only [List.cons_append, readExponent, if_neg hc]

/-! ### The parts of a number -/

/-- Whether a number is negative, and its text without the sign. -/
def numberSign : List Char → Bool × List Char
  | '-' :: cs => (true, cs)
  | cs => (false, cs)

/-- Only a minus is the sign of a number. -/
theorem numberSign_of_ne {c : Char} (hminus : c ≠ '-') (cs : List Char) :
    numberSign (c :: cs) = (false, c :: cs) := by
  unfold numberSign
  split
  · next h => exact absurd (List.cons.inj h).1 hminus
  · rfl

/-- The sign of a number does not depend on what follows. -/
theorem numberSign_append (c : Char) (cs more : List Char) :
    numberSign (c :: cs ++ more) =
      ((numberSign (c :: cs)).1, (numberSign (c :: cs)).2 ++ more) := by
  by_cases hminus : c = '-'
  · subst hminus
    rfl
  · rw [List.cons_append, numberSign_of_ne hminus, numberSign_of_ne hminus]
    rfl

/-- A number is a sign, a whole part, a fraction and an exponent. -/
theorem readNumberText_eq (cs : List Char) :
    readNumberText cs = match readWhole (numberSign cs).2 with
      | .error e => .error e
      | .ok (whole, cs₁) =>
        match readFraction cs₁ with
        | .error e => .error e
        | .ok (fraction, cs₂) =>
          match readExponent cs₂ with
          | .error e => .error e
          | .ok (exponent, rest) =>
            .ok (⟨(numberSign cs).1, whole, fraction, exponent⟩, rest) :=
  rfl

/-- A number is read if its parts are, one after the other. -/
theorem readNumberText_eq_ok_iff {t : NumberText} :
    readNumberText cs = .ok (t, rest) ↔
      ∃ whole cs₁ fraction cs₂ exponent, readWhole (numberSign cs).2 = .ok (whole, cs₁) ∧
        readFraction cs₁ = .ok (fraction, cs₂) ∧ readExponent cs₂ = .ok (exponent, rest) ∧
        t = ⟨(numberSign cs).1, whole, fraction, exponent⟩ := by
  rw [readNumberText_eq]
  constructor
  · intro h
    split at h
    · contradiction
    · next whole cs₁ hwhole =>
      split at h
      · contradiction
      · next fraction cs₂ hfraction =>
        split at h
        · contradiction
        · next exponent rest hexponent =>
          cases h
          exact ⟨whole, cs₁, fraction, cs₂, exponent, hwhole, hfraction, hexponent, rfl⟩
  · intro h
    obtain ⟨whole, cs₁, fraction, cs₂, exponent, hwhole, hfraction, hexponent, ht⟩ := h
    simp only [hwhole, hfraction, hexponent, ht]

/-- A number is read the same in front of anything that ends it. -/
theorem readNumberText_append {t : NumberText} (hmore : NumberEnds more)
    (h : readNumberText cs = .ok (t, rest)) :
    readNumberText (cs ++ more) = .ok (t, rest ++ more) := by
  obtain ⟨whole, cs₁, fraction, cs₂, exponent, hwhole, hfraction, hexponent, ht⟩ :=
    readNumberText_eq_ok_iff.mp h
  cases cs with
  | nil => contradiction
  | cons c cs =>
    rw [readNumberText_eq_ok_iff, numberSign_append]
    exact ⟨whole, cs₁ ++ more, fraction, cs₂ ++ more, exponent, readWhole_append hmore hwhole,
      readFraction_append hmore hfraction, readExponent_append hmore hexponent, ht⟩

/-- A number is what its text amounts to, if that is not too large. -/
theorem readNumber_eq_ok_iff {n : Number} :
    readNumber cs = .ok (n, rest) ↔
      ∃ t, readNumberText cs = .ok (t, rest) ∧ t.value? = some n := by
  unfold readNumber
  constructor
  · intro h
    split at h
    · contradiction
    · next t rest' ht =>
      split at h
      · contradiction
      · next m hm =>
        cases h
        exact ⟨t, ht, hm⟩
  · intro h
    obtain ⟨t, ht, hn⟩ := h
    simp only [ht, hn]

/-- What a number is does not change by what follows. -/
theorem readNumber_append {n : Number} (hmore : NumberEnds more)
    (h : readNumber cs = .ok (n, rest)) : readNumber (cs ++ more) = .ok (n, rest ++ more) := by
  obtain ⟨t, ht, hn⟩ := readNumber_eq_ok_iff.mp h
  exact readNumber_eq_ok_iff.mpr ⟨t, readNumberText_append hmore ht, hn⟩

/-! ### The rest behind a number -/

/-- Digits are read from the front. -/
theorem readDigits_suffix {ds : List Char} (h : readDigits cs = .ok (ds, rest)) :
    rest <:+ cs := by
  unfold readDigits at h
  split at h
  · contradiction
  · split at h
    · cases h
      exact List.dropWhile_suffix _
    · contradiction

/-- A whole part takes a character at least. -/
theorem readWhole_cons_suffix {c : Char} {ds : List Char}
    (h : readWhole (c :: cs) = .ok (ds, rest)) : rest <:+ cs := by
  simp only [readWhole] at h
  split at h
  · split at h
    · split at h
      · contradiction
      · cases h
        exact List.suffix_rfl
    · cases h
      exact List.suffix_rfl
  · split at h
    · cases h
      exact List.dropWhile_suffix _
    · contradiction

theorem readWhole_suffix {ds : List Char} (h : readWhole cs = .ok (ds, rest)) : rest <:+ cs := by
  cases cs with
  | nil => contradiction
  | cons c cs => exact (readWhole_cons_suffix h).trans (List.suffix_cons c cs)

/-- A fraction is read from the front. -/
theorem readFraction_suffix {ds : Option (List Char)} (h : readFraction cs = .ok (ds, rest)) :
    rest <:+ cs := by
  unfold readFraction at h
  split at h
  · next cs =>
    cases hd : readDigits cs with
    | error e =>
      rw [hd] at h
      contradiction
    | ok r =>
      rw [hd] at h
      cases h
      exact (readDigits_suffix hd).trans (List.suffix_cons '.' cs)
  · cases h
    exact List.suffix_rfl

theorem exponentSign_suffix (cs : List Char) : (exponentSign cs).2 <:+ cs := by
  unfold exponentSign
  split
  · exact List.suffix_cons '-' _
  · exact List.suffix_cons '+' _
  · exact List.suffix_rfl

/-- An exponent is read from the front. -/
theorem readExponent_suffix {ds : Option (Bool × List Char)}
    (h : readExponent cs = .ok (ds, rest)) : rest <:+ cs := by
  cases cs with
  | nil =>
    cases h
    exact List.suffix_rfl
  | cons c cs =>
    by_cases hc : c = 'e' ∨ c = 'E'
    · rw [readExponent_mark hc] at h
      cases hd : readDigits (exponentSign cs).2 with
      | error e =>
        rw [hd] at h
        contradiction
      | ok r =>
        rw [hd] at h
        cases h
        exact ((readDigits_suffix hd).trans (exponentSign_suffix cs)).trans (List.suffix_cons c cs)
    · simp only [readExponent, if_neg hc] at h
      cases h
      exact List.suffix_rfl

theorem numberSign_suffix (cs : List Char) : (numberSign cs).2 <:+ cs := by
  unfold numberSign
  split
  · exact List.suffix_cons '-' _
  · exact List.suffix_rfl

/-- A whole part is not empty. -/
theorem length_of_readWhole {ds : List Char} (h : readWhole cs = .ok (ds, rest)) :
    rest.length < cs.length := by
  cases cs with
  | nil => contradiction
  | cons c cs => exact Nat.lt_succ_of_le (readWhole_cons_suffix h).length_le

/-- A number has a digit at least. -/
theorem length_of_readNumberText {t : NumberText} (h : readNumberText cs = .ok (t, rest)) :
    rest.length < cs.length := by
  obtain ⟨whole, cs₁, fraction, cs₂, exponent, hwhole, hfraction, hexponent, -⟩ :=
    readNumberText_eq_ok_iff.mp h
  have hbehind : rest <:+ cs₁ :=
    (readExponent_suffix hexponent).trans (readFraction_suffix hfraction)
  calc rest.length ≤ cs₁.length := hbehind.length_le
    _ < (numberSign cs).2.length := length_of_readWhole hwhole
    _ ≤ cs.length := (numberSign_suffix cs).length_le

/-- A number is read from the front. -/
theorem readNumber_suffix {n : Number} (h : readNumber cs = .ok (n, rest)) : rest <:+ cs := by
  obtain ⟨t, ht, -⟩ := readNumber_eq_ok_iff.mp h
  obtain ⟨whole, cs₁, fraction, cs₂, exponent, hwhole, hfraction, hexponent, -⟩ :=
    readNumberText_eq_ok_iff.mp ht
  have hbehind : rest <:+ cs₁ :=
    (readExponent_suffix hexponent).trans (readFraction_suffix hfraction)
  exact hbehind.trans ((readWhole_suffix hwhole).trans (numberSign_suffix cs))

end Following

/-! ## Whole numbers -/

section Whole

/-- The digits of a number amount to it. -/
theorem ofDigits_digitChars (n : Nat) : Decimal.ofDigits 0 (Decimal.digitChars n) = n := by
  have hfold : ∀ (ds : List Char) (m : Nat),
      Decimal.ofDigits m ds = Nat.ofDigitChars 10 ds m := by
    intro ds
    induction ds with
    | nil => intro m; rfl
    | cons d ds ih =>
      intro m
      rw [Nat.ofDigitChars_cons, ← ih, Nat.mul_comm]
      rfl
  rw [hfold, Decimal.digitChars, Nat.ofDigitChars_ten_toDigits]

/-- The first digit is no zero, unless it is the only one. -/
theorem head_digitChars_ne {n : Nat} (hn : 0 < n) {c : Char} {cs : List Char}
    (h : Decimal.digitChars n = c :: cs) : c ≠ '0' := by
  induction n using Nat.strongRecOn generalizing c cs with
  | ind n ih =>
    rw [Decimal.digitChars, Nat.toDigits_eq_if (by decide)] at h
    split at h
    · next hlt =>
      have hc : Nat.digitChar n = c := (List.cons.inj h).1
      rw [← hc, Ne, Nat.digitChar_eq_zero]
      omega
    · next hge =>
      have hpos : 0 < n / 10 := by omega
      have hlt : n / 10 < n := by omega
      cases hd : Decimal.digitChars (n / 10) with
      | nil => exact absurd hd Nat.toDigits_ne_nil
      | cons d ds =>
        rw [← Decimal.digitChars, hd, List.cons_append] at h
        have hc : d = c := (List.cons.inj h).1
        rw [← hc]
        exact ih (n / 10) hlt hpos hd

/-- A number is written with digits. -/
theorem isDigit_of_mem_digitChars {n : Nat} {c : Char} (h : c ∈ Decimal.digitChars n) :
    c.isDigit = true :=
  Nat.isDigit_of_mem_toDigits (by decide) (by decide) h

/-- Written digits are read as a whole part. -/
theorem readWhole_digitChars (n : Nat) :
    readWhole (Decimal.digitChars n) = .ok (Decimal.digitChars n, []) := by
  cases hn : Decimal.digitChars n with
  | nil => exact absurd hn Nat.toDigits_ne_nil
  | cons c cs =>
    have hdigit : ∀ d ∈ c :: cs, d.isDigit = true := by
      intro d hd
      rw [← hn] at hd
      exact isDigit_of_mem_digitChars hd
    obtain ⟨hc, hcs⟩ := List.forall_mem_cons.mp hdigit
    by_cases hzero : c = '0'
    · have hn0 : n = 0 := by
        by_cases hpos : 0 < n
        · exact absurd hzero (head_digitChars_ne hpos hn)
        · omega
      rw [hn0] at hn
      rw [← hn]
      rfl
    · have htake : cs.takeWhile Char.isDigit = cs := List.takeWhile_eq_self_iff.mpr hcs
      have hdrop : cs.dropWhile Char.isDigit = [] := List.dropWhile_eq_nil_iff.mpr hcs
      simp only [readWhole, if_neg hzero, if_pos hc, htake, hdrop]

/-- Written digits are read as a number. -/
theorem readNumberText_digitChars (n : Nat) :
    readNumberText (Decimal.digitChars n) =
      .ok (⟨false, Decimal.digitChars n, none, none⟩, []) := by
  have hsign : numberSign (Decimal.digitChars n) = (false, Decimal.digitChars n) := by
    cases hn : Decimal.digitChars n with
    | nil => rfl
    | cons c cs =>
      have hc : c.isDigit = true := isDigit_of_mem_digitChars (hn ▸ List.mem_cons_self)
      have hminus : c ≠ '-' := by
        intro h
        rw [h] at hc
        contradiction
      exact numberSign_of_ne hminus cs
  rw [readNumberText_eq_ok_iff, hsign]
  exact ⟨_, _, _, _, _, readWhole_digitChars n, rfl, rfl, rfl⟩

/-- So they are after a minus. -/
theorem readNumberText_minus (n : Nat) :
    readNumberText ('-' :: Decimal.digitChars n) =
      .ok (⟨true, Decimal.digitChars n, none, none⟩, []) :=
  readNumberText_eq_ok_iff.mpr ⟨_, _, _, _, _, readWhole_digitChars n, rfl, rfl, rfl⟩

/-- Digits without point and exponent are kept as a whole number. -/
theorem value?_digitChars (negative : Bool) {n : Nat} (hn : negative = true → n ≠ 0) {x : Number}
    (hx : Number.ofInt? (if negative = true then -(n : Int) else n) = some x) :
    NumberText.value? ⟨negative, Decimal.digitChars n, none, none⟩ = some x := by
  have hkept : NumberText.whole? ⟨negative, Decimal.digitChars n, none, none⟩ = some x := by
    have hsign : ¬ (negative = true ∧ n = 0) := fun h => hn h.1 h.2
    simp only [NumberText.whole?, ofDigits_digitChars, hsign, not_false_eq_true, and_self,
      if_true, hx]
  simp only [NumberText.value?, hkept]

/-- A whole number is read back as it was written. -/
theorem readNumber_whole (n : Int)
    (fits : -9223372036854775808 ≤ n ∧ n < 18446744073709551616) :
    readNumber (Number.whole n fits).chars = .ok (.whole n fits, []) := by
  have hkept : Number.ofInt? n = some (.whole n fits) := by rw [Number.ofInt?, dif_pos fits]
  rw [readNumber_eq_ok_iff, Number.chars, Decimal.intChars]
  by_cases hneg : n < 0
  · have habs : -((n.natAbs : Nat) : Int) = n := by omega
    have hne : n.natAbs ≠ 0 := by omega
    rw [if_pos hneg]
    refine ⟨_, readNumberText_minus _, value?_digitChars true (fun _ => hne) ?_⟩
    rw [if_pos rfl, habs, hkept]
  · have habs : ((n.natAbs : Nat) : Int) = n := by omega
    rw [if_neg hneg]
    refine ⟨_, readNumberText_digitChars _, value?_digitChars false (fun h => ?_) ?_⟩
    · contradiction
    · rw [if_neg Bool.false_ne_true, habs, hkept]

end Whole

/-! ## The characters of a number -/

section Characters

open Decimal

/-- A character that may stand in a number as it is written. -/
def IsNumberChar (c : Char) : Prop :=
  c.isDigit = true ∨ c = '.' ∨ c = 'e' ∨ c = '+' ∨ c = '-'

instance (c : Char) : Decidable (IsNumberChar c) :=
  inferInstanceAs (Decidable (c.isDigit = true ∨ c = '.' ∨ c = 'e' ∨ c = '+' ∨ c = '-'))

theorem isNumberChar_of_isDigit {c : Char} (hc : c.isDigit = true) : IsNumberChar c := .inl hc

variable {ds : List Char} {lead : Int} {c : Char}

/-- A point among the characters of a number is one more of them. -/
theorem isNumberChar_placePoint (hds : ∀ d ∈ ds, IsNumberChar d) (hc : c ∈ placePoint ds lead) :
    IsNumberChar c := by
  have hzero : IsNumberChar '0' := .inl rfl
  have hpoint : IsNumberChar '.' := .inr (.inl rfl)
  unfold placePoint at hc
  split at hc
  · simp only [List.cons_append, List.mem_cons, List.mem_append, List.mem_replicate] at hc
    rcases hc with rfl | rfl | ⟨-, rfl⟩ | hc
    · exact hzero
    · exact hpoint
    · exact hzero
    · exact hds c hc
  · dsimp only at hc
    split at hc
    · simp only [List.mem_append, List.mem_replicate] at hc
      rcases hc with hc | ⟨-, rfl⟩
      · exact hds c hc
      · exact hzero
    · simp only [List.mem_append, List.mem_cons] at hc
      rcases hc with hc | rfl | hc
      · exact hds c (List.mem_of_mem_take hc)
      · exact hpoint
      · exact hds c (List.mem_of_mem_drop hc)

/-- So is an exponent after them. -/
theorem isNumberChar_withExponent (hds : ∀ d ∈ ds, IsNumberChar d)
    (hc : c ∈ withExponent ds lead) : IsNumberChar c := by
  unfold withExponent at hc
  simp only [List.mem_append, List.mem_cons] at hc
  rcases hc with hc | rfl | rfl | hc
  · split at hc
    · simp only [List.mem_cons] at hc
      rcases hc with rfl | rfl | hc
      · exact hds _ List.mem_cons_self
      · exact .inr (.inl rfl)
      · exact hds c (List.mem_cons_of_mem _ (List.mem_cons.mpr hc))
    · exact hds c hc
  · exact .inr (.inr (.inl rfl))
  · split
    · exact .inr (.inr (.inr (.inr rfl)))
    · exact .inr (.inr (.inr (.inl rfl)))
  · exact isNumberChar_of_isDigit (isDigit_of_mem_digitChars hc)

/-- A real number is written with the characters of numbers. -/
theorem isNumberChar_magnitude {l : Layout} {r : Nat} (hc : c ∈ l.magnitude r) :
    IsNumberChar c := by
  have hdigits : ∀ d ∈ digitChars (shortest l.tie r).digits, IsNumberChar d :=
    fun d hd => isNumberChar_of_isDigit (isDigit_of_mem_digitChars hd)
  unfold Layout.magnitude at hc
  extract_lets d ds lead isPlain text at hc
  by_cases hplain : isPlain = true
  · rw [if_pos hplain] at hc
    split at hc
    · simp only [List.mem_append, List.mem_cons, List.not_mem_nil, or_false] at hc
      rcases hc with hc | rfl | rfl
      · exact isNumberChar_placePoint hdigits hc
      · exact .inr (.inl rfl)
      · exact isNumberChar_of_isDigit rfl
    · exact isNumberChar_placePoint hdigits hc
  · rw [if_neg hplain] at hc
    exact isNumberChar_withExponent hdigits hc

/-- A binary64 number is written with the characters of numbers. -/
theorem isNumberChar_of_mem_chars {x : Finite} (hc : c ∈ (Number.real x).chars) :
    IsNumberChar c := by
  rw [Number.chars, Layout.render] at hc
  split at hc
  · cases List.mem_cons.mp hc with
    | inl hminus => exact .inr (.inr (.inr (.inr hminus)))
    | inr hc => exact isNumberChar_magnitude hc
  · exact isNumberChar_magnitude hc

end Characters

end Json

end PushRelay
