import PushRelay.Json.Quoted

/-!
# PushRelay.Proofs.Json.Quoted

A string that was written is read back.

Each character is written by itself (`escaped`), and the reader takes what
was written for it and nothing more (`readStringFrom_escaped`), so the
string is read one character at a time.
-/

namespace PushRelay

namespace Json

/-- A hexadecimal digit has its value. -/
theorem hexValue?_digitChar {d : Nat} (h : d < 16) : hexValue? (Nat.digitChar d) = some d := by
  have hall : ∀ d < 16, hexValue? (Nat.digitChar d) = some d := by decide
  exact hall d h

/-- A control below U+0020 is written as its two last hexadecimal digits
behind two zeros. -/
theorem readStringFrom_control {c : Char} (hc : c.toNat < 0x20) (acc rest : List Char) :
    readStringFrom .plain acc
        ('\\' :: 'u' :: '0' :: '0' :: Nat.digitChar (c.toNat / 16) ::
          Nat.digitChar (c.toNat % 16) :: rest) =
      readStringFrom .plain (c :: acc) rest := by
  have hhigh : hexValue? (Nat.digitChar (c.toNat / 16)) = some (c.toNat / 16) :=
    hexValue?_digitChar (by omega)
  have hlow : hexValue? (Nat.digitChar (c.toNat % 16)) = some (c.toNat % 16) :=
    hexValue?_digitChar (by omega)
  have hzero : hexValue? '0' = some 0 := by decide
  have hvalue : (0 * 16 + c.toNat / 16) * 16 + c.toNat % 16 = c.toNat := by omega
  have hunit : joinUnit none c.toNat = .char c := by
    have hnotLow : (0xDC00 ≤ c.toNat && c.toNat ≤ 0xDFFF) = false := by
      rw [Bool.and_eq_false_iff, decide_eq_false_iff_not]
      omega
    have hnotHigh : ¬ (0xD800 ≤ c.toNat ∧ c.toNat ≤ 0xDBFF) := by omega
    simp only [joinUnit, hnotLow, Bool.false_eq_true, if_false, if_neg hnotHigh, Char.ofNat_toNat]
  simp only [readStringFrom, Char.reduceEq, if_false, if_true, hzero, hhigh, hlow,
    Nat.zero_mul, Nat.zero_add, Nat.add_zero]
  rw [Nat.zero_mul, Nat.zero_add] at hvalue
  rw [hvalue, hunit]

/-- The reader takes what was written for a character and nothing more. -/
theorem readStringFrom_escaped (c : Char) (acc rest : List Char) :
    readStringFrom .plain acc (escaped c ++ rest) = readStringFrom .plain (c :: acc) rest := by
  unfold escaped
  split
  · next h => subst h; rfl
  split
  · next h => subst h; rfl
  split
  · next h => subst h; rfl
  split
  · next h => subst h; rfl
  split
  · next h => subst h; rfl
  split
  · next h => subst h; rfl
  split
  · next h => subst h; rfl
  split
  · next hcontrol => exact readStringFrom_control hcontrol acc rest
  · next hquote hslash _ _ _ _ _ hcontrol =>
    rw [List.cons_append, List.nil_append, readStringFrom, if_neg hquote, if_neg hslash,
      if_neg hcontrol]

/-- Escaped characters are read back, up to the quotation mark. -/
theorem readStringFrom_flatMap_escaped (cs acc rest : List Char) :
    readStringFrom .plain acc (cs.flatMap escaped ++ '"' :: rest) =
      .ok (String.ofList (acc.reverse ++ cs), rest) := by
  induction cs generalizing acc with
  | nil => simp [readStringFrom]
  | cons c cs ih =>
    rw [List.flatMap_cons, List.append_assoc, readStringFrom_escaped, ih, List.reverse_cons,
      List.append_assoc, List.singleton_append]

/-- A string that was written is read back, whatever follows on it. -/
theorem readString_append (s : String) (rest : List Char) :
    readString (s.toList.flatMap escaped ++ '"' :: rest) = .ok (s, rest) := by
  rw [readString, readStringFrom_flatMap_escaped, List.reverse_nil, List.nil_append,
    String.ofList_toList]

end Json

end PushRelay
