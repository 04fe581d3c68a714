import PushRelay.Proofs.Json.Number
import PushRelay.Proofs.Json.Quoted
import PushRelay.Proofs.Json.Shape

/-!
# PushRelay.Proofs.Json.RoundTrip

A JSON value that was written is read back.

1. A value is *readable* to some depth if it has the shape of what is read
   to that depth (`Shaped`) and its binary64 numbers read back one by one
   (`Finite.ReadsBack`).
2. A readable value is read back from its text, and what follows on it is
   left (`readValue_append`).  The induction is on the depth, which is what
   the reader recurs on; lists of elements are dealt with first, for any
   reader of their elements.
3. The members of the outermost object may stand in any order
   (`parse_object`).
-/

namespace PushRelay

/-- The JSON text of a binary64 number is read back as that number. -/
def Finite.ReadsBack (x : Finite) : Prop :=
  Json.parse (Json.number (.real x)).render = .ok (.number (.real x))

namespace Json

/-! ## Readable values -/

mutual

/-- The binary64 numbers in a value. -/
def reals : Json → List Finite
  | .number (.real x) => [x]
  | .array xs => realsItems xs
  | .object ms => realsMembers ms
  | _ => []
termination_by structural x => x

def realsItems : List Json → List Finite
  | [] => []
  | x :: xs => reals x ++ realsItems xs
termination_by structural xs => xs

def realsMembers : List (String × Json) → List Finite
  | [] => []
  | (_, x) :: ms => reals x ++ realsMembers ms
termination_by structural ms => ms

end

/-- A value whose text is read back by a reader for values of this
depth. -/
structure Readable (depth : Nat) (x : Json) : Prop extends Shaped depth x where
  readsBack : ∀ r ∈ x.reals, r.ReadsBack

/-- The real numbers of an array are those of its items. -/
theorem mem_realsItems {r : Finite} {xs : List Json} :
    r ∈ realsItems xs ↔ ∃ x ∈ xs, r ∈ x.reals := by
  induction xs with
  | nil => simp [realsItems]
  | cons x xs ih => simp [realsItems, ih]

/-- The real numbers of an object are those of its values. -/
theorem mem_realsMembers {r : Finite} {ms : List (String × Json)} :
    r ∈ realsMembers ms ↔ ∃ m ∈ ms, r ∈ m.2.reals := by
  induction ms with
  | nil => simp [realsMembers]
  | cons m ms ih => simp [realsMembers, ih]

/-- An array can be read back if its items can, one level further in. -/
theorem readable_array_iff {depth : Nat} {xs : List Json} :
    Readable (depth + 1) (.array xs) ↔ ∀ x ∈ xs, Readable depth x := by
  constructor
  · intro h x hx
    exact ⟨shaped_array_iff.mp h.toShaped x hx,
      fun r hr => h.readsBack r (mem_realsItems.mpr ⟨x, hx, hr⟩)⟩
  · intro h
    refine ⟨shaped_array_iff.mpr fun x hx => (h x hx).toShaped, ?_⟩
    intro r hr
    obtain ⟨x, hx, hr⟩ := mem_realsItems.mp hr
    exact (h x hx).readsBack r hr

/-- An object can be read back if its values can, and its names ascend. -/
theorem readable_object_iff {depth : Nat} {ms : List (String × Json)} :
    Readable (depth + 1) (.object ms) ↔
      Entries.Ascending ms ∧ ∀ m ∈ ms, Readable depth m.2 := by
  constructor
  · intro h
    obtain ⟨hascending, hms⟩ := shaped_object_iff.mp h.toShaped
    exact ⟨hascending, fun m hm =>
      ⟨hms m hm, fun r hr => h.readsBack r (mem_realsMembers.mpr ⟨m, hm, hr⟩)⟩⟩
  · intro h
    obtain ⟨hascending, hms⟩ := h
    refine ⟨shaped_object_iff.mpr ⟨hascending, fun m hm => (hms m hm).toShaped⟩, ?_⟩
    intro r hr
    obtain ⟨m, hm, hr⟩ := mem_realsMembers.mp hr
    exact (hms m hm).readsBack r hr

/-! ## Blanks -/

/-- A character that is no blank is not skipped. -/
theorem skipBlanks_cons {c : Char} (hc : isBlank c = false) (cs : List Char) :
    skipBlanks (c :: cs) = c :: cs := by
  rw [skipBlanks, List.dropWhile_cons, hc, if_neg Bool.false_ne_true]

/-- JSON has four blanks. -/
theorem isBlank_eq_false_iff {c : Char} :
    isBlank c = false ↔ c ≠ ' ' ∧ c ≠ '\n' ∧ c ≠ '\t' ∧ c ≠ '\r' := by
  simp [isBlank, and_assoc]

theorem ne_of_isDigit {c d : Char} (hc : c.isDigit = true) (hd : d.isDigit = false) : c ≠ d := by
  rintro rfl
  rw [hd] at hc
  contradiction

/-- A digit is no blank. -/
theorem isBlank_of_isDigit {c : Char} (hc : c.isDigit = true) : isBlank c = false :=
  isBlank_eq_false_iff.mpr
    ⟨ne_of_isDigit hc rfl, ne_of_isDigit hc rfl, ne_of_isDigit hc rfl, ne_of_isDigit hc rfl⟩

/-! ## How values begin -/

/-- A character that a value may begin with. -/
def BeginsValue (c : Char) : Prop := isBlank c = false ∧ c ≠ ']'

/-- A character that a value without parts may begin with. -/
def BeginsAtom (c : Char) : Prop := BeginsValue c ∧ c ≠ '[' ∧ c ≠ '\x7b'

instance (c : Char) : Decidable (BeginsValue c) :=
  inferInstanceAs (Decidable (isBlank c = false ∧ c ≠ ']'))

instance (c : Char) : Decidable (BeginsAtom c) :=
  inferInstanceAs (Decidable (BeginsValue c ∧ c ≠ '[' ∧ c ≠ '\x7b'))

/-- A number begins an atom. -/
theorem beginsAtom_of_number {c : Char} (hc : c = '-' ∨ c.isDigit = true) : BeginsAtom c := by
  rcases hc with rfl | hc
  · decide
  · exact ⟨⟨isBlank_of_isDigit hc, ne_of_isDigit hc rfl⟩, ne_of_isDigit hc rfl,
      ne_of_isDigit hc rfl⟩

theorem beginsAtom_of_isNumberChar {c : Char} (hc : IsNumberChar c) : BeginsAtom c := by
  rcases hc with hc | rfl | rfl | rfl | rfl
  · exact beginsAtom_of_number (.inr hc)
  all_goals decide

/-- What begins as an atom is read as one. -/
theorem readValue_of_beginsAtom {c : Char} (hc : BeginsAtom c) (fuel depth : Nat)
    (cs : List Char) : readValue fuel depth (c :: cs) = readAtom c cs := by
  obtain ⟨⟨hblank, -⟩, hbracket, hbrace⟩ := hc
  cases depth with
  | zero => simp only [readValue, skipBlanks_cons hblank, hbracket, hbrace, or_self, if_false]
  | succ depth => simp only [readValue, skipBlanks_cons hblank, hbracket, hbrace, if_false]

/-! ## Numbers -/

/-- A number begins with a minus sign or a digit. -/
theorem head_of_readNumber {cs rest : List Char} {n : Number}
    (h : readNumber cs = .ok (n, rest)) :
    ∃ c cs', cs = c :: cs' ∧ (c = '-' ∨ c.isDigit = true) := by
  obtain ⟨t, ht, -⟩ := readNumber_eq_ok_iff.mp h
  obtain ⟨_, _, _, _, _, hwhole, -⟩ := readNumberText_eq_ok_iff.mp ht
  cases cs with
  | nil => contradiction
  | cons c cs =>
    refine ⟨c, cs, rfl, ?_⟩
    by_cases hminus : c = '-'
    · exact .inl hminus
    · rw [numberSign_of_ne hminus] at hwhole
      refine .inr ?_
      by_contra hdigit
      have hzero : c ≠ '0' := by
        rintro rfl
        exact hdigit rfl
      simp only [readWhole, if_neg hzero, if_neg hdigit] at hwhole
      contradiction

/-- What begins as a number is read as one. -/
theorem readAtom_number {c : Char} (hc : c = '-' ∨ c.isDigit = true) (cs : List Char) :
    readAtom c cs = match readNumber (c :: cs) with
      | .error e => .error e
      | .ok (n, cs) => .ok (.number n, cs) := by
  have hne : ∀ d : Char, d.isDigit = false → d ≠ '-' → c ≠ d := by
    intro d hd hminus
    rcases hc with rfl | hc
    · exact hminus.symm
    · exact ne_of_isDigit hc hd
  have hnull := hne 'n' rfl (by decide)
  have htrue := hne 't' rfl (by decide)
  have hfalse := hne 'f' rfl (by decide)
  have hstring := hne '"' rfl (by decide)
  cases hread : readNumber (c :: cs) with
  | error e => simp only [readAtom, hnull, htrue, hfalse, hstring, hc, hread, if_true, if_false]
  | ok r => simp only [readAtom, hnull, htrue, hfalse, hstring, hc, hread, if_true, if_false]

/-- An atom that is a number was read as one. -/
theorem readNumber_of_readAtom {c : Char} {cs rest : List Char} {n : Number}
    (hc : IsNumberChar c) (h : readAtom c cs = .ok (.number n, rest)) :
    readNumber (c :: cs) = .ok (n, rest) := by
  by_cases hhead : c = '-' ∨ c.isDigit = true
  · rw [readAtom_number hhead] at h
    cases hnumber : readNumber (c :: cs) with
    | error e =>
      rw [hnumber] at h
      contradiction
    | ok r =>
      rw [hnumber] at h
      cases h
      rfl
  · obtain ⟨hminus, hdigit⟩ := not_or.mp hhead
    rcases hc with hc | rfl | rfl | rfl | rfl
    all_goals contradiction

end Json

/-- The text of a number that reads back is read as a number, and nothing
is left of it. -/
theorem Finite.ReadsBack.readNumber {x : Finite} (h : x.ReadsBack) :
    Json.readNumber (Json.Number.real x).chars = .ok (.real x, []) := by
  have hchars : ∀ c ∈ (Json.Number.real x).chars, Json.IsNumberChar c :=
    fun c hc => Json.isNumberChar_of_mem_chars hc
  rw [ReadsBack, Json.parse, Json.readAll_eq_ok_iff, Json.render, String.toList_ofList,
    Json.chars] at h
  obtain ⟨rest, hread, hblanks⟩ := h
  cases hcs : (Json.Number.real x).chars with
  | nil =>
    rw [hcs] at hread
    contradiction
  | cons c cs =>
    rw [hcs] at hread hchars
    have hc : Json.IsNumberChar c := hchars c List.mem_cons_self
    rw [Json.readValue_of_beginsAtom (Json.beginsAtom_of_isNumberChar hc)] at hread
    have hnumber := Json.readNumber_of_readAtom hc hread
    have hend : rest = [] := by
      cases rest with
      | nil => rfl
      | cons d ds =>
        have hd : d ∈ c :: cs :=
          (Json.readNumber_suffix hnumber).subset List.mem_cons_self
        have hblank := (Json.beginsAtom_of_isNumberChar (hchars d hd)).1.1
        rw [Json.skipBlanks_cons hblank] at hblanks
        contradiction
    rw [hnumber, hend]

namespace Json

/-! ## Values without parts -/

/-- A number that is read back alone is read back in front of anything that
ends it. -/
theorem readAtom_number_append {n : Number} {more : List Char} (hmore : NumberEnds more)
    (h : readNumber n.chars = .ok (n, [])) :
    ∃ c cs, n.chars = c :: cs ∧ (c = '-' ∨ c.isDigit = true) ∧
      readAtom c (cs ++ more) = .ok (.number n, more) := by
  obtain ⟨c, cs, hcs, hc⟩ := head_of_readNumber h
  refine ⟨c, cs, hcs, hc, ?_⟩
  have hread := readNumber_append hmore h
  rw [hcs, List.cons_append, List.nil_append] at hread
  rw [readAtom_number hc, hread]

/-- What was written for a value without parts is read back. -/
theorem readAtom_append {x : Json} {more : List Char} (hdepth : x.depth = 0)
    (hreals : ∀ r ∈ x.reals, r.ReadsBack) (hmore : NumberEnds more) :
    ∃ c cs, x.chars = c :: cs ∧ BeginsAtom c ∧ readAtom c (cs ++ more) = .ok (x, more) := by
  cases x with
  | null => exact ⟨'n', _, rfl, by decide, rfl⟩
  | bool b =>
    cases b with
    | false => exact ⟨'f', _, rfl, by decide, rfl⟩
    | true => exact ⟨'t', _, rfl, by decide, rfl⟩
  | number n =>
    have hread : readNumber n.chars = .ok (n, []) := by
      cases n with
      | whole n fits => exact readNumber_whole n fits
      | real r => exact (hreals r List.mem_cons_self).readNumber
    obtain ⟨c, cs, hcs, hc, hatom⟩ := readAtom_number_append hmore hread
    exact ⟨c, cs, hcs, beginsAtom_of_number hc, hatom⟩
  | string s =>
    refine ⟨'"', _, rfl, by decide, ?_⟩
    have hread := readString_append s more
    rw [List.append_assoc, List.singleton_append]
    simp only [readAtom, Char.reduceEq, if_false, if_true, hread]
  | array xs => contradiction
  | object ms => contradiction

/-! ## Lists of elements -/

/-- A reader that takes the text of a value off a text and nothing more. -/
def Takes (value : List Char → Reading Json) (x : Json) : Prop :=
  ∀ more, NumberEnds more → value (x.chars ++ more) = .ok (x, more)

section Elements

variable {value : List Char → Reading Json}

theorem itemChars_nil_append (more : List Char) : itemChars [] ++ more = ']' :: more := rfl

theorem itemChars_cons_append (x : Json) (xs : List Json) (more : List Char) :
    itemChars (x :: xs) ++ more = ',' :: (x.chars ++ (itemChars xs ++ more)) := by
  rw [itemChars, List.cons_append, List.append_assoc]

theorem memberChars_nil_append (more : List Char) :
    memberChars [] ++ more = '\x7d' :: more := rfl

theorem memberChars_cons_append (k : String) (x : Json) (ms : List (String × Json))
    (more : List Char) :
    memberChars ((k, x) :: ms) ++ more =
      ',' :: (stringChars k ++ ':' :: (x.chars ++ (memberChars ms ++ more))) := by
  rw [memberChars, List.cons_append, List.append_assoc, List.cons_append, List.append_assoc]

/-- What follows an item ends a number. -/
theorem numberEnds_itemChars (xs : List Json) (more : List Char) :
    NumberEnds (itemChars xs ++ more) := by
  cases xs with
  | nil => exact numberEnds_cons.mpr (by decide)
  | cons x xs => exact numberEnds_cons.mpr (by decide)

/-- What follows a member ends a number. -/
theorem numberEnds_memberChars (ms : List (String × Json)) (more : List Char) :
    NumberEnds (memberChars ms ++ more) := by
  cases ms with
  | nil => exact numberEnds_cons.mpr (by decide)
  | cons m ms => exact numberEnds_cons.mpr (by decide)

/-- A bracket after an item ends the array. -/
theorem readItems_last {x : Json} {cs more : List Char} (fuel : Nat) (acc : List Json)
    (h : value cs = .ok (x, ']' :: more)) :
    readItems value (fuel + 1) acc cs = .ok ((x :: acc).reverse, more) := by
  have hblank : isBlank ']' = false := by decide
  simp only [readItems, h, skipBlanks_cons hblank, if_true]

/-- A comma after an item leads to the next one. -/
theorem readItems_comma {x : Json} {cs more : List Char} (fuel : Nat) (acc : List Json)
    (h : value cs = .ok (x, ',' :: more)) :
    readItems value (fuel + 1) acc cs = readItems value fuel (x :: acc) more := by
  have hblank : isBlank ',' = false := by decide
  simp only [readItems, h, skipBlanks_cons hblank, Char.reduceEq, if_false, if_true]

/-- The elements behind an opening bracket are read one by one. -/
theorem readItems_append {x : Json} {xs : List Json} {fuel : Nat} (hx : Takes value x)
    (hxs : ∀ y ∈ xs, Takes value y) (hfuel : xs.length < fuel) (acc : List Json)
    (more : List Char) :
    readItems value fuel acc (x.chars ++ (itemChars xs ++ more)) =
      .ok (acc.reverse ++ x :: xs, more) := by
  obtain ⟨fuel, rfl⟩ : ∃ f, fuel = f + 1 := ⟨fuel - 1, by omega⟩
  have hread := hx _ (numberEnds_itemChars xs more)
  induction xs generalizing x fuel acc with
  | nil =>
    rw [itemChars_nil_append] at hread ⊢
    rw [readItems_last fuel acc hread, List.reverse_cons]
  | cons y ys ih =>
    have hy : Takes value y := hxs y List.mem_cons_self
    have hys : ∀ z ∈ ys, Takes value z := fun z hz => hxs z (List.mem_cons_of_mem _ hz)
    rw [List.length_cons] at hfuel
    obtain ⟨fuel, rfl⟩ : ∃ f, fuel = f + 1 := ⟨fuel - 1, by omega⟩
    rw [itemChars_cons_append] at hread ⊢
    rw [readItems_comma _ acc hread,
      ih hy hys _ fuel (by omega) (hy _ (numberEnds_itemChars ys more)),
      List.reverse_cons, List.append_assoc, List.singleton_append]

/-- A name is read back with its colon. -/
theorem readName_append (k : String) (more : List Char) :
    readName (stringChars k ++ ':' :: more) = .ok (k, more) := by
  have hquote : isBlank '"' = false := by decide
  have hcolon : isBlank ':' = false := by decide
  rw [stringChars, List.cons_append, List.append_assoc, List.singleton_append]
  simp only [readName, expectMark, skipBlanks_cons hquote, if_true, readString_append,
    skipBlanks_cons hcolon]

/-- A brace after a member ends the object. -/
theorem readMembers_last {k : String} {x : Json} {cs more : List Char} (fuel : Nat)
    (acc : List (String × Json)) (h : value cs = .ok (x, '\x7d' :: more)) :
    readMembers value (fuel + 1) acc (stringChars k ++ ':' :: cs) =
      .ok (Entries.insert k x acc, more) := by
  have hblank : isBlank '\x7d' = false := by decide
  simp only [readMembers, readName_append, h, skipBlanks_cons hblank, if_true]

/-- A comma after a member leads to the next one. -/
theorem readMembers_comma {k : String} {x : Json} {cs more : List Char} (fuel : Nat)
    (acc : List (String × Json)) (h : value cs = .ok (x, ',' :: more)) :
    readMembers value (fuel + 1) acc (stringChars k ++ ':' :: cs) =
      readMembers value fuel (Entries.insert k x acc) more := by
  have hblank : isBlank ',' = false := by decide
  simp only [readMembers, readName_append, h, skipBlanks_cons hblank, Char.reduceEq, if_false,
    if_true]

/-- The members behind an opening brace are read one by one and entered in
that order. -/
theorem readMembers_append {k : String} {x : Json} {ms : List (String × Json)} {fuel : Nat}
    (hx : Takes value x) (hms : ∀ m ∈ ms, Takes value m.2) (hfuel : ms.length < fuel)
    (acc : List (String × Json)) (more : List Char) :
    readMembers value fuel acc
        (stringChars k ++ ':' :: (x.chars ++ (memberChars ms ++ more))) =
      .ok (Entries.insertAll acc ((k, x) :: ms), more) := by
  obtain ⟨fuel, rfl⟩ : ∃ f, fuel = f + 1 := ⟨fuel - 1, by omega⟩
  have hread := hx _ (numberEnds_memberChars ms more)
  induction ms generalizing k x fuel acc with
  | nil =>
    rw [memberChars_nil_append] at hread ⊢
    rw [readMembers_last fuel acc hread]
    rfl
  | cons m ms ih =>
    obtain ⟨l, y⟩ := m
    have hy : Takes value y := hms (l, y) List.mem_cons_self
    have hms : ∀ m ∈ ms, Takes value m.2 := fun m hm => hms m (List.mem_cons_of_mem _ hm)
    rw [List.length_cons] at hfuel
    obtain ⟨fuel, rfl⟩ : ∃ f, fuel = f + 1 := ⟨fuel - 1, by omega⟩
    rw [memberChars_cons_append] at hread ⊢
    rw [readMembers_comma _ acc hread,
      ih hy hms _ fuel (by omega) (hy _ (numberEnds_memberChars ms more))]
    rfl

end Elements

/-! ## Lengths -/

/-- Fuel for the text of an array is enough for its items. -/
theorem length_lt_length_itemChars (xs : List Json) : xs.length < (itemChars xs).length := by
  induction xs with
  | nil => exact Nat.one_pos
  | cons x xs ih =>
    rw [itemChars, List.length_cons, List.length_cons, List.length_append]
    omega

/-- An item is no longer than the text of its array. -/
theorem length_chars_le_itemChars {x : Json} {xs : List Json} (hx : x ∈ xs) :
    x.chars.length ≤ (itemChars xs).length := by
  induction xs with
  | nil => contradiction
  | cons y ys ih =>
    rw [itemChars, List.length_cons, List.length_append]
    cases List.mem_cons.mp hx with
    | inl heq =>
      rw [heq]
      omega
    | inr hx =>
      have := ih hx
      omega

/-- Fuel for the text of an object is enough for its members. -/
theorem length_lt_length_memberChars (ms : List (String × Json)) :
    ms.length < (memberChars ms).length := by
  induction ms with
  | nil => exact Nat.one_pos
  | cons m ms ih =>
    rw [memberChars, List.length_cons, List.length_cons, List.length_append, List.length_cons,
      List.length_append]
    omega

/-- A value is no longer than the text of its object. -/
theorem length_chars_le_memberChars {m : String × Json} {ms : List (String × Json)}
    (hm : m ∈ ms) : m.2.chars.length ≤ (memberChars ms).length := by
  induction ms with
  | nil => contradiction
  | cons n ms ih =>
    rw [memberChars, List.length_cons, List.length_append, List.length_cons, List.length_append]
    cases List.mem_cons.mp hm with
    | inl heq =>
      rw [heq]
      omega
    | inr hm =>
      have := ih hm
      omega

theorem length_chars_le_array {x : Json} {xs : List Json} (hx : x ∈ xs) :
    x.chars.length ≤ (chars (.array xs)).length := by
  cases xs with
  | nil => contradiction
  | cons y ys =>
    rw [chars, List.length_cons, List.length_append]
    cases List.mem_cons.mp hx with
    | inl heq =>
      rw [heq]
      omega
    | inr hx =>
      have := length_chars_le_itemChars hx
      omega

theorem length_chars_le_object {m : String × Json} {ms : List (String × Json)} (hm : m ∈ ms) :
    m.2.chars.length ≤ (chars (.object ms)).length := by
  cases ms with
  | nil => contradiction
  | cons n ns =>
    rw [chars, List.length_cons, List.length_append, List.length_cons, List.length_append]
    cases List.mem_cons.mp hm with
    | inl heq =>
      rw [heq]
      omega
    | inr hm =>
      have := length_chars_le_memberChars hm
      omega

/-! ## Values -/

section Values

variable {fuel depth : Nat}

/-- A value that takes part in a longer text begins with no blank and no
closing bracket. -/
theorem head_chars {x : Json} (hx : Readable depth x) :
    ∃ c cs, x.chars = c :: cs ∧ BeginsValue c := by
  by_cases hatom : x.depth = 0
  · obtain ⟨c, cs, hcs, hc, -⟩ := readAtom_append hatom hx.readsBack numberEnds_nil
    exact ⟨c, cs, hcs, hc.1⟩
  · cases x with
    | array xs =>
      cases xs with
      | nil => exact ⟨'[', _, rfl, by decide⟩
      | cons x xs => exact ⟨'[', _, rfl, by decide⟩
    | object ms =>
      cases ms with
      | nil => exact ⟨'\x7b', _, rfl, by decide⟩
      | cons m ms => exact ⟨'\x7b', _, rfl, by decide⟩
    | null => contradiction
    | bool b => contradiction
    | number n => contradiction
    | string s => contradiction

/-- An atom is read back if its number is. -/
theorem readValue_atom {x : Json} (hdepth : x.depth = 0) (hreals : ∀ r ∈ x.reals, r.ReadsBack) :
    Takes (readValue fuel depth) x := by
  intro more hmore
  obtain ⟨c, cs, hcs, hc, hatom⟩ := readAtom_append hdepth hreals hmore
  rw [hcs, List.cons_append, readValue_of_beginsAtom hc, hatom]

/-- After a bracket comes an array, one level further in. -/
theorem readValue_bracket {xs : List Json} {cs rest : List Char}
    (h : readArray (readValue fuel depth) fuel cs = .ok (xs, rest)) :
    readValue fuel (depth + 1) ('[' :: cs) = .ok (.array xs, rest) := by
  have hblank : isBlank '[' = false := by decide
  simp only [readValue, skipBlanks_cons hblank, if_true, h]

/-- After a brace comes an object, one level further in. -/
theorem readValue_brace {ms : List (String × Json)} {cs rest : List Char}
    (h : readObject (readValue fuel depth) fuel cs = .ok (ms, rest)) :
    readValue fuel (depth + 1) ('\x7b' :: cs) = .ok (.object ms, rest) := by
  have hblank : isBlank '\x7b' = false := by decide
  simp only [readValue, skipBlanks_cons hblank, Char.reduceEq, if_false, if_true, h]

/-- An array is read if its elements are. -/
theorem readValue_array {xs : List Json} (hxs : ∀ x ∈ xs, Readable depth x)
    (htakes : ∀ x ∈ xs, Takes (readValue fuel depth) x)
    (hfuel : (chars (.array xs)).length ≤ fuel) :
    Takes (readValue fuel (depth + 1)) (.array xs) := by
  intro more hmore
  cases xs with
  | nil => exact readValue_bracket rfl
  | cons x xs =>
    rw [chars, List.length_cons, List.length_append] at hfuel
    have hlength := length_lt_length_itemChars xs
    obtain ⟨c, cs, hcs, hblank, hbracket⟩ := head_chars (hxs x List.mem_cons_self)
    have hread := readItems_append (htakes x List.mem_cons_self)
      (fun y hy => htakes y (List.mem_cons_of_mem _ hy)) (by omega : xs.length < fuel) [] more
    rw [hcs, List.cons_append] at hread
    rw [chars, List.cons_append, List.append_assoc, hcs, List.cons_append]
    refine readValue_bracket ?_
    simp only [readArray, skipBlanks_cons hblank, hbracket, if_false, hread, List.reverse_nil,
      List.nil_append]

/-- An object is read if its members are, in whatever order they stand. -/
theorem readValue_object {ms : List (String × Json)}
    (htakes : ∀ m ∈ ms, Takes (readValue fuel depth) m.2)
    (hfuel : (chars (.object ms)).length ≤ fuel) (more : List Char) :
    readValue fuel (depth + 1) (chars (.object ms) ++ more) = .ok (ofMembers ms, more) := by
  cases ms with
  | nil => exact readValue_brace rfl
  | cons m ms =>
    obtain ⟨k, x⟩ := m
    rw [chars, List.length_cons, List.length_append, List.length_cons, List.length_append] at hfuel
    have hlength := length_lt_length_memberChars ms
    have hblank : isBlank '"' = false := by decide
    have hread := readMembers_append (k := k) (htakes (k, x) List.mem_cons_self)
      (fun m hm => htakes m (List.mem_cons_of_mem _ hm)) (by omega : ms.length < fuel) [] more
    rw [stringChars, List.cons_append] at hread
    rw [chars, List.cons_append, List.append_assoc, List.cons_append, List.append_assoc,
      stringChars, List.cons_append]
    refine readValue_brace ?_
    simp only [readObject, skipBlanks_cons hblank, Char.reduceEq, if_false, hread]

/-- Members in order stay in that order. -/
theorem ofMembers_of_ascending {ms : List (String × Json)} (h : Entries.Ascending ms) :
    ofMembers ms = .object ms := by
  rw [ofMembers, Entries.insertAll_append (l := []) h, List.nil_append]

/-- A readable value is taken off a text, and nothing more. -/
theorem readValue_append {x : Json} (hx : Readable depth x) (hfuel : x.chars.length ≤ fuel) :
    Takes (readValue fuel depth) x := by
  -- the reader recurs on the depth that is left
  induction depth generalizing x with
  | zero => exact readValue_atom (Nat.le_zero.mp hx.depth_le) hx.readsBack
  | succ depth ih =>
    cases x with
    | array xs =>
      have hxs := readable_array_iff.mp hx
      exact readValue_array hxs
        (fun x hx => ih (hxs x hx) (Nat.le_trans (length_chars_le_array hx) hfuel)) hfuel
    | object ms =>
      obtain ⟨hascending, hms⟩ := readable_object_iff.mp hx
      intro more hmore
      rw [readValue_object
        (fun m hm => ih (hms m hm) (Nat.le_trans (length_chars_le_object hm) hfuel)) hfuel,
        ofMembers_of_ascending hascending]
    | null => exact readValue_atom rfl hx.readsBack
    | bool b => exact readValue_atom rfl hx.readsBack
    | number n => exact readValue_atom rfl hx.readsBack
    | string s => exact readValue_atom rfl hx.readsBack

end Values

/-! ## Whole texts -/

/-- A readable value is what its text is read as. -/
theorem parse_render {x : Json} (hx : Readable maxDepth x) : parse x.render = .ok x := by
  have hread := readValue_append hx (Nat.le_refl _) [] numberEnds_nil
  rw [List.append_nil] at hread
  rw [parse, render, String.toList_ofList, readAll, hread]
  rfl

/-- So is an object whose members stand in another order. -/
theorem parse_object {ms : List (String × Json)} (hms : ∀ m ∈ ms, Readable 126 m.2) :
    parse (Json.object ms).render = .ok (ofMembers ms) := by
  have htakes : ∀ m ∈ ms, Takes (readValue (chars (.object ms)).length 126) m.2 :=
    fun m hm => readValue_append (hms m hm) (length_chars_le_object hm)
  have hread := readValue_object htakes (Nat.le_refl _) []
  rw [List.append_nil] at hread
  rw [parse, render, String.toList_ofList, readAll, maxDepth, hread]
  rfl

end Json

end PushRelay
