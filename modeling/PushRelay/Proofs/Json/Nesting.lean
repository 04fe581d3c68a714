import PushRelay.Proofs.Json.RoundTrip

/-!
# PushRelay.Proofs.Json.Nesting

A JSON value that nests too deep is not read back: the reader stops at the
first bracket or brace that would be one too many open at a time.

What stands before that place is read as it was written, so the elements of
a list are read one by one up to the first that nests too deep
(`readItems_refused`, `readMembers_refused`).
-/

namespace PushRelay

namespace Json

/-- A reader that finds a fault within the text of a value. -/
def Refuses (value : List Char → Reading Json) (x : Json) : Prop :=
  ∀ more, value (x.chars ++ more) = .error .malformed

/-! ## Lists of elements -/

section Elements

variable {value : List Char → Reading Json}

/-- If one of the elements is refused and all before it are read, then the
list is refused. -/
theorem readItems_refused {x : Json} {xs : List Json} {fuel : Nat}
    (hall : ∀ y ∈ x :: xs, Takes value y ∨ Refuses value y)
    (hsome : ∃ y ∈ x :: xs, Refuses value y) (hfuel : xs.length < fuel) (acc : List Json)
    (more : List Char) :
    readItems value fuel acc (x.chars ++ (itemChars xs ++ more)) = .error .malformed := by
  induction xs generalizing x fuel acc with
  | nil =>
    obtain ⟨fuel, rfl⟩ : ∃ f, fuel = f + 1 := ⟨fuel - 1, by omega⟩
    obtain ⟨y, hy, hrefuses⟩ := hsome
    rw [List.mem_singleton.mp hy] at hrefuses
    simp only [readItems, hrefuses _]
  | cons y ys ih =>
    obtain ⟨hx, hys⟩ := List.forall_mem_cons.mp hall
    rw [List.length_cons] at hfuel
    obtain ⟨fuel, rfl⟩ : ∃ f, fuel = f + 1 := ⟨fuel - 1, by omega⟩
    by_cases hrefuses : Refuses value x
    · simp only [readItems, hrefuses _]
    · have hread := (hx.resolve_right hrefuses) _ (numberEnds_itemChars (y :: ys) more)
      have hlater : ∃ z ∈ y :: ys, Refuses value z := by
        obtain ⟨z, hz, hzrefuses⟩ := hsome
        refine ⟨z, (List.mem_cons.mp hz).resolve_left ?_, hzrefuses⟩
        rintro rfl
        exact hrefuses hzrefuses
      rw [itemChars_cons_append] at hread ⊢
      rw [readItems_comma _ acc hread, ih hys hlater (by omega)]

/-- An object is refused if one of its values is, and those before it are
read. -/
theorem readMembers_refused {k : String} {x : Json} {ms : List (String × Json)} {fuel : Nat}
    (hall : ∀ m ∈ (k, x) :: ms, Takes value m.2 ∨ Refuses value m.2)
    (hsome : ∃ m ∈ (k, x) :: ms, Refuses value m.2) (hfuel : ms.length < fuel)
    (acc : List (String × Json)) (more : List Char) :
    readMembers value fuel acc (stringChars k ++ ':' :: (x.chars ++ (memberChars ms ++ more))) =
      .error .malformed := by
  induction ms generalizing k x fuel acc with
  | nil =>
    obtain ⟨fuel, rfl⟩ : ∃ f, fuel = f + 1 := ⟨fuel - 1, by omega⟩
    obtain ⟨m, hm, hrefuses⟩ := hsome
    rw [List.mem_singleton.mp hm] at hrefuses
    simp only [readMembers, readName_append, hrefuses _]
  | cons m ms ih =>
    obtain ⟨l, y⟩ := m
    obtain ⟨hx, hms⟩ := List.forall_mem_cons.mp hall
    rw [List.length_cons] at hfuel
    obtain ⟨fuel, rfl⟩ : ∃ f, fuel = f + 1 := ⟨fuel - 1, by omega⟩
    by_cases hrefuses : Refuses value x
    · simp only [readMembers, readName_append, hrefuses _]
    · have hread := (hx.resolve_right hrefuses) _ (numberEnds_memberChars ((l, y) :: ms) more)
      have hlater : ∃ m ∈ (l, y) :: ms, Refuses value m.2 := by
        obtain ⟨m, hm, hmrefuses⟩ := hsome
        refine ⟨m, (List.mem_cons.mp hm).resolve_left ?_, hmrefuses⟩
        rintro rfl
        exact hrefuses hmrefuses
      rw [memberChars_cons_append] at hread ⊢
      rw [readMembers_comma _ acc hread, ih hms hlater (by omega)]

end Elements

/-! ## Values -/

section Values

variable {fuel depth d : Nat}

/-- A refused array is a refused value. -/
theorem readValue_bracket_error {cs : List Char} {e : Fault}
    (h : readArray (readValue fuel depth) fuel cs = .error e) :
    readValue fuel (depth + 1) ('[' :: cs) = .error e := by
  have hblank : isBlank '[' = false := by decide
  simp only [readValue, skipBlanks_cons hblank, if_true, h]

/-- A refused object is a refused value. -/
theorem readValue_brace_error {cs : List Char} {e : Fault}
    (h : readObject (readValue fuel depth) fuel cs = .error e) :
    readValue fuel (depth + 1) ('\x7b' :: cs) = .error e := by
  have hblank : isBlank '\x7b' = false := by decide
  simp only [readValue, skipBlanks_cons hblank, Char.reduceEq, if_false, if_true, h]

/-- No array and no object is read where none may be open. -/
theorem refuses_zero {x : Json} (hdepth : x.depth ≠ 0) : Refuses (readValue fuel 0) x := by
  have hbracket : isBlank '[' = false := by decide
  have hbrace : isBlank '\x7b' = false := by decide
  intro more
  cases x with
  | array xs => cases xs <;> simp [chars, readValue, skipBlanks_cons hbracket]
  | object ms => cases ms <;> simp [chars, readValue, skipBlanks_cons hbrace]
  | _ => contradiction

/-- A value that nests no deeper than the reader goes is read. -/
theorem takes_or_refuses {x : Json} (hx : Readable d x) (hfuel : x.chars.length ≤ fuel)
    (hdeep : depth < x.depth → Refuses (readValue fuel depth) x) :
    Takes (readValue fuel depth) x ∨ Refuses (readValue fuel depth) x := by
  by_cases hdepth : depth < x.depth
  · exact .inr (hdeep hdepth)
  · exact .inl (readValue_append ⟨⟨hx.ordered, Nat.not_lt.mp hdepth⟩, hx.readsBack⟩ hfuel)

/-- An array is refused if an element of it nests too deep, and those that
do are refused. -/
theorem refuses_array {xs : List Json} (hxs : ∀ x ∈ xs, Readable d x)
    (hrefuses : ∀ x ∈ xs, depth < x.depth → Refuses (readValue fuel depth) x)
    (hdeep : ∃ x ∈ xs, depth < x.depth) (hfuel : (chars (.array xs)).length ≤ fuel) :
    Refuses (readValue fuel (depth + 1)) (.array xs) := by
  have hall : ∀ x ∈ xs, Takes (readValue fuel depth) x ∨ Refuses (readValue fuel depth) x :=
    fun x hx => takes_or_refuses (hxs x hx) (Nat.le_trans (length_chars_le_array hx) hfuel)
      (hrefuses x hx)
  obtain ⟨y, hy, hdeep⟩ := hdeep
  have hsome : ∃ y ∈ xs, Refuses (readValue fuel depth) y := ⟨y, hy, hrefuses y hy hdeep⟩
  intro more
  cases xs with
  | nil => contradiction
  | cons x xs =>
    rw [chars, List.length_cons, List.length_append] at hfuel
    have hlength := length_lt_length_itemChars xs
    obtain ⟨c, cs, hcs, hblank, hbracket⟩ := head_chars (hxs x List.mem_cons_self)
    have hread := readItems_refused hall hsome (by omega : xs.length < fuel) [] more
    rw [hcs, List.cons_append] at hread
    rw [chars, List.cons_append, List.append_assoc, hcs, List.cons_append]
    refine readValue_bracket_error ?_
    simp only [readArray, skipBlanks_cons hblank, hbracket, if_false, hread]

/-- So is an object, in whatever order its members stand. -/
theorem refuses_object {ms : List (String × Json)} (hms : ∀ m ∈ ms, Readable d m.2)
    (hrefuses : ∀ m ∈ ms, depth < m.2.depth → Refuses (readValue fuel depth) m.2)
    (hdeep : ∃ m ∈ ms, depth < m.2.depth) (hfuel : (chars (.object ms)).length ≤ fuel) :
    Refuses (readValue fuel (depth + 1)) (.object ms) := by
  have hall : ∀ m ∈ ms,
      Takes (readValue fuel depth) m.2 ∨ Refuses (readValue fuel depth) m.2 :=
    fun m hm => takes_or_refuses (hms m hm) (Nat.le_trans (length_chars_le_object hm) hfuel)
      (hrefuses m hm)
  obtain ⟨n, hn, hdeep⟩ := hdeep
  have hsome : ∃ n ∈ ms, Refuses (readValue fuel depth) n.2 := ⟨n, hn, hrefuses n hn hdeep⟩
  intro more
  cases ms with
  | nil => contradiction
  | cons m ms =>
    obtain ⟨k, x⟩ := m
    rw [chars, List.length_cons, List.length_append, List.length_cons, List.length_append] at hfuel
    have hlength := length_lt_length_memberChars ms
    have hblank : isBlank '"' = false := by decide
    have hread := readMembers_refused hall hsome (by omega : ms.length < fuel) [] more
    rw [stringChars, List.cons_append] at hread
    rw [chars, List.cons_append, List.append_assoc, List.cons_append, List.append_assoc,
      stringChars, List.cons_append]
    refine readValue_brace_error ?_
    simp only [readObject, skipBlanks_cons hblank, Char.reduceEq, if_false, hread]

/-- A value that would be read to some depth is refused by a reader to a
lesser depth than its own. -/
theorem refuses_of_depth_lt {x : Json} (hx : Readable d x) (hdepth : depth < x.depth)
    (hfuel : x.chars.length ≤ fuel) : Refuses (readValue fuel depth) x := by
  -- the reader recurs on the depth that is left
  induction depth generalizing x d with
  | zero => exact refuses_zero (by omega)
  | succ depth ih =>
    obtain ⟨d, rfl⟩ : ∃ e, d = e + 1 := ⟨d - 1, by have := hx.depth_le; omega⟩
    cases x with
    | array xs =>
      have hxs := readable_array_iff.mp hx
      have hdeep : ∃ x ∈ xs, depth < x.depth := by
        by_contra hnone
        simp only [not_exists, not_and, Nat.not_lt] at hnone
        exact Nat.not_lt.mpr (Nat.succ_le_succ (depthItems_le_iff.mpr hnone)) hdepth
      exact refuses_array hxs
        (fun x hx hdepth => ih (hxs x hx) hdepth (Nat.le_trans (length_chars_le_array hx) hfuel))
        hdeep hfuel
    | object ms =>
      obtain ⟨-, hms⟩ := readable_object_iff.mp hx
      have hdeep : ∃ m ∈ ms, depth < m.2.depth := by
        by_contra hnone
        simp only [not_exists, not_and, Nat.not_lt] at hnone
        exact Nat.not_lt.mpr (Nat.succ_le_succ (depthMembers_le_iff.mpr hnone)) hdepth
      exact refuses_object hms
        (fun m hm hdepth => ih (hms m hm) hdepth (Nat.le_trans (length_chars_le_object hm) hfuel))
        hdeep hfuel
    | _ => contradiction

end Values

/-! ## Whole texts -/

/-- An object is refused if one of its members nests so deep that the
object nests too deep for a text. -/
theorem parse_object_of_deep {d : Nat} {ms : List (String × Json)}
    (hms : ∀ m ∈ ms, Readable d m.2) (hdeep : ∃ m ∈ ms, 126 < m.2.depth) :
    parse (Json.object ms).render = .error .malformed := by
  have hrefuses : ∀ m ∈ ms, 126 < m.2.depth →
      Refuses (readValue (chars (.object ms)).length 126) m.2 :=
    fun m hm hdepth => refuses_of_depth_lt (hms m hm) hdepth (length_chars_le_object hm)
  have hread := refuses_object hms hrefuses hdeep (Nat.le_refl _) []
  rw [List.append_nil] at hread
  rw [parse, render, String.toList_ofList, readAll, maxDepth, hread]

end Json

end PushRelay
