import PushRelay.Json.Reader

/-!
# PushRelay.Proofs.Json.Shape

What the reader returns has a shape: the members of its objects ascend, and
no more arrays and objects are open at a time than were allowed
(`shaped_of_parse`).  Lists of elements are dealt with for any reader of
their elements, and `readValue` by induction on the depth.
-/

namespace PushRelay

namespace Json

/-- A value whose objects are ordered, and in which at most `depth` arrays
and objects are open at a time. -/
structure Shaped (depth : Nat) (x : Json) : Prop where
  ordered : x.Ordered
  depth_le : x.depth ≤ depth

/-- Items are as deep as the deepest of them. -/
theorem depthItems_le_iff {depth : Nat} {xs : List Json} :
    depthItems xs ≤ depth ↔ ∀ x ∈ xs, x.depth ≤ depth := by
  induction xs with
  | nil => simp [depthItems]
  | cons x xs ih => rw [depthItems, Nat.max_le, List.forall_mem_cons, ih]

/-- So are members. -/
theorem depthMembers_le_iff {depth : Nat} {ms : List (String × Json)} :
    depthMembers ms ≤ depth ↔ ∀ m ∈ ms, m.2.depth ≤ depth := by
  induction ms with
  | nil => simp [depthMembers]
  | cons m ms ih => rw [depthMembers, Nat.max_le, List.forall_mem_cons, ih]

/-- Items are in order if each of them is. -/
theorem orderedItems_iff {xs : List Json} : OrderedItems xs ↔ ∀ x ∈ xs, x.Ordered := by
  induction xs with
  | nil => simp [OrderedItems]
  | cons x xs ih => simp [OrderedItems, ih]

/-- So are the values of members. -/
theorem orderedMembers_iff {ms : List (String × Json)} :
    OrderedMembers ms ↔ ∀ m ∈ ms, m.2.Ordered := by
  induction ms with
  | nil => simp [OrderedMembers]
  | cons m ms ih => simp [OrderedMembers, ih]

/-- An array has the shape if its items do, one level further in. -/
theorem shaped_array_iff {depth : Nat} {xs : List Json} :
    Shaped (depth + 1) (.array xs) ↔ ∀ x ∈ xs, Shaped depth x := by
  constructor
  · intro h x hx
    have hdepth : depthItems xs ≤ depth := Nat.le_of_succ_le_succ h.depth_le
    exact ⟨orderedItems_iff.mp h.ordered x hx, depthItems_le_iff.mp hdepth x hx⟩
  · intro h
    have hdepth : depthItems xs ≤ depth := depthItems_le_iff.mpr fun x hx => (h x hx).depth_le
    exact ⟨orderedItems_iff.mpr fun x hx => (h x hx).ordered, Nat.succ_le_succ hdepth⟩

/-- An object has it if its values do and its names ascend. -/
theorem shaped_object_iff {depth : Nat} {ms : List (String × Json)} :
    Shaped (depth + 1) (.object ms) ↔
      Entries.Ascending ms ∧ ∀ m ∈ ms, Shaped depth m.2 := by
  constructor
  · intro h
    obtain ⟨hascending, hordered⟩ := h.ordered
    have hdepth : depthMembers ms ≤ depth := Nat.le_of_succ_le_succ h.depth_le
    exact ⟨hascending, fun m hm =>
      ⟨orderedMembers_iff.mp hordered m hm, depthMembers_le_iff.mp hdepth m hm⟩⟩
  · intro h
    obtain ⟨hascending, h⟩ := h
    have hdepth : depthMembers ms ≤ depth := depthMembers_le_iff.mpr fun m hm => (h m hm).depth_le
    have hordered : OrderedMembers ms := orderedMembers_iff.mpr fun m hm => (h m hm).ordered
    exact ⟨⟨hascending, hordered⟩, Nat.succ_le_succ hdepth⟩

/-! ## Values without parts -/

/-- What is not nested has the shape at every depth. -/
theorem shaped_of_depth_eq_zero {depth : Nat} {x : Json} (h : x.depth = 0) : Shaped depth x := by
  refine ⟨?_, by omega⟩
  cases x with
  | array xs => contradiction
  | object ms => contradiction
  | _ => trivial

/-- A word stands for one value. -/
theorem expectWord_map_eq_ok_iff {word cs rest : List Char} {x y : Json} :
    (expectWord word cs).map (fun cs => (y, cs)) = .ok (x, rest) ↔
      x = y ∧ expectWord word cs = .ok rest := by
  cases expectWord word cs with
  | error e => exact ⟨nofun, nofun⟩
  | ok cs' =>
    constructor
    · intro h
      cases h
      exact ⟨rfl, rfl⟩
    · intro h
      obtain ⟨rfl, h⟩ := h
      cases h
      rfl

/-- What `readAtom` returns has no parts. -/
theorem depth_of_readAtom {c : Char} {cs rest : List Char} {x : Json}
    (h : readAtom c cs = .ok (x, rest)) : x.depth = 0 := by
  unfold readAtom at h
  split at h
  · rw [(expectWord_map_eq_ok_iff.mp h).1]
    rfl
  split at h
  · rw [(expectWord_map_eq_ok_iff.mp h).1]
    rfl
  split at h
  · rw [(expectWord_map_eq_ok_iff.mp h).1]
    rfl
  split at h
  · split at h
    · contradiction
    · cases h
      rfl
  split at h
  · split at h
    · contradiction
    · cases h
      rfl
  · contradiction

/-! ## What was read -/

section Readings

variable {fuel : Nat} {cs rest : List Char}

/-- An element is followed by the closing bracket, or by a comma and further
elements. -/
theorem readItems_cases {α : Type} {item : List Char → Reading α} {acc xs : List α}
    (h : readItems item (fuel + 1) acc cs = .ok (xs, rest)) :
    ∃ x cs₁, item cs = .ok (x, cs₁) ∧
      ((skipBlanks cs₁ = ']' :: rest ∧ xs = (x :: acc).reverse) ∨
        ∃ cs₂, skipBlanks cs₁ = ',' :: cs₂ ∧
          readItems item fuel (x :: acc) cs₂ = .ok (xs, rest)) := by
  rw [readItems] at h
  split at h
  · contradiction
  next x cs₁ hx =>
  refine ⟨x, cs₁, hx, ?_⟩
  split at h
  · contradiction
  next c cs₂ hcs =>
  split at h
  · next hclose =>
    cases h
    exact .inl ⟨hclose ▸ hcs, rfl⟩
  split at h
  · next hcomma => exact .inr ⟨cs₂, hcomma ▸ hcs, h⟩
  · contradiction

/-- An array is empty or has a first item. -/
theorem readArray_cases {α : Type} {item : List Char → Reading α} {xs : List α}
    (h : readArray item fuel cs = .ok (xs, rest)) :
    (skipBlanks cs = ']' :: rest ∧ xs = []) ∨
      ∃ c cs₁, skipBlanks cs = c :: cs₁ ∧ c ≠ ']' ∧
        readItems item fuel [] (c :: cs₁) = .ok (xs, rest) := by
  unfold readArray at h
  split at h
  · contradiction
  next c cs₁ hcs =>
  split at h
  · next hclose =>
    cases h
    exact .inl ⟨hclose ▸ hcs, rfl⟩
  · next hopen => exact .inr ⟨c, cs₁, hcs, hopen, h⟩

variable {value : List Char → Reading Json}

/-- A member is followed by the closing brace, or by a comma and further
members. -/
theorem readMembers_cases {acc ms : List (String × Json)}
    (h : readMembers value (fuel + 1) acc cs = .ok (ms, rest)) :
    ∃ name cs₁ x cs₂, readName cs = .ok (name, cs₁) ∧ value cs₁ = .ok (x, cs₂) ∧
      ((skipBlanks cs₂ = '\x7d' :: rest ∧ ms = Entries.insert name x acc) ∨
        ∃ cs₃, skipBlanks cs₂ = ',' :: cs₃ ∧
          readMembers value fuel (Entries.insert name x acc) cs₃ = .ok (ms, rest)) := by
  rw [readMembers] at h
  split at h
  · contradiction
  next name cs₁ hname =>
  split at h
  · contradiction
  next x cs₂ hx =>
  refine ⟨name, cs₁, x, cs₂, hname, hx, ?_⟩
  split at h
  · contradiction
  next c cs₃ hcs =>
  split at h
  · next hclose =>
    cases h
    exact .inl ⟨hclose ▸ hcs, rfl⟩
  split at h
  · next hcomma => exact .inr ⟨cs₃, hcomma ▸ hcs, h⟩
  · contradiction

/-- An object is empty or has a first member. -/
theorem readObject_cases {ms : List (String × Json)}
    (h : readObject value fuel cs = .ok (ms, rest)) :
    (skipBlanks cs = '\x7d' :: rest ∧ ms = []) ∨
      ∃ c cs₁, skipBlanks cs = c :: cs₁ ∧ c ≠ '\x7d' ∧
        readMembers value fuel [] (c :: cs₁) = .ok (ms, rest) := by
  unfold readObject at h
  split at h
  · contradiction
  next c cs₁ hcs =>
  split at h
  · next hclose =>
    cases h
    exact .inl ⟨hclose ▸ hcs, rfl⟩
  · next hopen => exact .inr ⟨c, cs₁, hcs, hopen, h⟩

/-- The first character of a value says whether it is one without parts, an
array or an object. -/
theorem readValue_cases {depth : Nat} {x : Json} (h : readValue fuel depth cs = .ok (x, rest)) :
    ∃ c cs₁, skipBlanks cs = c :: cs₁ ∧
      ((c ≠ '[' ∧ c ≠ '\x7b' ∧ readAtom c cs₁ = .ok (x, rest)) ∨
        ∃ d, depth = d + 1 ∧
          ((c = '[' ∧ ∃ xs, x = .array xs ∧ readArray (readValue fuel d) fuel cs₁ = .ok (xs, rest)) ∨
            (c = '\x7b' ∧
              ∃ ms, x = .object ms ∧ readObject (readValue fuel d) fuel cs₁ = .ok (ms, rest)))) := by
  cases depth with
  | zero =>
    rw [readValue] at h
    split at h
    · contradiction
    next c cs₁ hcs =>
    split at h
    · contradiction
    next hc =>
    obtain ⟨hbracket, hbrace⟩ := not_or.mp hc
    exact ⟨c, cs₁, hcs, .inl ⟨hbracket, hbrace, h⟩⟩
  | succ depth =>
    rw [readValue] at h
    split at h
    · contradiction
    next c cs₁ hcs =>
    refine ⟨c, cs₁, hcs, ?_⟩
    split at h
    · next hbracket =>
      split at h
      · contradiction
      next xs cs₂ hxs =>
      cases h
      exact .inr ⟨depth, rfl, .inl ⟨hbracket, xs, rfl, hxs⟩⟩
    next hbracket =>
    split at h
    · next hbrace =>
      split at h
      · contradiction
      next ms cs₂ hms =>
      cases h
      exact .inr ⟨depth, rfl, .inr ⟨hbrace, ms, rfl, hms⟩⟩
    · next hbrace => exact .inl ⟨hbracket, hbrace, h⟩

/-- A whole text is read if only blanks follow on what is read of it. -/
theorem readAll_eq_ok_iff {α : Type} {value : Nat → List Char → Reading α} {x : α} :
    readAll value cs = .ok x ↔
      ∃ rest, value cs.length cs = .ok (x, rest) ∧ skipBlanks rest = [] := by
  unfold readAll
  cases value cs.length cs with
  | error e => simp
  | ok r =>
    obtain ⟨y, rest⟩ := r
    by_cases hrest : skipBlanks rest = []
    · simp only [if_pos hrest]
      constructor
      · intro h
        cases h
        exact ⟨rest, rfl, hrest⟩
      · rintro ⟨rest', h, -⟩
        cases h
        rfl
    · simp only [if_neg hrest, reduceCtorEq, false_iff]
      rintro ⟨rest', h, hend⟩
      cases h
      exact hrest hend

end Readings

/-! ## Lists of elements -/

section Elements

variable {P : Json → Prop} {value : List Char → Reading Json}

/-- What holds of every value that is read holds of all items. -/
theorem forall_of_readItems (hvalue : ∀ {cs x rest}, value cs = .ok (x, rest) → P x)
    {fuel : Nat} {acc xs : List Json} {cs rest : List Char} (hacc : ∀ x ∈ acc, P x)
    (h : readItems value fuel acc cs = .ok (xs, rest)) : ∀ x ∈ xs, P x := by
  induction fuel generalizing acc cs with
  | zero => contradiction
  | succ fuel ih =>
    obtain ⟨x, cs₁, hx, hlast | hmore⟩ := readItems_cases h
    · obtain ⟨-, rfl⟩ := hlast
      intro y hy
      exact (List.forall_mem_cons.mpr ⟨hvalue hx, hacc⟩) y (List.mem_reverse.mp hy)
    · obtain ⟨cs₂, -, h⟩ := hmore
      exact ih (List.forall_mem_cons.mpr ⟨hvalue hx, hacc⟩) h

/-- So it does of the items of an array. -/
theorem forall_of_readArray (hvalue : ∀ {cs x rest}, value cs = .ok (x, rest) → P x)
    {fuel : Nat} {xs : List Json} {cs rest : List Char}
    (h : readArray value fuel cs = .ok (xs, rest)) : ∀ x ∈ xs, P x := by
  obtain ⟨-, rfl⟩ | ⟨c, cs₁, -, -, h⟩ := readArray_cases h
  · exact List.forall_mem_nil P
  · exact forall_of_readItems hvalue (List.forall_mem_nil P) h

/-- Members are kept in order as they are read, and what holds of every value
holds of theirs. -/
theorem ascending_of_readMembers (hvalue : ∀ {cs x rest}, value cs = .ok (x, rest) → P x)
    {fuel : Nat} {acc ms : List (String × Json)} {cs rest : List Char}
    (hacc : Entries.Ascending acc ∧ ∀ m ∈ acc, P m.2)
    (h : readMembers value fuel acc cs = .ok (ms, rest)) :
    Entries.Ascending ms ∧ ∀ m ∈ ms, P m.2 := by
  induction fuel generalizing acc cs with
  | zero => contradiction
  | succ fuel ih =>
    obtain ⟨k, cs₁, x, cs₂, -, hx, hnext⟩ := readMembers_cases h
    have hacc' : Entries.Ascending (Entries.insert k x acc) ∧
        ∀ m ∈ Entries.insert k x acc, P m.2 := by
      refine ⟨Entries.ascending_insert k x hacc.1, fun m hm => ?_⟩
      cases Entries.mem_of_mem_insert hm with
      | inl hm =>
        rw [hm]
        exact hvalue hx
      | inr hm => exact hacc.2 m hm
    obtain ⟨-, rfl⟩ | ⟨cs₃, -, h⟩ := hnext
    · exact hacc'
    · exact ih hacc' h

/-- So it is with the members of an object. -/
theorem ascending_of_readObject (hvalue : ∀ {cs x rest}, value cs = .ok (x, rest) → P x)
    {fuel : Nat} {ms : List (String × Json)} {cs rest : List Char}
    (h : readObject value fuel cs = .ok (ms, rest)) :
    Entries.Ascending ms ∧ ∀ m ∈ ms, P m.2 := by
  have hnil : ∀ m ∈ ([] : List (String × Json)), P m.2 := List.forall_mem_nil _
  obtain ⟨-, rfl⟩ | ⟨c, cs₁, -, -, h⟩ := readObject_cases h
  · exact ⟨List.Pairwise.nil, hnil⟩
  · exact ascending_of_readMembers hvalue ⟨List.Pairwise.nil, hnil⟩ h

end Elements

/-! ## Values -/

/-- A value that is read is no deeper than allowed, and its members are in
order. -/
theorem shaped_of_readValue {fuel depth : Nat} {cs rest : List Char} {x : Json}
    (h : readValue fuel depth cs = .ok (x, rest)) : Shaped depth x := by
  -- the reader recurs on the depth that is left
  induction depth generalizing cs x rest with
  | zero =>
    obtain ⟨c, cs₁, -, ⟨-, -, hatom⟩ | ⟨d, hd, -⟩⟩ := readValue_cases h
    · exact shaped_of_depth_eq_zero (depth_of_readAtom hatom)
    · contradiction
  | succ depth ih =>
    obtain ⟨c, cs₁, -, ⟨-, -, hatom⟩ | ⟨d, hd, hparts⟩⟩ := readValue_cases h
    · exact shaped_of_depth_eq_zero (depth_of_readAtom hatom)
    · cases hd
      obtain ⟨-, xs, rfl, hxs⟩ | ⟨-, ms, rfl, hms⟩ := hparts
      · exact shaped_array_iff.mpr (forall_of_readArray ih hxs)
      · exact shaped_object_iff.mpr (ascending_of_readObject ih hms)

/-- What a text is read as has the shape of its reader. -/
theorem shaped_of_parse {text : String} {x : Json} (h : parse text = .ok x) :
    Shaped maxDepth x := by
  obtain ⟨rest, hread, -⟩ := readAll_eq_ok_iff.mp h
  exact shaped_of_readValue hread

end Json

end PushRelay
