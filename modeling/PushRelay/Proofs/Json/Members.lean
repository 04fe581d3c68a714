import PushRelay.Proofs.Json.Skipping

/-!
# PushRelay.Proofs.Json.Members

The members of an object as they stand in its text.

A value that is read keeps one member of a name, in the order of the names.
Here all of them are kept, in the order of the text (`membersOf`), and the
object that is read is made of them (`parse_of_membersOf`), the last of a
name winning.
-/

namespace PushRelay

namespace Json

/-! ## Reading all members -/

/-- Reads members up to the closing brace, at least one, and keeps them as
they stand. -/
def listMembers (value : List Char → Reading Json) :
    (fuel : Nat) → List Char → Reading (List (String × Json))
  | 0, _ => .error .truncated
  | fuel + 1, cs =>
    match readName cs with
    | .error e => .error e
    | .ok (name, cs) =>
      match value cs with
      | .error e => .error e
      | .ok (x, cs) =>
        match skipBlanks cs with
        | [] => .error .truncated
        | c :: cs =>
          if c = '\x7d' then .ok ([(name, x)], cs)
          else if c = ',' then (listMembers value fuel cs).map fun r => ((name, x) :: r.1, r.2)
          else .error .malformed

/-- Reads the members of an object behind its opening brace. -/
def listObject (value : List Char → Reading Json) (fuel : Nat) (cs : List Char) :
    Reading (List (String × Json)) :=
  match skipBlanks cs with
  | [] => .error .truncated
  | c :: cs => if c = '\x7d' then .ok ([], cs) else listMembers value fuel (c :: cs)

/-- The members of the object that a text is, in the order of the text and
with all those of one name. -/
def membersOf (text : String) : Except Fault (List (String × Json)) :=
  readAll (fun fuel cs =>
    match skipBlanks cs with
    | [] => .error .truncated
    | c :: cs =>
      if c = '\x7b' then listObject (readValue fuel (maxDepth - 1)) fuel cs
      else .error .mismatched) text.toList

/-- How many members have a name. -/
def occurrences (name : String) (ms : List (String × Json)) : Nat := (ms.map Prod.fst).count name

/-- The values of the members with one name. -/
def valuesOf (name : String) (ms : List (String × Json)) : List Json :=
  (ms.filter fun m => m.1 = name).map Prod.snd

/-! ## Members of a name -/

section Names

variable {k name : String} {x : Json} {ms : List (String × Json)}

/-- A member of the name adds its value. -/
theorem valuesOf_cons_self (name : String) (x : Json) (ms : List (String × Json)) :
    valuesOf name ((name, x) :: ms) = x :: valuesOf name ms := by
  simp [valuesOf]

/-- A member of another name adds none. -/
theorem valuesOf_cons_of_ne (h : k ≠ name) (x : Json) (ms : List (String × Json)) :
    valuesOf name ((k, x) :: ms) = valuesOf name ms := by
  simp [valuesOf, h]

/-- A name has as many values as it occurs. -/
theorem length_valuesOf (name : String) (ms : List (String × Json)) :
    (valuesOf name ms).length = occurrences name ms := by
  induction ms with
  | nil => rfl
  | cons m ms ih =>
    obtain ⟨k, x⟩ := m
    rw [occurrences] at ih
    rw [occurrences, List.map_cons]
    by_cases hk : k = name
    · subst hk
      rw [valuesOf_cons_self, List.count_cons_self, List.length_cons, ih]
    · rw [valuesOf_cons_of_ne hk, List.count_cons_of_ne hk, ih]

/-- Looked up from the end, a name has its last value. -/
theorem lookup_reverse_eq_getLast? (name : String) (ms : List (String × Json)) :
    ms.reverse.lookup name = (valuesOf name ms).getLast? := by
  induction ms with
  | nil => rfl
  | cons m ms ih =>
    obtain ⟨k, x⟩ := m
    rw [List.reverse_cons, List.lookup_append, ih]
    by_cases hk : k = name
    · subst hk
      rw [valuesOf_cons_self, List.getLast?_cons, List.lookup_cons_self]
      cases (valuesOf k ms).getLast? <;> rfl
    · have hlast : List.lookup name [(k, x)] = none := by
        rw [List.lookup_cons, beq_eq_false_iff_ne.mpr (Ne.symm hk)]
        rfl
      rw [valuesOf_cons_of_ne hk, hlast, Option.or_none]

/-- Of the members of a name the object has the last one. -/
theorem member?_ofMembers (name : String) (ms : List (String × Json)) :
    (ofMembers ms).member? name = (valuesOf name ms).getLast? := by
  have hfind := Table.find?_insertAll ∅ ms name
  rw [Table.find?_empty, Option.or_none, lookup_reverse_eq_getLast?] at hfind
  exact hfind

end Names

theorem string?_eq_some_iff {x : Json} {s : String} : x.string? = some s ↔ x = .string s := by
  cases x <;> simp [string?]

/-! ## The object of the members -/

section Objects

variable {value : List Char → Reading Json} {fuel : Nat} {cs rest : List Char}

/-- A member is followed by the closing brace, or by a comma and further
members. -/
theorem listMembers_cases {ms : List (String × Json)}
    (h : listMembers value (fuel + 1) cs = .ok (ms, rest)) :
    ∃ name cs₁ x cs₂, readName cs = .ok (name, cs₁) ∧ value cs₁ = .ok (x, cs₂) ∧
      ((skipBlanks cs₂ = '\x7d' :: rest ∧ ms = [(name, x)]) ∨
        ∃ cs₃ more, skipBlanks cs₂ = ',' :: cs₃ ∧
          listMembers value fuel cs₃ = .ok (more, rest) ∧ ms = (name, x) :: more) := by
  rw [listMembers] at h
  split at h
  · contradiction
  next name cs₁ hname =>
  split at h
  · contradiction
  next x cs₂ hx =>
  refine ⟨name, cs₁, x, cs₂, hname, hx, ?_⟩
  split at h
  · contradiction
  next c cs₃ hcs =>
  split at h
  · next hclose =>
    cases h
    exact .inl ⟨hclose ▸ hcs, rfl⟩
  split at h
  · next hcomma =>
    cases hmore : listMembers value fuel cs₃ with
    | error e =>
      rw [hmore] at h
      contradiction
    | ok r =>
      rw [hmore] at h
      cases h
      exact .inr ⟨cs₃, r.1, hcomma ▸ hcs, hmore, rfl⟩
  · contradiction

/-- A reader of members enters them in the order of the text. -/
theorem readMembers_eq (acc : List (String × Json)) :
    readMembers value fuel acc cs =
      (listMembers value fuel cs).map fun r => (Entries.insertAll acc r.1, r.2) := by
  induction fuel generalizing acc cs with
  | zero => rfl
  | succ fuel ih =>
    cases hname : readName cs with
    | error e => simp only [readMembers, listMembers, hname, Except.map]
    | ok r =>
      cases hvalue : value r.2 with
      | error e => simp only [readMembers, listMembers, hname, hvalue, Except.map]
      | ok s =>
        cases hblanks : skipBlanks s.2 with
        | nil => simp only [readMembers, listMembers, hname, hvalue, hblanks, Except.map]
        | cons c cs' =>
          by_cases hclose : c = '\x7d'
          · simp only [readMembers, listMembers, hname, hvalue, hblanks, if_pos hclose, Except.map]
            rfl
          by_cases hcomma : c = ','
          · simp only [readMembers, listMembers, hname, hvalue, hblanks, if_neg hclose,
              if_pos hcomma, ih]
            cases listMembers value fuel cs' <;> rfl
          · simp only [readMembers, listMembers, hname, hvalue, hblanks, if_neg hclose,
              if_neg hcomma, Except.map]

/-- Into an object go the members as they are listed, a later one of a name
over an earlier one. -/
theorem readObject_eq :
    readObject value fuel cs =
      (listObject value fuel cs).map fun r => (Entries.insertAll [] r.1, r.2) := by
  unfold readObject listObject
  cases skipBlanks cs with
  | nil => rfl
  | cons c cs₁ =>
    by_cases hclose : c = '\x7d'
    · simp only [if_pos hclose]
      rfl
    · simp only [if_neg hclose, readMembers_eq]

end Objects

/-! ## Whole texts -/

section Texts

variable {text : String} {ms : List (String × Json)}

/-- The members of a text stand behind a brace, and nothing but blanks
behind the brace that closes them. -/
theorem membersOf_eq_ok_iff :
    membersOf text = .ok ms ↔ ∃ cs rest, skipBlanks text.toList = '\x7b' :: cs ∧
      listObject (readValue text.toList.length (maxDepth - 1)) text.toList.length cs =
        .ok (ms, rest) ∧ skipBlanks rest = [] := by
  rw [membersOf, readAll_eq_ok_iff]
  cases htext : skipBlanks text.toList with
  | nil => simp
  | cons c cs =>
    by_cases hc : c = '\x7b'
    · subst hc
      simp
    · simp [hc]

/-- A text with members is read as the object of them. -/
theorem parse_of_membersOf (h : membersOf text = .ok ms) : parse text = .ok (ofMembers ms) := by
  obtain ⟨cs, rest, htext, hms, hrest⟩ := membersOf_eq_ok_iff.mp h
  rw [parse, readAll_eq_ok_iff]
  refine ⟨rest, ?_, hrest⟩
  have hobject : readObject (readValue text.toList.length 126) text.toList.length cs =
      .ok (Entries.insertAll [] ms, rest) := by
    rw [readObject_eq]
    exact congrArg _ hms
  rw [maxDepth, readValue]
  simp only [htext, Char.reduceEq, if_false, if_true, hobject, ofMembers]

/-- All members of a text stand in its list, and the object has the last of
each name. -/
example :
    let text := "\x7b\"b\": 1, \"a\": [1, 2], \"\\u0061\": null \x7d"
    (membersOf text).toOption.map (fun ms => (ms.map Prod.fst, (valuesOf "a" ms).map render)) =
        some (["b", "a", "a"], ["[1,2]", "null"]) ∧
      (parse text).toOption.map render = some "\x7b\"a\":null,\"b\":1\x7d" := by
  decide +kernel

/-- A text that is read as an object has members, and the object is made of
them. -/
theorem membersOf_of_parse {members : List (String × Json)}
    (h : parse text = .ok (.object members)) :
    ∃ ms, membersOf text = .ok ms ∧ ofMembers ms = .object members := by
  rw [parse, readAll_eq_ok_iff] at h
  obtain ⟨rest, hread, hrest⟩ := h
  obtain ⟨c, cs, htext, ⟨-, -, hatom⟩ | ⟨d, hd, hparts⟩⟩ := readValue_cases hread
  · have hdepth := depth_of_readAtom hatom
    contradiction
  · cases hd
    obtain ⟨-, xs, hxs, -⟩ | ⟨rfl, members', hmembers, hobject⟩ := hparts
    · contradiction
    · cases hmembers
      rw [readObject_eq] at hobject
      cases hms : listObject (readValue text.toList.length 126) text.toList.length cs with
      | error e =>
        rw [hms] at hobject
        contradiction
      | ok r =>
        rw [hms] at hobject
        cases hobject
        exact ⟨r.1, membersOf_eq_ok_iff.mpr ⟨cs, r.2, htext, hms, hrest⟩, rfl⟩

end Texts

end Json

end PushRelay
