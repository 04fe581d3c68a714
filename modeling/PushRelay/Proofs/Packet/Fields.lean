import PushRelay.Packet.Typed
import PushRelay.Proofs.Json.Members

/-!
# PushRelay.Proofs.Packet.Fields

The two ways to read a packet agree: `decode` builds the JSON value of the
text and takes its members, and `parse` reads the fields as they stand.

1. Of an object that is read to its end, the fields are entered one after
   the other, and members of other names are passed over
   (`readFields_eq`).
2. What they come to depends on the values of the members `name` and `data`
   alone (`parse_value_eq`): one of each, and the name a string that is not
   empty.
3. `decode` takes the last member of a name, so the two agree where there
   is only one (`parse_agrees_with_decode`).
-/

namespace PushRelay

namespace Packet

open Json

/-! ## Fields that are entered -/

/-- Enters the value of the member `name`; members of other names are
passed over. -/
def Fields.enter (f : Fields Json) (name : String) (x : Json) : Except Fault (Fields Json) :=
  if name = "name" then
    match f.name, x.string? with
    | none, some s => .ok { f with name := some s }
    | _, _ => .error .mismatched
  else if name = "data" then
    match f.data with
    | none => .ok { f with data := some x }
    | some _ => .error .mismatched
  else .ok f

/-- Enters members one after the other; the fields must then be complete. -/
def Fields.complete (f : Fields Json) : List (String × Json) → Except Fault (String × Json)
  | [] => ofFields none f
  | (name, x) :: ms =>
    match f.enter name x with
    | .error e => .error e
    | .ok f => f.complete ms

/-- The name and the data of a packet, if there is one value for each. -/
def partsOf : (names data : List Json) → Except Fault (String × Json)
  | [.string name], [data] => .ok (name, data)
  | _, _ => .error .mismatched

/-- The values that the field `name` has so far. -/
def Fields.names (f : Fields Json) : List Json := f.name.toList.map .string

/-- The values that the field `data` has so far. -/
def Fields.values (f : Fields Json) : List Json := f.data.toList

section Entering

variable {f : Fields Json} {x : Json} {names data : List Json}

/-- Each part must be given once, and the name as a string. -/
theorem partsOf_eq_ok_iff {name : String} {x : Json} :
    partsOf names data = .ok (name, x) ↔ names = [.string name] ∧ data = [x] := by
  constructor
  · intro h
    unfold partsOf at h
    split at h
    · cases h
      exact ⟨rfl, rfl⟩
    · contradiction
  · intro h
    rw [h.1, h.2]
    rfl

/-- A part that is given twice or not at all is refused. -/
theorem partsOf_of_length (h : ¬ (names.length = 1 ∧ data.length = 1)) :
    partsOf names data = .error .mismatched := by
  unfold partsOf
  split
  · exact absurd ⟨rfl, rfl⟩ h
  · rfl

/-- A name that is no string is refused. -/
theorem partsOf_of_not_string (hx : x.string? = none) (names data : List Json) :
    partsOf (x :: names) data = .error .mismatched := by
  cases x with
  | string s => contradiction
  | _ => rfl

/-- What the fields come to depends on the values of `name` and `data`. -/
theorem Fields.complete_eq (f : Fields Json) (ms : List (String × Json)) :
    f.complete ms =
      partsOf (f.names ++ valuesOf "name" ms) (f.values ++ valuesOf "data" ms) := by
  induction ms generalizing f with
  | nil =>
    obtain ⟨name, data⟩ := f
    cases name <;> cases data <;> rfl
  | cons m ms ih =>
    obtain ⟨k, x⟩ := m
    obtain ⟨name, data⟩ := f
    rw [Fields.complete, Fields.enter]
    by_cases hname : k = "name"
    · subst hname
      rw [if_pos rfl, valuesOf_cons_self, valuesOf_cons_of_ne (by decide)]
      cases name with
      | some s => exact (partsOf_of_length (by simp [Fields.names])).symm
      | none =>
        cases hx : x.string? with
        | none => exact (partsOf_of_not_string hx _ _).symm
        | some s =>
          cases string?_eq_some_iff.mp hx
          exact ih _
    by_cases hdata : k = "data"
    · subst hdata
      rw [if_neg hname, if_pos rfl, valuesOf_cons_self, valuesOf_cons_of_ne (by decide)]
      cases data with
      | some y => exact (partsOf_of_length (by simp [Fields.values])).symm
      | none => exact ih _
    · rw [if_neg hname, if_neg hdata, valuesOf_cons_of_ne hname, valuesOf_cons_of_ne hdata]
      exact ih _

end Entering

/-! ## Fields that are read -/

section Reading

variable {fuel depth : Nat} {cs rest : List Char} {x : Json}

/-- Only a quotation mark begins a string. -/
theorem string?_of_readAtom {c : Char} (hc : c ≠ '"') (h : readAtom c cs = .ok (x, rest)) :
    x.string? = none := by
  unfold readAtom at h
  split at h
  · rw [(expectWord_map_eq_ok_iff.mp h).1]
    rfl
  split at h
  · rw [(expectWord_map_eq_ok_iff.mp h).1]
    rfl
  split at h
  · rw [(expectWord_map_eq_ok_iff.mp h).1]
    rfl
  split at h
  · split at h
    · contradiction
    · cases h
      rfl
  · contradiction

/-- Where a text is asked for, a value of another kind is looked at no
further than is needed to refuse it. -/
theorem readText_of_readAtom {c : Char} (hcs : skipBlanks cs = c :: rest) {rest' : List Char}
    (hc : ¬ (c = '[' ∨ c = '\x7b')) (h : readAtom c rest = .ok (x, rest')) :
    readText cs = match x.string? with
      | some s => .ok (s, rest')
      | none => .error .mismatched := by
  by_cases hquote : c = '"'
  · subst hquote
    cases hs : readString rest with
    | error e =>
      simp only [readAtom, Char.reduceEq, if_false, if_true, hs] at h
      contradiction
    | ok r =>
      simp only [readAtom, Char.reduceEq, if_false, if_true, hs] at h
      cases h
      simp only [readText, hcs, if_true, hs, Json.string?]
  · have hshape : wrongShape c rest = .mismatched := by simp only [wrongShape, if_neg hc, h]
    simp only [readText, hcs, if_neg hquote, hshape, string?_of_readAtom hquote h]

/-- A text is read as a value, and must be a string. -/
theorem readText_eq (h : readValue fuel depth cs = .ok (x, rest)) :
    readText cs = match x.string? with
      | some s => .ok (s, rest)
      | none => .error .mismatched := by
  obtain ⟨c, cs₁, hcs, ⟨hbracket, hbrace, hatom⟩ | ⟨d, -, hparts⟩⟩ := readValue_cases h
  · exact readText_of_readAtom hcs (not_or.mpr ⟨hbracket, hbrace⟩) hatom
  · obtain ⟨rfl, xs, rfl, -⟩ | ⟨rfl, ms, rfl, -⟩ := hparts
    · simp only [readText, hcs, Char.reduceEq, if_false, wrongShape, true_or, if_true,
        Json.string?]
    · simp only [readText, hcs, Char.reduceEq, if_false, wrongShape, or_true, if_true,
        Json.string?]

/-- A field is entered with the value that it has. -/
theorem readField_eq (name : String) (f : Fields Json) (hmark : expectMark ':' cs = .ok rest)
    {rest' : List Char} (hx : readValue fuel depth rest = .ok (x, rest'))
    (hfuel : rest.length ≤ fuel) :
    readField .value fuel depth name f cs = (f.enter name x).map fun f => (f, rest') := by
  have htext := readText_eq hx
  have hskip := skipValue_of_readValue hx hfuel
  obtain ⟨name', data'⟩ := f
  unfold readField Fields.enter
  by_cases hname : name = "name"
  · cases name' with
    | some s => simp only [if_pos hname, Option.isSome_some, if_true, Except.map]
    | none =>
      cases hstring : x.string? with
      | none =>
        rw [hstring] at htext
        simp [hname, hmark, htext, Except.map]
      | some s =>
        rw [hstring] at htext
        simp [hname, hmark, htext, Except.map]
  by_cases hdata : name = "data"
  · cases data' with
    | some y => simp [hdata, Except.map]
    | none => simp [hdata, hmark, Shape.value, hx, Except.map]
  · simp [hname, hdata, hmark, hskip, Except.map]

/-- A member that can be read is entered, and the mark behind it decides
what follows. -/
theorem readFields_succ {name : String} {c : Char} {cs₁ cs₂ : List Char} (rounds : Nat)
    (f : Fields Json) (hname : readName cs = .ok (name, cs₁))
    (hx : readValue fuel depth cs₁ = .ok (x, cs₂)) (hcs : skipBlanks cs₂ = c :: rest)
    (hfuel : cs.length ≤ fuel) :
    readFields .value fuel depth (rounds + 1) f cs = match f.enter name x with
      | .error e => .error e
      | .ok f =>
        if c = '\x7d' then (ofFields none f).map fun p => (p, rest)
        else if c = ',' then readFields .value fuel depth rounds f rest
        else .error .malformed := by
  obtain ⟨_, _, hquote, hstring, hcolon⟩ := readName_eq_ok_iff.mp hname
  have hfield := readField_eq name f hcolon hx (Nat.le_trans (length_of_readName hname) hfuel)
  simp only [readFields, hquote, hstring, hfield]
  cases f.enter name x with
  | error e => rfl
  | ok g => simp only [Except.map, hcs, Shape.value]

/-- The fields of an object that can be read to its end are entered one
after the other. -/
theorem readFields_eq {rounds : Nat} {ms : List (String × Json)} (f : Fields Json)
    (h : listMembers (readValue fuel depth) rounds cs = .ok (ms, rest))
    (hfuel : cs.length ≤ fuel) :
    readFields .value fuel depth rounds f cs = (f.complete ms).map fun p => (p, rest) := by
  induction rounds generalizing f cs ms with
  | zero => contradiction
  | succ rounds ih =>
    obtain ⟨name, cs₁, x, cs₂, hname, hx, hnext⟩ := listMembers_cases h
    obtain ⟨hclose, rfl⟩ | ⟨cs₃, more, hcomma, hmore, rfl⟩ := hnext
    · rw [readFields_succ rounds f hname hx hclose hfuel]
      simp only [if_true, Fields.complete]
      cases f.enter name x <;> rfl
    · have hlength : cs₃.length ≤ fuel := by
        have hfirst := length_of_readName hname
        have hsecond := length_of_readValue hx
        have hthird := length_lt_of_skipBlanks hcomma
        omega
      rw [readFields_succ rounds f hname hx hcomma hfuel]
      simp only [Char.reduceEq, if_false, if_true, Fields.complete]
      cases f.enter name x with
      | error e => rfl
      | ok g => exact ih g hmore hlength

end Reading

/-! ## Whole texts -/

section Texts

variable {text : String} {ms : List (String × Json)}

/-- The packet of the members of an object: one name, which is a string and
not empty, and one value of data. -/
def ofMemberList (ms : List (String × Json)) : Except Fault (Packet Json) :=
  match partsOf (valuesOf "name" ms) (valuesOf "data" ms) with
  | .error e => .error e
  | .ok (name, data) => if h : name = "" then .error .mismatched else .ok ⟨name, data, h⟩

/-- The typed reading takes the parts that the values of the members give. -/
theorem readParts_eq {fuel depth : Nat} {cs cs' rest : List Char}
    (hcs : skipBlanks cs = '\x7b' :: cs')
    (h : listObject (readValue fuel depth) fuel cs' = .ok (ms, rest)) (hfuel : cs'.length ≤ fuel) :
    readParts .value fuel (depth + 1) cs =
      (partsOf (valuesOf "name" ms) (valuesOf "data" ms)).map fun p => (p, rest) := by
  have hparts : ∀ ms, Fields.complete {} ms = partsOf (valuesOf "name" ms) (valuesOf "data" ms) :=
    Fields.complete_eq {}
  rw [← hparts]
  unfold readParts
  simp only [hcs, Char.reduceEq, or_true, if_true, if_false]
  unfold listObject at h
  split at h
  · contradiction
  next c cs₁ hfirst =>
  split at h
  · next hclose =>
    cases h
    simp only [hfirst, hclose]
    rfl
  · next hopen =>
    rw [hfirst]
    split
    · contradiction
    · next heq => exact absurd (List.cons.inj heq).1 hopen
    · next heq =>
      cases heq
      have hlength := length_skipBlanks_le cs'
      rw [hfirst] at hlength
      exact readFields_eq {} h (Nat.le_trans hlength hfuel)

/-- The members of a text decide what it is read as field by field. -/
theorem parse_value_eq (h : membersOf text = .ok ms) : parse .value text = ofMemberList ms := by
  obtain ⟨cs, rest, htext, hms, hrest⟩ := membersOf_eq_ok_iff.mp h
  have hparts : readParts .value text.toList.length maxDepth text.toList =
      (partsOf (valuesOf "name" ms) (valuesOf "data" ms)).map fun p => (p, rest) :=
    readParts_eq htext hms (Nat.le_of_lt (length_lt_of_skipBlanks htext))
  rw [parse, readAll, readPacket, hparts, ofMemberList]
  cases partsOf (valuesOf "name" ms) (valuesOf "data" ms) with
  | error e => rfl
  | ok p =>
    obtain ⟨name, data⟩ := p
    simp only [Except.map]
    by_cases hname : name = ""
    · simp only [dif_pos hname]
    · simp only [dif_neg hname, if_pos hrest]

/-- Members make a packet if they give each part once. -/
theorem ofMemberList_eq_ok_iff {p : Packet Json} :
    ofMemberList ms = .ok p ↔
      valuesOf "name" ms = [.string p.name] ∧ valuesOf "data" ms = [p.data] := by
  obtain ⟨name, data, hname⟩ := p
  rw [← partsOf_eq_ok_iff, ofMemberList]
  cases partsOf (valuesOf "name" ms) (valuesOf "data" ms) with
  | error e => exact ⟨nofun, nofun⟩
  | ok parts =>
    obtain ⟨name', data'⟩ := parts
    by_cases hempty : name' = ""
    · subst hempty
      simp [Ne.symm hname]
    · simp [hempty]

/-- A name or data that is missing or repeated makes no packet. -/
theorem ofMemberList_of_occurrences
    (h : ¬ (occurrences "name" ms = 1 ∧ occurrences "data" ms = 1)) :
    ofMemberList ms = .error .mismatched := by
  rw [← length_valuesOf, ← length_valuesOf] at h
  rw [ofMemberList, partsOf_of_length h]

/-- A text is decoded by the last member of each name. -/
theorem decode_eq_ok_iff_members {p : Packet Json} :
    decode text = .ok p ↔ text.utf8ByteSize ≤ maxFrameSize ∧ ∃ ms, membersOf text = .ok ms ∧
      (valuesOf "name" ms).getLast? = some (.string p.name) ∧
      p.data = (valuesOf "data" ms).getLast?.getD .null := by
  simp only [decode_eq_ok_iff, decodeFrame_eq_ok_iff, ofJson_eq_ok_iff]
  constructor
  · intro h
    obtain ⟨value, ⟨hsize, hparse⟩, hname, hdata⟩ := h
    cases value with
    | object members =>
      obtain ⟨ms, hms, hobject⟩ := membersOf_of_parse hparse
      rw [← hobject, member?_ofMembers] at hname hdata
      exact ⟨hsize, ms, hms, hname, hdata⟩
    | _ => contradiction
  · intro h
    obtain ⟨hsize, ms, hms, hname, hdata⟩ := h
    rw [← member?_ofMembers] at hname hdata
    exact ⟨_, ⟨hsize, parse_of_membersOf hms⟩, hname, hdata⟩

/-- A text that is decoded to a packet is read field by field to the same
one, if its object has the name and the data once each, and is refused if
one of them is repeated or the data is missing.  A packet that is read from
an object is the one that the object is decoded to. -/
theorem parse_agrees_with_decode (text : String) :
    (∀ p, decode text = .ok p → ∃ ms, membersOf text = .ok ms ∧
      (occurrences "name" ms = 1 ∧ occurrences "data" ms = 1 → parse .value text = .ok p) ∧
      (1 < occurrences "name" ms ∨ 1 < occurrences "data" ms ∨ occurrences "data" ms = 0 →
        parse .value text = .error .mismatched)) ∧
    (∀ q members, parse .value text = .ok q → decodeFrame text = .ok (.object members) →
      decode text = .ok q) := by
  constructor
  · intro p hp
    obtain ⟨-, ms, hms, hname, hdata⟩ := decode_eq_ok_iff_members.mp hp
    refine ⟨ms, hms, fun honce => ?_, fun hnot => ?_⟩
    · rw [← length_valuesOf, ← length_valuesOf] at honce
      obtain ⟨x, hx⟩ := List.length_eq_one_iff.mp honce.1
      obtain ⟨y, hy⟩ := List.length_eq_one_iff.mp honce.2
      rw [hx] at hname
      rw [hy] at hdata
      rw [parse_value_eq hms, ofMemberList_eq_ok_iff, hx, hy, hdata]
      exact ⟨congrArg (fun x => [x]) (Option.some.inj hname), rfl⟩
    · rw [parse_value_eq hms]
      exact ofMemberList_of_occurrences (by omega)
  · intro q members hq hframe
    obtain ⟨hsize, hparse⟩ := decodeFrame_eq_ok_iff.mp hframe
    obtain ⟨ms, hms, -⟩ := membersOf_of_parse hparse
    rw [parse_value_eq hms, ofMemberList_eq_ok_iff] at hq
    refine decode_eq_ok_iff_members.mpr ⟨hsize, ms, hms, ?_, ?_⟩
    · rw [hq.1]
      rfl
    · rw [hq.2]
      rfl

/-- The fields may stand in any order, with escapes in their names and
other members between them, but not twice; and what is read is decoded. -/
theorem parse_agrees_with_decode_escaped_and_repeated :
    let once := "\x7b\"x\":[1],\"\\u0064ata\":null,\"name\":\"a\"\x7d"
    let twice := "\x7b\"name\":\"a\",\"data\":1,\"name\":\"a\"\x7d"
    let one : Json := .number (.whole 1 (by decide))
    let p : Packet Json := ⟨"a", .null, by decide⟩
    let q : Packet Json := ⟨"a", one, by decide⟩
    decode once = .ok p ∧ parse .value once = .ok p ∧
      decode twice = .ok q ∧ parse .value twice = .error .mismatched := by
  intro once twice one p q
  have honce : (membersOf once).map
      (fun ms => (occurrences "name" ms, occurrences "data" ms)) = .ok (1, 1) := by decide +kernel
  have htwice : (membersOf twice).map (occurrences "name") = .ok 2 := by decide +kernel
  have hp : decode once = .ok p := by decide +kernel
  have hq : decode twice = .ok q := by decide +kernel
  have hframe : decodeFrame once =
      .ok (.object [("data", .null), ("name", .string "a"), ("x", .array [one])]) := by
    decide +kernel
  have hread : parse .value once = .ok p := by
    obtain ⟨ms, hms, hread, -⟩ := (parse_agrees_with_decode once).1 p hp
    rw [hms] at honce
    exact hread (Prod.mk.inj (Except.ok.inj honce))
  have hrefused : parse .value twice = .error .mismatched := by
    obtain ⟨ms, hms, -, hrefused⟩ := (parse_agrees_with_decode twice).1 q hq
    rw [hms] at htwice
    have hcount : occurrences "name" ms = 2 := Except.ok.inj htwice
    exact hrefused (.inl (by omega))
  exact ⟨(parse_agrees_with_decode once).2 p _ hread hframe, hread, hq, hrefused⟩

end Texts

end Packet

end PushRelay
