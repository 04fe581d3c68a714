import PushRelay.Json.Skipping
import PushRelay.Proofs.Json.RoundTrip

/-!
# PushRelay.Proofs.Json.Skipping

What is read can be passed over, and the same text is left
(`skipValue_of_readValue`).

The reader recurs on the depth, and the skipper keeps the open brackets on
a stack.  So each part of a value is passed over whatever is on the stack
(`Passes`), by the moves of the skipper one after the other
(`Place.Leads`).  The rounds are counted on the way: the skipper takes at
most two for a character, and one more behind an opening bracket.
-/

namespace PushRelay

namespace Json

/-! ## Strings -/

/-- Where the skipper of a string stands when its reader stands at a
state: it does not know of surrogates. -/
def StringState.skipped : StringState → SkipState
  | .plain | .pair _ => .plain
  | .escape | .pairEscape _ => .escape
  | .unit _ count _ => .unit count

/-- A string that is read can be skipped. -/
theorem skipStringFrom_of_readStringFrom {state : StringState} {acc cs rest : List Char}
    {s : String} (h : readStringFrom state acc cs = .ok (s, rest)) :
    skipStringFrom state.skipped cs = .ok rest := by
  induction cs generalizing state acc with
  | nil => cases state <;> contradiction
  | cons c cs ih =>
    cases state with
    | plain =>
      simp only [readStringFrom] at h
      simp only [StringState.skipped, skipStringFrom]
      split_ifs at h ⊢
      · cases h
        rfl
      · exact ih h
      · exact ih h
    | escape =>
      simp only [readStringFrom] at h
      simp only [StringState.skipped, skipStringFrom]
      split
      · next hunit =>
        rw [if_pos hunit] at h
        exact ih h
      · next hunit =>
        rw [if_neg hunit] at h
        cases hd : unescape? c with
        | none =>
          rw [hd] at h
          contradiction
        | some d =>
          rw [hd] at h
          rw [Option.isSome_some, if_pos rfl]
          exact ih h
    | unit high count value =>
      simp only [readStringFrom] at h
      simp only [StringState.skipped, skipStringFrom]
      cases hhex : hexValue? c with
      | none =>
        rw [hhex] at h
        contradiction
      | some d =>
        rw [hhex] at h
        cases count with
        | succ count => exact ih h
        | zero =>
          simp only at h ⊢
          split at h
          · exact ih h
          · exact ih h
          · contradiction
    | pair high =>
      simp only [readStringFrom] at h
      simp only [StringState.skipped, skipStringFrom]
      split at h
      · next hslash =>
        subst hslash
        exact ih h
      · contradiction
    | pairEscape high =>
      simp only [readStringFrom] at h
      simp only [StringState.skipped, skipStringFrom]
      split at h
      · next hunit =>
        subst hunit
        exact ih h
      · contradiction

/-- So it can from its beginning. -/
theorem skipString_of_readString {cs rest : List Char} {s : String}
    (h : readString cs = .ok (s, rest)) : skipString cs = .ok rest :=
  skipStringFrom_of_readStringFrom h

/-! ## Names and values without parts -/

/-- An atom that is read can be skipped. -/
theorem skipAtom_of_readAtom {c : Char} {cs rest : List Char} {x : Json}
    (h : readAtom c cs = .ok (x, rest)) : skipAtom c cs = .ok rest := by
  unfold readAtom at h
  unfold skipAtom
  split_ifs at h ⊢
  · exact (expectWord_map_eq_ok_iff.mp h).2
  · exact (expectWord_map_eq_ok_iff.mp h).2
  · exact (expectWord_map_eq_ok_iff.mp h).2
  · split at h
    · contradiction
    · next s cs' hs =>
      cases h
      exact skipString_of_readString hs
  · split at h
    · contradiction
    · next n cs' hn =>
      cases h
      obtain ⟨t, ht, -⟩ := readNumber_eq_ok_iff.mp hn
      rw [ht]

/-- A name is a string with a colon after it. -/
theorem readName_eq_ok_iff {cs rest : List Char} {k : String} :
    readName cs = .ok (k, rest) ↔ ∃ cs₁ cs₂, expectMark '"' cs = .ok cs₁ ∧
      readString cs₁ = .ok (k, cs₂) ∧ expectMark ':' cs₂ = .ok rest := by
  unfold readName
  constructor
  · intro h
    split at h
    · contradiction
    next cs₁ hquote =>
    split at h
    · contradiction
    next k' cs₂ hk =>
    split at h
    · contradiction
    next cs₃ hcolon =>
    cases h
    exact ⟨cs₁, cs₂, hquote, hk, hcolon⟩
  · intro h
    obtain ⟨cs₁, cs₂, hquote, hk, hcolon⟩ := h
    simp only [hquote, hk, hcolon]

/-- A name that is read can be skipped. -/
theorem skipName_of_readName {cs rest : List Char} {k : String}
    (h : readName cs = .ok (k, rest)) : skipName .object cs = .ok rest := by
  obtain ⟨cs₁, cs₂, hquote, hk, hcolon⟩ := readName_eq_ok_iff.mp h
  simp only [skipName, hquote, skipString_of_readString hk, hcolon]

/-! ## What is left is shorter -/

section Lengths

variable {cs rest : List Char}

theorem length_skipBlanks_le (cs : List Char) : (skipBlanks cs).length ≤ cs.length :=
  (List.dropWhile_suffix _).length_le

/-- A character after blanks leaves less to read. -/
theorem length_lt_of_skipBlanks {c : Char} (h : skipBlanks cs = c :: rest) :
    rest.length < cs.length := by
  have hle := length_skipBlanks_le cs
  rw [h, List.length_cons] at hle
  exact hle

/-- An expected word leaves no more to read. -/
theorem length_of_expectWord {word : List Char} (h : expectWord word cs = .ok rest) :
    rest.length ≤ cs.length := by
  induction word generalizing cs with
  | nil =>
    cases h
    exact Nat.le_refl _
  | cons w word ih =>
    cases cs with
    | nil => contradiction
    | cons c cs =>
      rw [expectWord] at h
      split at h
      · exact Nat.le_succ_of_le (ih h)
      · contradiction

/-- An expected mark leaves less to read. -/
theorem length_of_expectMark {mark : Char} (h : expectMark mark cs = .ok rest) :
    rest.length < cs.length := by
  unfold expectMark at h
  split at h
  · contradiction
  next c cs' hblanks =>
  split at h
  · cases h
    exact length_lt_of_skipBlanks hblanks
  · contradiction

/-- A skipped string leaves less to read. -/
theorem length_of_skipStringFrom {state : SkipState} (h : skipStringFrom state cs = .ok rest) :
    rest.length < cs.length := by
  induction cs generalizing state with
  | nil => cases state <;> contradiction
  | cons c cs ih =>
    rw [List.length_cons]
    have hlater : ∀ {state : SkipState}, skipStringFrom state cs = .ok rest →
        rest.length < cs.length + 1 := fun h => Nat.lt_succ_of_lt (ih h)
    cases state with
    | plain =>
      rw [skipStringFrom] at h
      split_ifs at h
      · cases h
        exact Nat.lt_succ_self _
      · exact hlater h
      · exact hlater h
    | escape =>
      rw [skipStringFrom] at h
      split_ifs at h
      · exact hlater h
      · exact hlater h
    | unit count =>
      simp only [skipStringFrom] at h
      split at h
      · contradiction
      · cases count with
        | succ count => exact hlater h
        | zero => exact hlater h

/-- A skipped atom leaves no more to read. -/
theorem length_of_skipAtom {c : Char} (h : skipAtom c cs = .ok rest) :
    rest.length ≤ cs.length := by
  unfold skipAtom at h
  split_ifs at h
  · exact length_of_expectWord h
  · exact length_of_expectWord h
  · exact length_of_expectWord h
  · exact Nat.le_of_lt (length_of_skipStringFrom h)
  · split at h
    · contradiction
    · next t cs' ht =>
      cases h
      exact Nat.le_of_lt_succ (length_of_readNumberText ht)

/-- A skipped name leaves no more to read. -/
theorem length_of_skipName {b : Bracket} (h : skipName b cs = .ok rest) :
    rest.length ≤ cs.length := by
  cases b with
  | array =>
    cases h
    exact Nat.le_refl _
  | object =>
    simp only [skipName] at h
    split at h
    · contradiction
    next cs₁ hquote =>
    split at h
    · contradiction
    next cs₂ hname =>
    have hfirst := length_of_expectMark hquote
    have hsecond := length_of_skipStringFrom hname
    have hthird := length_of_expectMark h
    omega

end Lengths

/-! ## The moves of the skipper -/

/-- The bracket that opens an array or an object. -/
def Bracket.opening : Bracket → Char
  | .array => '['
  | .object => '\x7b'

/-- Where the skipper stands: the brackets that are open, what may come
next, and the text that is left. -/
structure Place where
  pending : List Bracket
  stage : SkipStage
  text : List Char

namespace Place

def skip (fuel : Nat) (p : Place) : Except Fault (List Char) :=
  skipFrom fuel p.pending p.stage p.text

/-- The most rounds that the text can take. -/
def bound (p : Place) : Nat :=
  match p.stage with
  | .opened => 2 * p.text.length + 1
  | _ => 2 * p.text.length

/-- The skipper gets from one place to another, and takes no more rounds on
the way than the text between them can. -/
def Leads (p q : Place) : Prop :=
  ∃ rounds, rounds + q.bound ≤ p.bound ∧ ∀ fuel, p.skip (rounds + fuel) = q.skip fuel

/-- Skipping goes on from place to place. -/
theorem Leads.trans {p q r : Place} (hpq : p.Leads q) (hqr : q.Leads r) : p.Leads r := by
  obtain ⟨m, hm, hfirst⟩ := hpq
  obtain ⟨n, hn, hsecond⟩ := hqr
  refine ⟨m + n, by omega, fun fuel => ?_⟩
  rw [Nat.add_assoc, hfirst, hsecond]

/-- One step of skipping leads on, if the bound goes down. -/
theorem leads_of_skip {p q : Place} (hbound : q.bound < p.bound)
    (h : ∀ fuel, p.skip (fuel + 1) = q.skip fuel) : p.Leads q := by
  refine ⟨1, by omega, fun fuel => ?_⟩
  rw [Nat.add_comm, h]

section Moves

variable {pending : List Bracket} {b : Bracket} {c : Char} {cs cs' rest : List Char}

/-- An atom leads past itself. -/
theorem leads_atom (hcs : skipBlanks cs = c :: cs') (hbracket : c ≠ '[') (hbrace : c ≠ '\x7b')
    (h : skipAtom c cs' = .ok rest) : Leads ⟨pending, .value, cs⟩ ⟨pending, .done, rest⟩ := by
  have hlength := length_lt_of_skipBlanks hcs
  have hrest := length_of_skipAtom h
  refine leads_of_skip (by simp only [bound]; omega) fun fuel => ?_
  simp only [skip, skipFrom, hcs, if_neg hbracket, if_neg hbrace, h]

/-- An opening bracket leads into what it opens. -/
theorem leads_open (hcs : skipBlanks cs = b.opening :: rest) :
    Leads ⟨pending, .value, cs⟩ ⟨b :: pending, .opened, rest⟩ := by
  have hlength := length_lt_of_skipBlanks hcs
  refine leads_of_skip (by simp only [bound]; omega) fun fuel => ?_
  cases b with
  | array => simp only [skip, skipFrom, hcs, Bracket.opening, if_true]
  | object => simp only [skip, skipFrom, hcs, Bracket.opening, Char.reduceEq, if_false, if_true]

/-- An array or an object may be closed as soon as it is opened. -/
theorem leads_empty (hcs : skipBlanks cs = b.closing :: rest) :
    Leads ⟨b :: pending, .opened, cs⟩ ⟨pending, .done, rest⟩ := by
  have hlength := length_lt_of_skipBlanks hcs
  refine leads_of_skip (by simp only [bound]; omega) fun fuel => ?_
  simp only [skip, skipFrom, hcs, if_true]

/-- A first item or member leads to its value. -/
theorem leads_first (hcs : skipBlanks cs = c :: cs') (hc : c ≠ b.closing)
    (h : skipName b (c :: cs') = .ok rest) :
    Leads ⟨b :: pending, .opened, cs⟩ ⟨b :: pending, .value, rest⟩ := by
  have hlength := length_lt_of_skipBlanks hcs
  have hrest := length_of_skipName h
  rw [List.length_cons] at hrest
  refine leads_of_skip (by simp only [bound]; omega) fun fuel => ?_
  simp only [skip, skipFrom, hcs, if_neg hc, h]

/-- A closing bracket leads out. -/
theorem leads_close (hcs : skipBlanks cs = b.closing :: rest) :
    Leads ⟨b :: pending, .done, cs⟩ ⟨pending, .done, rest⟩ := by
  have hlength := length_lt_of_skipBlanks hcs
  refine leads_of_skip (by simp only [bound]; omega) fun fuel => ?_
  simp only [skip, skipFrom, hcs, if_true]

/-- A comma leads to the next value. -/
theorem leads_comma (hcs : skipBlanks cs = ',' :: cs') (h : skipName b cs' = .ok rest) :
    Leads ⟨b :: pending, .done, cs⟩ ⟨b :: pending, .value, rest⟩ := by
  have hlength := length_lt_of_skipBlanks hcs
  have hrest := length_of_skipName h
  have hclosing : ',' ≠ b.closing := by cases b <;> decide
  refine leads_of_skip (by simp only [bound]; omega) fun fuel => ?_
  simp only [skip, skipFrom, hcs, if_neg hclosing, if_true, h]

end Moves

end Place

/-! ## Values -/

open Place

/-- The skipper passes over what a reader reads, whatever brackets are
open. -/
def Passes (value : List Char → Reading Json) : Prop :=
  ∀ {cs x rest}, value cs = .ok (x, rest) →
    ∀ pending, Leads ⟨pending, .value, cs⟩ ⟨pending, .done, rest⟩

section Elements

variable {value : List Char → Reading Json} {fuel : Nat} {pending : List Bracket}
variable {cs rest : List Char}

/-- Items that are read lead to the end of their array. -/
theorem leads_of_readItems (hvalue : Passes value) {acc xs : List Json}
    (h : readItems value fuel acc cs = .ok (xs, rest)) :
    Leads ⟨.array :: pending, .value, cs⟩ ⟨pending, .done, rest⟩ := by
  induction fuel generalizing acc cs with
  | zero => contradiction
  | succ fuel ih =>
    obtain ⟨x, cs₁, hx, ⟨hclose, -⟩ | ⟨cs₂, hcomma, h⟩⟩ := readItems_cases h
    · exact (hvalue hx (.array :: pending)).trans (leads_close hclose)
    · exact ((hvalue hx (.array :: pending)).trans (leads_comma hcomma rfl)).trans (ih h)

/-- An array that is read leads past itself. -/
theorem leads_of_readArray (hvalue : Passes value) {xs : List Json}
    (h : readArray value fuel cs = .ok (xs, rest)) :
    Leads ⟨.array :: pending, .opened, cs⟩ ⟨pending, .done, rest⟩ := by
  obtain ⟨hclose, -⟩ | ⟨c, cs₁, hcs, hopen, h⟩ := readArray_cases h
  · exact leads_empty hclose
  · exact (leads_first (b := .array) hcs hopen rfl).trans (leads_of_readItems hvalue h)

/-- The skipper has passed over the name of a member when it comes to the
value. -/
theorem leads_of_readMembers (hvalue : Passes value) {acc ms : List (String × Json)}
    (h : readMembers value fuel acc cs = .ok (ms, rest)) :
    ∃ cs', skipName .object cs = .ok cs' ∧
      Leads ⟨.object :: pending, .value, cs'⟩ ⟨pending, .done, rest⟩ := by
  induction fuel generalizing acc cs with
  | zero => contradiction
  | succ fuel ih =>
    obtain ⟨k, cs₁, x, cs₂, hk, hx, hnext⟩ := readMembers_cases h
    refine ⟨cs₁, skipName_of_readName hk, (hvalue hx (.object :: pending)).trans ?_⟩
    obtain ⟨hclose, -⟩ | ⟨cs₃, hcomma, h⟩ := hnext
    · exact leads_close hclose
    · obtain ⟨cs₄, hname, hleads⟩ := ih h
      exact (leads_comma hcomma hname).trans hleads

/-- So does an object. -/
theorem leads_of_readObject (hvalue : Passes value) {ms : List (String × Json)}
    (h : readObject value fuel cs = .ok (ms, rest)) :
    Leads ⟨.object :: pending, .opened, cs⟩ ⟨pending, .done, rest⟩ := by
  obtain ⟨hclose, -⟩ | ⟨c, cs₁, hcs, hopen, h⟩ := readObject_cases h
  · exact leads_empty hclose
  · obtain ⟨cs₂, hname, hleads⟩ := leads_of_readMembers hvalue h
    exact (leads_first (b := .object) hcs hopen hname).trans hleads

end Elements

/-- Every value that is read can be skipped. -/
theorem passes_readValue (fuel depth : Nat) : Passes (readValue fuel depth) := by
  -- the reader recurs on the depth that is left
  induction depth with
  | zero =>
    intro cs x rest h pending
    obtain ⟨c, cs₁, hcs, ⟨hbracket, hbrace, hatom⟩ | ⟨d, hd, -⟩⟩ := readValue_cases h
    · exact leads_atom hcs hbracket hbrace (skipAtom_of_readAtom hatom)
    · contradiction
  | succ depth ih =>
    intro cs x rest h pending
    obtain ⟨c, cs₁, hcs, ⟨hbracket, hbrace, hatom⟩ | ⟨d, hd, hparts⟩⟩ := readValue_cases h
    · exact leads_atom hcs hbracket hbrace (skipAtom_of_readAtom hatom)
    · cases hd
      obtain ⟨rfl, xs, -, hxs⟩ | ⟨rfl, ms, -, hms⟩ := hparts
      · exact (leads_open (b := .array) hcs).trans (leads_of_readArray ih hxs)
      · exact (leads_open (b := .object) hcs).trans (leads_of_readObject ih hms)

section Values

variable {fuel depth : Nat} {cs rest : List Char} {x : Json}

/-- A name leaves no more to read. -/
theorem length_of_readName {k : String} (h : readName cs = .ok (k, rest)) :
    rest.length ≤ cs.length :=
  length_of_skipName (skipName_of_readName h)

/-- A value leaves no more to read. -/
theorem length_of_readValue (h : readValue fuel depth cs = .ok (x, rest)) :
    rest.length ≤ cs.length := by
  obtain ⟨rounds, hbound, -⟩ := passes_readValue fuel depth h []
  simp only [bound] at hbound
  omega

/-- What is read is passed over, and the same text is left. -/
theorem skipValue_of_readValue (h : readValue fuel depth cs = .ok (x, rest)) {size : Nat}
    (hsize : cs.length ≤ size) : skipValue size cs = .ok rest := by
  obtain ⟨rounds, hbound, hskip⟩ := passes_readValue fuel depth h []
  simp only [bound] at hbound
  obtain ⟨more, hmore⟩ : ∃ more, 2 * size + 2 = rounds + (more + 1) :=
    ⟨2 * size + 1 - rounds, by omega⟩
  have hlast : skipFrom (more + 1) [] .done rest = .ok rest := rfl
  rw [skipValue, hmore, ← hlast]
  exact hskip (more + 1)

end Values

end Json

end PushRelay
