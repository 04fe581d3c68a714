import PushRelay.Proofs.Client.Sending

/-!
# PushRelay.Proofs.Client.Lines

Commands and the lines that give them.

1. White space around a line does not matter, and a text that neither begins
   nor ends with some is not changed by trimming (`Text.trim_append`).
2. The verb and the name of a packet end at a U+0020, the rest of a line is
   kept as it is; so each command that a line can give is given by its own
   line (`Command.parse_line`).
3. What a line can give is a condition on the command alone
   (`Command.Obtainable`).
-/

namespace PushRelay

/-! ## White space at the ends -/

namespace Text

variable {cs before later : List Char} {c : Char}

/-- A text that neither begins nor ends with white space. -/
structure Trimmed (cs : List Char) : Prop where
  head : ∀ c, cs.head? = some c → isBlank c = false
  last : ∀ c, cs.getLast? = some c → isBlank c = false

/-- White space alone. -/
def Blank (cs : List Char) : Prop := ∀ c ∈ cs, isBlank c = true

theorem blank_nil : Blank [] := List.forall_mem_nil _

/-- No white space at all. -/
def Solid (cs : List Char) : Prop := ∀ c ∈ cs, isBlank c = false

instance (cs : List Char) : Decidable (Blank cs) := List.decidableBAll _ cs

instance (cs : List Char) : Decidable (Solid cs) := List.decidableBAll _ cs

/-- A text without white space has none at its ends. -/
theorem Solid.trimmed (h : Solid cs) : Trimmed cs where
  head c hc := h c (List.mem_of_head? hc)
  last c hc := h c (List.mem_of_getLast? hc)

theorem Solid.not_mem (h : Solid cs) : ' ' ∉ cs := by
  intro hspace
  exact absurd (h ' ' hspace) (by decide)

theorem trimmed_nil : Trimmed [] := by
  constructor <;> intro c hc <;> contradiction

/-- Nothing is dropped of a text that does not begin with white space. -/
theorem dropWhile_isBlank_of_head (h : ∀ c, cs.head? = some c → isBlank c = false) :
    cs.dropWhile isBlank = cs := by
  cases cs with
  | nil => rfl
  | cons c cs => rw [List.dropWhile_cons_of_neg (by simp [h c rfl])]

/-- What is left does not begin with white space. -/
theorem head?_dropWhile_isBlank (h : (cs.dropWhile isBlank).head? = some c) :
    isBlank c = false := by
  have hnot := List.head?_dropWhile_not isBlank cs
  rw [h] at hnot
  simpa using hnot

/-- What is left after trimming is trimmed. -/
theorem trimmed_trim (cs : List Char) : Trimmed (trim cs) := by
  have hsplit : cs.dropWhile isBlank = trim cs ++
      ((cs.dropWhile isBlank).reverse.takeWhile isBlank).reverse := by
    rw [trim, ← List.reverse_append, List.takeWhile_append_dropWhile, List.reverse_reverse]
  constructor
  · intro c hc
    have hhead : (cs.dropWhile isBlank).head? = some c := by
      rw [hsplit, List.head?_append, hc, Option.some_or]
    exact head?_dropWhile_isBlank hhead
  · intro c hc
    rw [trim, List.getLast?_reverse] at hc
    exact head?_dropWhile_isBlank hc

/-- White space before and after a trimmed text is dropped, and nothing
else. -/
theorem trim_append (hcs : Trimmed cs) (hbefore : Blank before) (hlater : Blank later) :
    trim (before ++ (cs ++ later)) = cs := by
  have hleft : (before ++ (cs ++ later)).dropWhile isBlank = (cs ++ later).dropWhile isBlank :=
    List.dropWhile_append_of_pos hbefore
  cases cs with
  | nil =>
    have hnothing : later.dropWhile isBlank = [] := List.dropWhile_eq_nil_iff.mpr hlater
    rw [trim, hleft, List.nil_append, hnothing]
    rfl
  | cons c cs =>
    have hkept : (c :: cs ++ later).dropWhile isBlank = c :: cs ++ later :=
      dropWhile_isBlank_of_head hcs.head
    have hright : (c :: cs ++ later).reverse.dropWhile isBlank =
        (c :: cs).reverse.dropWhile isBlank := by
      rw [List.reverse_append]
      exact List.dropWhile_append_of_pos fun d hd => hlater d (List.mem_reverse.mp hd)
    have hlast : (c :: cs).reverse.dropWhile isBlank = (c :: cs).reverse := by
      refine dropWhile_isBlank_of_head fun d hd => hcs.last d ?_
      rwa [List.head?_reverse] at hd
    rw [trim, hleft, hkept, hright, hlast, List.reverse_reverse]

/-- To trim a text twice does nothing more. -/
theorem trim_of_trimmed (hcs : Trimmed cs) : trim cs = cs := by
  have htrim : trim ([] ++ (cs ++ [])) = cs := trim_append hcs blank_nil blank_nil
  rwa [List.nil_append, List.append_nil] at htrim

/-- Two words that are trimmed on the outside, with a space between them. -/
theorem trimmed_append {ds : List Char} (hhead : ∀ c, cs.head? = some c → isBlank c = false)
    (hcs : cs ≠ []) (hlast : ∀ c, ds.getLast? = some c → isBlank c = false) (hds : ds ≠ []) :
    Trimmed (cs ++ ' ' :: ds) := by
  constructor
  · intro c hc
    rw [List.head?_append_of_ne_nil _ hcs] at hc
    exact hhead c hc
  · intro c hc
    rw [← List.singleton_append, ← List.append_assoc, List.getLast?_append_of_ne_nil _ hds] at hc
    exact hlast c hc

end Text

/-! ## What the text of a value ends with -/

namespace Json

/-- The characters of a number are no white space. -/
theorem isBlank_of_isNumberChar {c : Char} (hc : IsNumberChar c) : Text.isBlank c = false := by
  rcases hc with hc | rfl | rfl | rfl | rfl
  · have hdigit : 48 ≤ c.toNat ∧ c.toNat ≤ 57 := Char.isDigit_iff_toNat.mp hc
    simp only [Text.isBlank, Text.blanks, CharSet.has, List.any_cons, List.any_nil, Bool.or_false,
      Bool.or_eq_false_iff, Bool.and_eq_false_iff, decide_eq_false_iff_not]
    omega
  all_goals decide

/-- A number is written with digits, signs, points and exponent marks. -/
theorem isNumberChar_of_mem_number {n : Number} {c : Char} (hc : c ∈ n.chars) :
    IsNumberChar c := by
  cases n with
  | whole n hfits =>
    have hdigits : ∀ d ∈ Decimal.digitChars n.natAbs, IsNumberChar d :=
      fun d hd => isNumberChar_of_isDigit (isDigit_of_mem_digitChars hd)
    rw [Number.chars, Decimal.intChars] at hc
    split at hc
    · cases List.mem_cons.mp hc with
      | inl hminus => exact .inr (.inr (.inr (.inr hminus)))
      | inr hc => exact hdigits c hc
    · exact hdigits c hc
  | real x => exact isNumberChar_of_mem_chars hc

/-- The items of an array end with its bracket. -/
theorem getLast?_itemChars (xs : List Json) : (itemChars xs).getLast? = some ']' := by
  induction xs with
  | nil => rfl
  | cons x xs ih => simp [itemChars, List.getLast?_cons, List.getLast?_append, ih]

/-- The members of an object end with its brace. -/
theorem getLast?_memberChars (ms : List (String × Json)) :
    (memberChars ms).getLast? = some '\x7d' := by
  induction ms with
  | nil => rfl
  | cons m ms ih => simp [memberChars, List.getLast?_cons, List.getLast?_append, ih]

/-- The text of a value does not end with white space. -/
theorem isBlank_of_getLast?_chars {x : Json} {c : Char} (h : x.chars.getLast? = some c) :
    Text.isBlank c = false := by
  cases x with
  | null =>
    cases h
    decide
  | bool b =>
    cases b <;> cases h <;> decide
  | number n => exact isBlank_of_isNumberChar (isNumberChar_of_mem_number (List.mem_of_getLast? h))
  | string s =>
    obtain rfl : '"' = c := by
      simpa [chars, stringChars, List.getLast?_cons, List.getLast?_append] using h
    decide
  | array xs =>
    obtain rfl : ']' = c := by
      cases xs with
      | nil => exact Option.some.inj h
      | cons x xs =>
        simpa [chars, List.getLast?_cons, List.getLast?_append, getLast?_itemChars] using h
    decide
  | object ms =>
    obtain rfl : '\x7d' = c := by
      cases ms with
      | nil => exact Option.some.inj h
      | cons m ms =>
        simpa [chars, List.getLast?_cons, List.getLast?_append, getLast?_memberChars] using h
    decide

/-- No value is written as the empty text. -/
theorem chars_ne_nil {depth : Nat} {x : Json} (hx : x.Readable depth) : x.chars ≠ [] := by
  obtain ⟨c, cs, hcs, -⟩ := head_chars hx
  rw [hcs]
  exact List.cons_ne_nil c cs

end Json

namespace Command

/-! ## Words -/

section Words

variable {cs a b rest : List Char}

/-- A word ends at a U+0020, and what follows is kept as it is. -/
theorem splitWord_append (ha : ' ' ∉ a) (b : List Char) : splitWord (a ++ ' ' :: b) = (a, b) := by
  rw [splitWord, Text.splitAtSpace_eq_some_iff.mpr ⟨rfl, ha⟩, Option.getD_some]

/-- Without a U+0020 all of a text is one word. -/
theorem splitWord_of_not_mem (ha : ' ' ∉ a) : splitWord a = (a, []) := by
  rw [splitWord, Text.splitAtSpace_eq_none_iff.mpr ha, Option.getD_none]

/-- The first word of a text is the beginning of it. -/
theorem splitWord_fst (cs : List Char) :
    ' ' ∉ (splitWord cs).1 ∧ (splitWord cs).1 <+: cs := by
  cases hsplit : Text.splitAtSpace cs with
  | none =>
    have hspace := Text.splitAtSpace_eq_none_iff.mp hsplit
    rw [splitWord_of_not_mem hspace]
    exact ⟨hspace, List.prefix_refl cs⟩
  | some words =>
    obtain ⟨a, b⟩ := words
    obtain ⟨rfl, hspace⟩ := Text.splitAtSpace_eq_some_iff.mp hsplit
    rw [splitWord_append hspace]
    exact ⟨hspace, List.prefix_append _ _⟩

end Words

/-! ## What a line can give -/

/-- The binary64 numbers in a command. -/
def reals : Command → List Finite
  | .send _ data => data.reals
  | _ => []

/-- A command that some line gives.  The name of a service may have white
space inside, that of a packet may even end with it; but U+0020 would end
the name of a packet. -/
def Obtainable : Command → Prop
  | .subscribe service | .unsubscribe service => service ≠ "" ∧ Text.Trimmed service.toList
  | .send name data =>
    name ≠ "" ∧ ' ' ∉ name.toList ∧ (∀ c, name.toList.head? = some c → Text.isBlank c = false) ∧
      data.Shaped 127
  | .connect | .disconnect | .state | .help | .quit => True

/-- A line that gives a command holds a verb, and a text that is trimmed. -/
theorem exists_of_parse {text : String} {command : Command}
    (h : parse text = .ok (some command)) :
    ∃ verb rest, Text.Trimmed rest ∧ ofVerb verb rest = .ok command := by
  unfold parse at h
  split at h
  · cases h
  · cases hverb : ofVerb (splitWord (Text.trim text.toList)).1
        (Text.trim (splitWord (Text.trim text.toList)).2) with
    | error e => simp only [hverb, Except.map, reduceCtorEq] at h
    | ok command' =>
      simp only [hverb, Except.map] at h
      cases h
      exact ⟨_, _, Text.trimmed_trim _, hverb⟩

/-- A packet to send has a name, and data that was read from what follows on
it. -/
theorem eq_send_of_ofVerb {verb rest : List Char} {command : Command}
    (hsend : String.ofList verb = "send") (h : ofVerb verb rest = .ok command) :
    ∃ data, readData (splitWord rest).2 = .ok data ∧ (splitWord rest).1 ≠ [] ∧
      command = .send (String.ofList (splitWord rest).1) data := by
  simp only [ofVerb, hsend, String.reduceEq, or_self, if_false, if_true] at h
  cases hdata : readData (splitWord rest).2 with
  | error e => simp only [hdata, reduceCtorEq] at h
  | ok data =>
    simp only [hdata] at h
    split at h
    · contradiction
    next hname =>
    cases h
    exact ⟨data, rfl, hname, rfl⟩

/-- What a verb and a trimmed text give is a command that can be given. -/
theorem obtainable_of_ofVerb {verb rest : List Char} {command : Command}
    (hrest : Text.Trimmed rest) (h : ofVerb verb rest = .ok command) : command.Obtainable := by
  by_cases hsend : String.ofList verb = "send"
  · obtain ⟨data, hdata, hname, rfl⟩ := eq_send_of_ofVerb hsend h
    obtain ⟨hspace, later, hrest'⟩ := splitWord_fst rest
    rw [Obtainable, String.toList_ofList, ne_eq, String.ofList_eq_empty_iff]
    refine ⟨hname, hspace, fun c hc => hrest.head c ?_, shaped_of_readData hdata⟩
    rw [← hrest', List.head?_append, hc, Option.some_or]
  · have hservice (hne : rest ≠ []) :
        String.ofList rest ≠ "" ∧ Text.Trimmed (String.ofList rest).toList := by
      rw [ne_eq, String.ofList_eq_empty_iff, String.toList_ofList]
      exact ⟨hne, hrest⟩
    simp only [ofVerb, hsend, if_false] at h
    split_ifs at h <;> cases h
    · exact hservice ‹_›
    · exact hservice ‹_›
    all_goals trivial

/-- Every command that a line gives can be given. -/
theorem obtainable_of_parse {text : String} {command : Command}
    (h : parse text = .ok (some command)) : command.Obtainable := by
  obtain ⟨verb, rest, hrest, hverb⟩ := exists_of_parse h
  exact obtainable_of_ofVerb hrest hverb

/-! ## The line of a command -/

section Lines

variable {cs rest : List Char} {line before later : String}

/-- What a line gives depends on what trimming leaves of it. -/
theorem parse_of_trim {text : String} (htrim : Text.trim text.toList = cs) (hcs : cs ≠ []) :
    parse text = (ofVerb (splitWord cs).1 (Text.trim (splitWord cs).2)).map some := by
  unfold parse
  rw [htrim]
  split
  · contradiction
  · rfl

variable (hbefore : Text.Blank before.toList) (hlater : Text.Blank later.toList)

include hbefore hlater

/-- White space around a trimmed line is dropped. -/
theorem trim_around (hline : Text.Trimmed line.toList) :
    Text.trim (before ++ line ++ later).toList = line.toList := by
  rw [String.toList_append, String.toList_append, List.append_assoc]
  exact Text.trim_append hline hbefore hlater

/-- A verb alone, with white space around it. -/
theorem parse_verb (hverb : Text.Solid line.toList) (hne : line.toList ≠ []) :
    parse (before ++ line ++ later) = (ofVerb line.toList []).map some := by
  rw [parse_of_trim (trim_around hbefore hlater hverb.trimmed) hne,
    splitWord_of_not_mem hverb.not_mem, Text.trim_of_trimmed Text.trimmed_nil]

/-- A verb and a text that is trimmed, with white space around them. -/
theorem parse_words (verb : List Char) (hverb : Text.Solid verb) (hne : verb ≠ [])
    (hrest : Text.Trimmed rest) (hsome : rest ≠ [])
    (hline : line.toList = verb ++ ' ' :: rest) :
    parse (before ++ line ++ later) = (ofVerb verb rest).map some := by
  have htrimmed : Text.Trimmed line.toList := by
    rw [hline]
    exact Text.trimmed_append hverb.trimmed.head hne hrest.last hsome
  have htrim := trim_around hbefore hlater htrimmed
  rw [hline] at htrim
  rw [parse_of_trim htrim (List.append_ne_nil_of_left_ne_nil hne _),
    splitWord_append hverb.not_mem, Text.trim_of_trimmed hrest]

end Lines

/-! ## The verbs -/

/-- The verbs that name a service, with the commands that they give. -/
def serviceVerbs : List (String × (String → Command)) :=
  [("sub", .subscribe), ("unsub", .unsubscribe)]

/-- The verb for a service takes the rest of the line as its name. -/
theorem ofVerb_service {verb : String} {make : String → Command}
    (hverb : (verb, make) ∈ serviceVerbs) {service : String} (hservice : service ≠ "") :
    ofVerb verb.toList service.toList = .ok (make service) := by
  have hsome : service.toList ≠ [] := mt String.toList_eq_nil_iff.mp hservice
  simp only [serviceVerbs, List.mem_cons, Prod.mk.injEq, List.not_mem_nil, or_false] at hverb
  obtain ⟨rfl, rfl⟩ | ⟨rfl, rfl⟩ := hverb
  all_goals simp [ofVerb, hsome]

/-- The name of a packet ends at the first U+0020. -/
theorem ofVerb_send {name : String} {text : List Char} {data : Json} (hname : name ≠ "")
    (hspace : ' ' ∉ name.toList) (hdata : readData text = .ok data) :
    ofVerb "send".toList (name.toList ++ ' ' :: text) = .ok (.send name data) := by
  have hsome : name.toList ≠ [] := mt String.toList_eq_nil_iff.mp hname
  simp only [ofVerb, String.ofList_toList, String.reduceEq, or_self, if_true, if_false,
    splitWord_append hspace, hdata, hsome]

/-- What is written of a value is read as the data of a packet. -/
theorem readData_chars {data : Json} (hdata : data.Readable Json.maxDepth) :
    readData data.chars = .ok data := by
  have hsolid : data.chars.all Text.isBlank = false := by
    have hne := Json.chars_ne_nil hdata
    refine List.all_eq_false.mpr ⟨data.chars.getLast hne, List.getLast_mem hne, ?_⟩
    rw [Json.isBlank_of_getLast?_chars (List.getLast?_eq_some_getLast hne)]
    exact Bool.false_ne_true
  have hparse : Json.parse (String.ofList data.chars) = .ok data := Json.parse_render hdata
  simp only [readData, hsolid, Bool.false_eq_true, if_false, hparse, Except.mapError]

/-- The line of a command that names a service gives it. -/
theorem parse_service {verb : String} {make : String → Command}
    (hverb : (verb, make) ∈ serviceVerbs) (hsolid : Text.Solid verb.toList ∧ verb.toList ≠ [])
    {service : String} (hline : (make service).line = verb ++ " " ++ service)
    (hne : service ≠ "") (htrimmed : Text.Trimmed service.toList) {before later : String}
    (hbefore : Text.Blank before.toList) (hlater : Text.Blank later.toList) :
    parse (before ++ (make service).line ++ later) = .ok (some (make service)) := by
  have hchars : (make service).line.toList = verb.toList ++ ' ' :: service.toList := by
    rw [hline, String.toList_append, String.toList_append, List.append_assoc]
    rfl
  rw [parse_words hbefore hlater verb.toList hsolid.1 hsolid.2 htrimmed
    (mt String.toList_eq_nil_iff.mp hne) hchars, ofVerb_service hverb hne]
  rfl

/-- What a line could give is given by its own line, with any white space
around it. -/
theorem parse_line {command : Command} (hcommand : command.Obtainable)
    (hreals : ∀ x ∈ command.reals, x.ReadsBack) {before later : String}
    (hbefore : Text.Blank before.toList) (hlater : Text.Blank later.toList) :
    parse (before ++ command.line ++ later) = .ok (some command) := by
  cases command with
  | subscribe service =>
    have hverb : ("sub", subscribe) ∈ serviceVerbs := List.mem_cons_self
    exact parse_service hverb (by decide) rfl hcommand.1 hcommand.2 hbefore hlater
  | unsubscribe service =>
    have hverb : ("unsub", unsubscribe) ∈ serviceVerbs := List.mem_cons_of_mem _ List.mem_cons_self
    exact parse_service hverb (by decide) rfl hcommand.1 hcommand.2 hbefore hlater
  | send name data =>
    obtain ⟨hne, hspace, hhead, hshaped⟩ := hcommand
    have hdata : data.Readable Json.maxDepth := ⟨hshaped, hreals⟩
    have hsome : name.toList ≠ [] := mt String.toList_eq_nil_iff.mp hne
    have htrimmed : Text.Trimmed (name.toList ++ ' ' :: data.chars) :=
      Text.trimmed_append hhead hsome (fun c hc => Json.isBlank_of_getLast?_chars hc)
        (Json.chars_ne_nil hdata)
    have hline : (line (.send name data)).toList =
        "send".toList ++ ' ' :: (name.toList ++ ' ' :: data.chars) := by
      simp only [line, String.toList_append, Json.render, String.toList_ofList, List.append_assoc]
      rfl
    rw [parse_words hbefore hlater "send".toList (by decide) (by decide) htrimmed
      (List.append_ne_nil_of_left_ne_nil hsome _) hline,
      ofVerb_send hne hspace (readData_chars hdata)]
    rfl
  | connect => exact parse_verb hbefore hlater (by decide) (by decide)
  | disconnect => exact parse_verb hbefore hlater (by decide) (by decide)
  | state => exact parse_verb hbefore hlater (by decide) (by decide)
  | help => exact parse_verb hbefore hlater (by decide) (by decide)
  | quit => exact parse_verb hbefore hlater (by decide) (by decide)

/-- What was read from any line is read from its own line as well, with any
white space around it.  And what any line can give is known by the command
alone: a name does not begin with white space, that of a service does not
end with it, that of a packet holds no U+0020, and the data of a packet
nests at most 127 deep. -/
theorem parse_line_and_obtainable :
    (∀ (text : String) (command : Command), parse text = .ok (some command) →
      (∀ x ∈ command.reals, x.ReadsBack) →
      ∀ before later : String, Text.Blank before.toList → Text.Blank later.toList →
        parse (before ++ command.line ++ later) = .ok (some command)) ∧
    ∀ command : Command, (∀ x ∈ command.reals, x.ReadsBack) →
      ((∃ text, parse text = .ok (some command)) ↔ command.Obtainable) := by
  constructor
  · intro text command hparse hreals before later hbefore hlater
    exact parse_line (obtainable_of_parse hparse) hreals hbefore hlater
  · intro command hreals
    constructor
    · rintro ⟨text, hparse⟩
      exact obtainable_of_parse hparse
    · intro hcommand
      have hline : parse ("" ++ command.line ++ "") = .ok (some command) :=
        parse_line hcommand hreals Text.blank_nil Text.blank_nil
      exact ⟨_, hline⟩

/-- A tab and a no-break space in the name of a packet, another tab at its
end, and other white space around the line. -/
theorem parse_line_tabs :
    let half : Finite := ⟨false, 1022 * Binary64.binade, by decide⟩
    let command : Command := .send "a\t\u00a0b\t" (.array [.number (.real half), .null])
    (∀ x ∈ command.reals, x.ReadsBack) ∧
    parse "\u3000send \t a\t\u00a0b\t [0.50, null]\n" = .ok (some command) ∧
    parse ("\u2003\t" ++ command.line ++ "\u00a0 ") = .ok (some command) ∧
    command.Obtainable ∧ ∀ text, parse text ≠ .ok (some (.subscribe "news\u2003")) := by
  intro half command
  have hreals : ∀ x ∈ command.reals, x.ReadsBack := by
    refine List.forall_mem_singleton.mpr ?_
    unfold Finite.ReadsBack
    decide +kernel
  have hparse : parse "\u3000send \t a\t\u00a0b\t [0.50, null]\n" = .ok (some command) := by
    decide +kernel
  obtain ⟨hline, hobtainable⟩ := parse_line_and_obtainable
  refine ⟨hreals, hparse, hline _ _ hparse hreals _ _ (by decide) (by decide),
    (hobtainable _ hreals).mp ⟨_, hparse⟩, fun text htext => ?_⟩
  obtain ⟨-, htrimmed⟩ :=
    (hobtainable (.subscribe "news\u2003") (List.forall_mem_nil _)).mp ⟨text, htext⟩
  exact absurd (htrimmed.last '\u2003' rfl) (by decide)

end Command

end PushRelay
