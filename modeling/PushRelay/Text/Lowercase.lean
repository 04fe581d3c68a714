import PushRelay.Text.Casing

/-!
# PushRelay.Text.Lowercase

Lower-casing a whole text, by which names are compared without regard to
case.  Three rules, in this order:

1. a capital sigma becomes a final sigma where a letter stands before it
   and none after it, and an ordinary sigma elsewhere;
2. a capital I with a dot becomes an i followed by a combining dot;
3. every other character becomes its lower-case form, or stays.
-/

namespace PushRelay

namespace Text

/-- The lower-case form of a character that stands by itself. -/
def lowerChar (c : Char) : List Char :=
  if c = '\u0130' then ['i', '\u0307']
  else match caseRuns.find? (·.has c.toNat) with
    | some r => [Char.ofNat (c.toNat + r.shift).toNat]
    | none => [c]

/-- Whether the first character that is not passed over has a case. -/
def meetsCased (cs : List Char) : Bool :=
  match cs.dropWhile caseIgnorable.has with
  | [] => false
  | c :: _ => cased.has c

/-- Lower-cases `cs`, where `before` is the text in front of it, last
character first. -/
def lowerAfter (before : List Char) : List Char → List Char
  | [] => []
  | c :: cs =>
    let form :=
      if c = '\u03A3' then
        [if meetsCased before && !meetsCased cs then '\u03C2' else '\u03C3']
      else lowerChar c
    form ++ lowerAfter (c :: before) cs

/-- The lower-case form of a text. -/
def lowercase (s : String) : String := String.ofList (lowerAfter [] s.toList)

example : lowercase "CLOCK 42" = "clock 42" := by decide +kernel

example : lowercase "\u0391\u03A3 \u03A3" = "\u03B1\u03C2 \u03C3" := by decide +kernel

end Text

end PushRelay
