import PushRelay.Packet.Frame
import PushRelay.Json.Skipping

/-!
# PushRelay.Packet.Typed

Reading a packet with data of a known shape straight from its text.

Unlike `Packet.decode` this reads field by field and builds nothing but
the fields:

1. an object has each of `name` and `data` once, in any order; members of
   other names are passed over;
2. `data` may be missing only if its shape has a value for that case;
3. an array of exactly the name and the data is accepted as well;
4. there is no limit on the size of the text.

A field of the wrong shape, a repeated or missing field, and an empty name
are reported as `Json.Fault.mismatched`, at the place where the reader
meets them; faults further on are not seen any more.
-/

namespace PushRelay

namespace Packet

open Json

variable {α : Type}

/-! ## Shapes of data -/

/-- How data of one kind is read and written. -/
structure Shape (α : Type) where
  /-- reads the data from the head of a text, with at most `depth` arrays
  and objects open at a time -/
  read : (fuel depth : Nat) → List Char → Reading α
  /-- the value of missing data -/
  absent : Option α
  /-- the text of the data -/
  chars : α → List Char

/-- The fault of a value of the wrong shape that begins with `c`: literals,
numbers and strings must still be well-formed. -/
def wrongShape (c : Char) (cs : List Char) : Fault :=
  if c = '[' ∨ c = '\x7b' then .mismatched
  else match readAtom c cs with
    | .error e => e
    | .ok _ => .mismatched

/-- Reads a string. -/
def readText (cs : List Char) : Reading String :=
  match skipBlanks cs with
  | [] => .error .truncated
  | c :: cs => if c = '"' then readString cs else .error (wrongShape c cs)

/-- Reads a whole number from `low` to `high`. -/
def readInt (low high : Int) (cs : List Char) : Reading Int :=
  match skipBlanks cs with
  | [] => .error .truncated
  | c :: cs =>
    if c = '-' ∨ c.isDigit then
      match readNumber (c :: cs) with
      | .error e => .error e
      | .ok (.whole n _, cs) =>
        if low ≤ n ∧ n ≤ high then .ok (n, cs) else .error .mismatched
      | .ok (.real _, _) => .error .mismatched
    else .error (wrongShape c cs)

/-- Reads a truth value or null. -/
def readFlag (cs : List Char) : Reading (Option Bool) :=
  match skipBlanks cs with
  | [] => .error .truncated
  | c :: cs =>
    if c = 'n' ∨ c = 't' ∨ c = 'f' then
      match readAtom c cs with
      | .error e => .error e
      | .ok (.bool b, cs) => .ok (some b, cs)
      | .ok (_, cs) => .ok (none, cs)
    else .error (wrongShape c cs)

/-- Reads an array of elements. -/
def readList (item : List Char → Reading α) (fuel depth : Nat) (cs : List Char) :
    Reading (List α) :=
  match skipBlanks cs with
  | [] => .error .truncated
  | c :: cs =>
    if c = '[' then if depth = 0 then .error .malformed else readArray item fuel cs
    else .error (wrongShape c cs)

namespace Shape

/-- Any JSON value. -/
def value : Shape Json := ⟨readValue, none, Json.chars⟩

/-- The least signed whole number of 64 bits, `-2 ^ 63`. -/
abbrev int64Min : Int := -9223372036854775808

/-- The largest signed whole number of 64 bits, `2 ^ 63 - 1`. -/
abbrev int64Max : Int := 9223372036854775807

/-- A signed whole number of 64 bits. -/
def int64 : Shape Int := ⟨fun _ _ => readInt int64Min int64Max, none, Decimal.intChars⟩

/-- An unsigned whole number of 8 bits. -/
def byte : Shape Int := ⟨fun _ _ => readInt 0 255, none, Decimal.intChars⟩

def string : Shape String := ⟨fun _ _ => readText, none, stringChars⟩

/-- A truth value or null; missing data is null. -/
def flag : Shape (Option Bool) where
  read _ _ := readFlag
  absent := some none
  chars b := match b with
    | none => Json.chars .null
    | some b => Json.chars (.bool b)

/-- An array of signed whole numbers of 64 bits. -/
def int64s : Shape (List Int) where
  read := readList (readInt int64Min int64Max)
  absent := none
  chars ns := '[' :: [','].intercalate (ns.map Decimal.intChars) ++ [']']

end Shape

/-! ## Fields -/

/-- The fields of a packet that were read so far. -/
structure Fields (α : Type) where
  name : Option String := none
  data : Option α := none

/-- The packet of complete fields. -/
def ofFields (absent : Option α) (f : Fields α) : Except Fault (String × α) :=
  match f.name, f.data.or absent with
  | some name, some data => .ok (name, data)
  | _, _ => .error .mismatched

/-- Reads the field whose name has been read. -/
def readField (s : Shape α) (fuel depth : Nat) (name : String) (f : Fields α)
    (cs : List Char) : Reading (Fields α) :=
  if name = "name" then
    if f.name.isSome then .error .mismatched
    else match expectMark ':' cs with
      | .error e => .error e
      | .ok cs => (readText cs).map fun (x, cs) => ({ f with name := some x }, cs)
  else if name = "data" then
    if f.data.isSome then .error .mismatched
    else match expectMark ':' cs with
      | .error e => .error e
      | .ok cs => (s.read fuel depth cs).map fun (x, cs) => ({ f with data := some x }, cs)
  else match expectMark ':' cs with
    | .error e => .error e
    | .ok cs => (skipValue fuel cs).map fun cs => (f, cs)

/-- Reads members up to the closing brace, at least one.  `rounds` bounds
their number. -/
def readFields (s : Shape α) (fuel depth : Nat) :
    (rounds : Nat) → Fields α → List Char → Reading (String × α)
  | 0, _, _ => .error .truncated
  | rounds + 1, f, cs =>
    match expectMark '"' cs with
    | .error e => .error e
    | .ok cs =>
      match readString cs with
      | .error e => .error e
      | .ok (name, cs) =>
        match readField s fuel depth name f cs with
        | .error e => .error e
        | .ok (f, cs) =>
          match skipBlanks cs with
          | [] => .error .truncated
          | c :: cs =>
            if c = '\x7d' then (ofFields s.absent f).map fun p => (p, cs)
            else if c = ',' then readFields s fuel depth rounds f cs
            else .error .malformed

/-- Reads the name and the data of an array behind its opening bracket. -/
def readPair (s : Shape α) (fuel depth : Nat) (cs : List Char) : Reading (String × α) :=
  match skipBlanks cs with
  | [] => .error .truncated
  | ']' :: _ => .error .mismatched
  | c :: cs =>
    match readText (c :: cs) with
    | .error e => .error e
    | .ok (name, cs) =>
      match skipBlanks cs with
      | [] => .error .truncated
      | ']' :: _ => .error .mismatched
      | ',' :: cs =>
        if (skipBlanks cs).head? = some ']' then .error .malformed
        else match s.read fuel depth cs with
          | .error e => .error e
          | .ok (data, cs) => (expectMark ']' cs).map fun cs => ((name, data), cs)
      | _ => .error .malformed

/-- Reads the name and the data of a packet. -/
def readParts (s : Shape α) (fuel depth : Nat) (cs : List Char) : Reading (String × α) :=
  match skipBlanks cs with
  | [] => .error .truncated
  | c :: cs =>
    if c = '[' ∨ c = '\x7b' then
      match depth with
      | 0 => .error .malformed
      | depth + 1 =>
        if c = '[' then readPair s fuel depth cs
        else match skipBlanks cs with
          | [] => .error .truncated
          | '\x7d' :: cs => (ofFields s.absent {}).map fun p => (p, cs)
          | c :: cs => readFields s fuel depth fuel {} (c :: cs)
    else .error (wrongShape c cs)

/-- Reads a packet. -/
def readPacket (s : Shape α) (fuel depth : Nat) (cs : List Char) : Reading (Packet α) :=
  match readParts s fuel depth cs with
  | .error e => .error e
  | .ok ((name, data), cs) =>
    if h : name = "" then .error .mismatched else .ok (⟨name, data, h⟩, cs)

/-- Reads the packet that a text is. -/
def parse (s : Shape α) (text : String) : Except Fault (Packet α) :=
  readAll (fun fuel => readPacket s fuel maxDepth) text.toList

/-- The text of a packet with data of the given shape. -/
def shapedText (s : Shape α) (p : Packet α) : List Char := textWith p.name (s.chars p.data)

/-- A packet as the data of another. -/
def Shape.packet (s : Shape α) : Shape (Packet α) := ⟨readPacket s, none, shapedText s⟩

end Packet

end PushRelay
