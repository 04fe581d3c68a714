import PushRelay.Packet.Basic
import PushRelay.Json.Reader

/-!
# PushRelay.Packet.Frame

Packets as text frames.

1. A frame is the compact JSON text of an object with the members `name`
   and `data`, in this order.
2. A frame has at most `maxFrameSize` bytes of UTF-8, both when it is
   written and when it is read; on reading the size is looked at before
   the text.
3. Read as a packet, a frame is an object with a `name` that is a string
   and not empty.  Missing `data` is null, and other members are ignored.
-/

namespace PushRelay

/-- The most bytes that a frame may have. -/
def maxFrameSize : Nat := 65536

namespace Packet

/-- The text of a packet whose data has the given text. -/
def textWith (name : String) (data : List Char) : List Char :=
  "\x7b\"name\":".toList ++ Json.stringChars name ++ ",\"data\":".toList ++ data ++ ['\x7d']

/-- The text of a packet. -/
def text (p : Packet Json) : String := String.ofList (textWith p.name p.data.chars)

/-- Fails on more bytes than a frame may have. -/
def checkSize (size : Nat) : Except RelayError Unit :=
  if maxFrameSize < size then .error (.frameTooLarge size maxFrameSize) else .ok ()

/-- The frame of a packet. -/
def encode (p : Packet Json) : Except RelayError String :=
  (checkSize p.text.utf8ByteSize).map fun _ => p.text

/-- The JSON value of a frame. -/
def decodeFrame (text : String) : Except RelayError Json :=
  match checkSize text.utf8ByteSize with
  | .error e => .error e
  | .ok _ => (Json.parse text).mapError .json

/-- The packet that a JSON value stands for. -/
def ofJson (value : Json) : Except RelayError (Packet Json) :=
  match value.member? "name" with
  | some (.string name) =>
    if h : name = "" then .error .malformedPacket
    else .ok ⟨name, (value.member? "data").getD .null, h⟩
  | _ => .error .malformedPacket

/-- The packet of a frame. -/
def decode (text : String) : Except RelayError (Packet Json) :=
  match decodeFrame text with
  | .error e => .error e
  | .ok value => ofJson value

/-! ## Laws -/

/-- A packet has its text for a frame, if that is short enough. -/
theorem encode_eq_ok_iff {p : Packet Json} {frame : String} :
    p.encode = .ok frame ↔ frame = p.text ∧ p.text.utf8ByteSize ≤ maxFrameSize := by
  unfold encode checkSize
  split
  · simp [Except.map]; omega
  · simp [Except.map, eq_comm]; omega

/-- What keeps a packet from being a frame is its size alone, which the error
tells. -/
theorem encode_eq_error_iff {p : Packet Json} {e : RelayError} :
    p.encode = .error e ↔
      maxFrameSize < p.text.utf8ByteSize ∧ e = .frameTooLarge p.text.utf8ByteSize maxFrameSize := by
  unfold encode checkSize
  split
  · simp_all [Except.map, eq_comm]
  · simp [Except.map]; omega

/-- A frame is read if it is short enough and a JSON text. -/
theorem decodeFrame_eq_ok_iff {text : String} {value : Json} :
    decodeFrame text = .ok value ↔
      text.utf8ByteSize ≤ maxFrameSize ∧ Json.parse text = .ok value := by
  unfold decodeFrame checkSize
  by_cases hsize : maxFrameSize < text.utf8ByteSize
  · rw [if_pos hsize]
    simp only [reduceCtorEq, false_iff, not_and]
    omega
  · rw [if_neg hsize]
    have hle : text.utf8ByteSize ≤ maxFrameSize := by omega
    cases Json.parse text with
    | error e => exact ⟨nofun, nofun⟩
    | ok v => exact ⟨fun h => ⟨hle, congrArg _ (Except.ok.inj h)⟩,
        fun h => congrArg _ (Except.ok.inj h.2)⟩

/-- A message is a packet if it has a name; without data its data is null. -/
theorem ofJson_eq_ok_iff {value : Json} {p : Packet Json} :
    ofJson value = .ok p ↔
      value.member? "name" = some (.string p.name) ∧
        p.data = (value.member? "data").getD .null := by
  obtain ⟨name, data, hname⟩ := p
  unfold ofJson
  split
  · next name' hmember =>
    rw [hmember]
    by_cases hempty : name' = ""
    · subst hempty
      simp [Ne.symm hname]
    · simp [hempty, eq_comm]
  · next hmember =>
    simp only [reduceCtorEq, false_iff, not_and]
    intro h
    exact absurd h (hmember name)

/-- A frame is a packet if what it says is one. -/
theorem decode_eq_ok_iff {text : String} {p : Packet Json} :
    decode text = .ok p ↔ ∃ value, decodeFrame text = .ok value ∧ ofJson value = .ok p := by
  unfold decode
  cases decodeFrame text with
  | error e => simp
  | ok value => simp

end Packet

end PushRelay
