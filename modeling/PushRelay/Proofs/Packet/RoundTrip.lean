import PushRelay.Packet.Frame
import PushRelay.Proofs.Json.Nesting

/-!
# PushRelay.Proofs.Packet.RoundTrip

A packet that fits a frame is read back from it.

The frame is an object around the data, so the data may nest one level less
than a JSON text.  The members of that object do not stand in the order in
which the reader keeps them, but the reader puts them there
(`Json.parse_object`).
-/

namespace PushRelay

namespace Packet

open Json (Readable Shaped)

/-- The object that is written for a packet. -/
def toJson (p : Packet Json) : Json := .object [("name", .string p.name), ("data", p.data)]

theorem chars_toJson (p : Packet Json) :
    p.toJson.chars = '\x7b' :: (Json.stringChars "name" ++ ':' :: (Json.stringChars p.name ++
      ',' :: (Json.stringChars "data" ++ ':' :: (p.data.chars ++ ['\x7d'])))) := rfl

/-- A frame is the compact text of its object. -/
theorem text_eq_render (p : Packet Json) : p.text = p.toJson.render := by
  have hopen : "\x7b\"name\":".toList = '\x7b' :: (Json.stringChars "name" ++ [':']) := by
    decide +kernel
  have hcomma : ",\"data\":".toList = ',' :: (Json.stringChars "data" ++ [':']) := by
    decide +kernel
  rw [text, Json.render, chars_toJson]
  unfold textWith
  -- with the two names in the goal, each rewriting would compute their texts
  generalize Json.stringChars "name" = name at *
  generalize Json.stringChars "data" = data at *
  rw [hopen, hcomma]
  simp only [List.cons_append, List.append_assoc, List.nil_append]

/-- The members of a frame, in the order in which the reader keeps them. -/
theorem ofMembers_toJson (name : String) (data : Json) :
    Json.ofMembers [("name", .string name), ("data", data)] =
      .object [("data", data), ("name", .string name)] := by
  have hbefore : compare "data" "name" = .lt := by decide
  simp only [Json.ofMembers, Entries.insertAll, List.foldl_cons, List.foldl_nil, Entries.insert,
    hbefore]

/-- A packet can be read back if its data can. -/
theorem readable_toJson {p : Packet Json} {depth : Nat} (hp : p.data.Readable depth) :
    ∀ m ∈ [("name", Json.string p.name), ("data", p.data)], m.2.Readable depth := by
  have hname : (Json.string p.name).Readable depth :=
    ⟨Json.shaped_of_depth_eq_zero rfl, List.forall_mem_nil _⟩
  exact List.forall_mem_cons.mpr ⟨hname, List.forall_mem_singleton.mpr hp⟩

/-- A frame is read as the packet that it was written for. -/
theorem decode_text {p : Packet Json} (hp : p.data.Readable 126)
    (hsize : p.text.utf8ByteSize ≤ maxFrameSize) : decode p.text = .ok p := by
  have hparse : Json.parse p.text = .ok (.object [("data", p.data), ("name", .string p.name)]) := by
    rw [text_eq_render, toJson, Json.parse_object (readable_toJson hp), ofMembers_toJson]
  rw [decode_eq_ok_iff]
  refine ⟨_, decodeFrame_eq_ok_iff.mpr ⟨hsize, hparse⟩, ofJson_eq_ok_iff.mpr ⟨?_, ?_⟩⟩
  · simp [Json.member?, Entries.find?]
  · simp [Json.member?, Entries.find?]

/-- A frame around data that nests deeper is not read. -/
theorem decode_text_of_deep {p : Packet Json} {depth : Nat} (hp : p.data.Readable depth)
    (hdeep : 126 < p.data.depth) (hsize : p.text.utf8ByteSize ≤ maxFrameSize) :
    decode p.text = .error (.json .malformed) := by
  have hparse : Json.parse p.text = .error .malformed := by
    rw [text_eq_render, toJson]
    exact Json.parse_object_of_deep (readable_toJson hp)
      ⟨("data", p.data), List.mem_cons_of_mem _ List.mem_cons_self, hdeep⟩
  have hfits : checkSize p.text.utf8ByteSize = .ok () := if_neg (Nat.not_lt.mpr hsize)
  simp only [decode, decodeFrame, hfits, hparse, Except.mapError]

/-- The data of a packet that was read nests one level less than a text
may. -/
theorem shaped_of_decode {u : String} {p : Packet Json} (h : decode u = .ok p) :
    p.data.Shaped 126 := by
  obtain ⟨value, hframe, hpacket⟩ := decode_eq_ok_iff.mp h
  obtain ⟨-, hparse⟩ := decodeFrame_eq_ok_iff.mp hframe
  obtain ⟨hname, hdata⟩ := ofJson_eq_ok_iff.mp hpacket
  have hvalue : value.Shaped Json.maxDepth := Json.shaped_of_parse hparse
  cases value with
  | object ms =>
    obtain ⟨-, hms⟩ := Json.shaped_object_iff.mp hvalue
    rw [hdata]
    cases hmember : (Json.object ms).member? "data" with
    | none => exact Json.shaped_of_depth_eq_zero rfl
    | some data => exact hms _ (Entries.mem_of_find?_eq_some hmember)
  | _ => contradiction

/-- Packets and their frames.

1. A packet is written as the compact text of its object, unless that has
   more bytes than a frame may have; then their number is reported.
2. If its data nests at most 126 deep, the frame is read as that packet.
3. So packets with the same frame are the same.
4. A frame that was written for a packet that was read is read like the text
   of that packet, and is written again for what is read. -/
theorem frame_roundTrip :
    (∀ p : Packet Json, p.encode = (if 65536 < p.toJson.render.utf8ByteSize then
      .error (.frameTooLarge p.toJson.render.utf8ByteSize 65536) else .ok p.toJson.render)) ∧
    (∀ (p : Packet Json) (t : String), p.data.Readable 126 → p.encode = .ok t →
      decode t = .ok p) ∧
    (∀ (p q : Packet Json) (t : String), p.data.Readable 126 → q.data.Readable 126 →
      p.encode = .ok t → q.encode = .ok t → p = q) ∧
    ∀ (u : String) (p : Packet Json) (t : String), decode u = .ok p →
      (∀ x ∈ p.data.reals, x.ReadsBack) → p.encode = .ok t →
      decode t = decode u ∧ ∀ q, decode t = .ok q → q.encode = .ok t := by
  have hencode : ∀ p : Packet Json, p.encode =
      (if 65536 < p.toJson.render.utf8ByteSize then
        .error (.frameTooLarge p.toJson.render.utf8ByteSize 65536) else .ok p.toJson.render) := by
    intro p
    rw [encode, checkSize, text_eq_render, maxFrameSize]
    split <;> rfl
  have hdecode : ∀ {p : Packet Json} {t : String}, p.data.Readable 126 → p.encode = .ok t →
      decode t = .ok p := by
    intro p t hp ht
    obtain ⟨rfl, hsize⟩ := encode_eq_ok_iff.mp ht
    exact decode_text hp hsize
  refine ⟨hencode, fun p t hp ht => hdecode hp ht, ?_, ?_⟩
  · intro p q t hp hq hpt hqt
    have hsame : Except.ok p = Except.ok q := (hdecode hp hpt).symm.trans (hdecode hq hqt)
    exact Except.ok.inj hsame
  · intro u p t hu hreals ht
    have hread : decode t = .ok p := hdecode ⟨shaped_of_decode hu, hreals⟩ ht
    refine ⟨hread.trans hu.symm, fun q hq => ?_⟩
    have hsame : Except.ok p = Except.ok q := hread.symm.trans hq
    rw [← Except.ok.inj hsame]
    exact ht

/-- A text with the members in the other order, one member more and other
escapes gives the same packet, and the frame of the packet is read back. -/
theorem frame_roundTrip_reordered :
    let half : Finite := ⟨false, 1022 * Binary64.binade, by decide⟩
    let data (x : Json) : Json := .array [.number (.whole 18446744073709551615 (by decide)),
      .number (.whole (-9223372036854775808) (by decide)), .number (.real half), x]
    let p : Packet Json := ⟨"\u00e9\n",
      data (.object [("\u0001", .string "\u20ac\"\\"), ("a", .array [])]), by decide⟩
    let q : Packet Json := ⟨"\u00e9\n",
      data (Json.ofMembers [("a", .array []), ("\u0001", .string "\u20ac\"\\")]), by decide⟩
    let u := "\x7b\"data\": [18446744073709551615, -9223372036854775808, 5E-1, \x7b\"a\": [], " ++
      "\"\\u0001\": \"\\u20AC\\\"\\\\\"\x7d], \"name\": \"\u00e9\\n\", \"size\": 4 \x7d"
    let t := "\x7b\"name\":\"\u00e9\\n\",\"data\":[18446744073709551615," ++
      "-9223372036854775808,0.5,\x7b\"\\u0001\":\"\u20ac\\\"\\\\\",\"a\":[]\x7d]\x7d"
    p.data.Readable 126 ∧ q.data.Readable 126 ∧ p.encode = .ok t ∧ q.encode = .ok t ∧
      decode u = .ok p ∧ decode t = .ok p ∧ p = q ∧ decode t = decode u ∧
      ∀ r, decode t = .ok r → r.encode = .ok t := by
  intro half data p q u t
  have hhalf : half.ReadsBack := by
    unfold Finite.ReadsBack
    decide +kernel
  have hu : decode u = .ok p := by decide +kernel
  have hp : p.data.Readable 126 := ⟨shaped_of_decode hu, List.forall_mem_singleton.mpr hhalf⟩
  have hq : q.data.Readable 126 := hp
  have hpt : p.encode = .ok t := by decide +kernel
  have hqt : q.encode = .ok t := by decide +kernel
  obtain ⟨-, hread, hsame, hagain⟩ := frame_roundTrip
  obtain ⟨hboth, hstays⟩ := hagain u p t hu hp.readsBack hpt
  exact ⟨hp, hq, hpt, hqt, hu, hread p t hp hpt, hsame p q t hp hq hpt hqt, hboth, hstays⟩

end Packet

end PushRelay
