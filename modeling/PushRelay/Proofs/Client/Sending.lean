import Mathlib.Data.String.Basic
import PushRelay.Proofs.Client.Run
import PushRelay.Proofs.Connection.Ledger
import PushRelay.Proofs.Packet.RoundTrip
import PushRelay.Transport.Socket

/-!
# PushRelay.Proofs.Client.Sending

What a client sends on a command, and what a router reads of it.

1. A command that sends a packet makes one entry in the journal if the
   packet is accepted.  Otherwise it says so to the user
   (`journal_sendOrReport`).
2. The data of a packet that a user asks for was read from a line, so it
   nests at most as deep as a JSON text may.  Its frame is an object around
   it and may nest one level deeper than that; then it is sent all the same,
   and is not read (`send_outcome`).
-/

namespace PushRelay

/-! ## The data of a command -/

namespace Command

/-- The data of a command was read, so it nests no deeper than the reader
goes. -/
theorem shaped_of_readData {cs : List Char} {data : Json} (h : readData cs = .ok data) :
    data.Shaped Json.maxDepth := by
  unfold readData at h
  split at h
  · cases h
    exact Json.shaped_of_depth_eq_zero rfl
  · cases hparse : Json.parse (String.ofList cs) with
    | error e =>
      rw [hparse] at h
      contradiction
    | ok x =>
      rw [hparse] at h
      cases h
      exact Json.shaped_of_parse hparse

/-- Of all verbs one alone makes a packet. -/
theorem shaped_of_ofVerb {verb rest : List Char} {name : String} {data : Json}
    (h : ofVerb verb rest = .ok (.send name data)) : data.Shaped Json.maxDepth := by
  by_cases hsend : String.ofList verb = "send"
  · have hdata : readData (splitWord rest).2 = .ok data := by
      simp only [ofVerb, hsend, String.reduceEq, or_self, if_false, if_true] at h
      cases hread : readData (splitWord rest).2 with
      | error e =>
        simp only [hread, reduceCtorEq] at h
      | ok x =>
        simp only [hread] at h
        split at h
        · cases h
        · cases h
          rfl
    exact shaped_of_readData hdata
  · simp only [ofVerb, hsend, if_false] at h
    split_ifs at h <;> cases h

/-- The data that a line holds nests at most as deep as a JSON text may. -/
theorem shaped_of_parse {line name : String} {data : Json}
    (h : parse line = .ok (some (.send name data))) : data.Shaped Json.maxDepth := by
  unfold parse at h
  split at h
  · cases h
  · cases hverb : ofVerb (splitWord (Text.trim line.toList)).1
        (Text.trim (splitWord (Text.trim line.toList)).2) with
    | error e =>
      simp only [hverb, Except.map, reduceCtorEq] at h
    | ok command =>
      simp only [hverb, Except.map] at h
      cases h
      exact shaped_of_ofVerb hverb

/-- A line of the verb, a name and a text gives the command to send. -/
theorem parse_send {cs rest name text : List Char} {data : Json}
    (hverb : splitWord (Text.trim cs) = ("send".toList, rest))
    (hname : splitWord (Text.trim rest) = (name, text)) (hne : name ≠ [])
    (hdata : readData text = .ok data) :
    parse (String.ofList cs) = .ok (some (.send (String.ofList name) data)) := by
  unfold parse
  rw [String.toList_ofList]
  split
  · next hblank => simp [hblank, splitWord, Text.splitAtSpace] at hverb
  · simp only [hverb, ofVerb, String.ofList_toList, String.reduceEq, or_self, if_false, if_true,
      hname, hdata, hne, Except.map]

end Command

namespace Client

variable {γ τ : Type} [Transport τ] {c : Client γ τ}

/-! ## What a command writes -/

/-- What the user is told of a packet that was not accepted. -/
def refusal (action name : String) : Entry :=
  .printed (.text ("* " ++ action ++ " " ++ name ++ " not sent, connection is not open"))

/-- The current transport `t` is open, and accepts `frame` as the frame of a
packet. -/
structure Accepts (c : Client γ τ) (p : Packet Json) (t : Nat) (frame : String) : Prop where
  current : c.connection.own = some t
  encode : p.encode = .ok frame
  accepted : ∃ x, c.connection.transports[t]? = some x ∧ Transport.state x = .opened ∧
    (Transport.send frame x).1 = .ok ()

/-- A packet that is accepted is handed over, and nothing is said. -/
theorem journal_sendOrReport_of_accepted {p : Packet Json} {t : Nat} {frame : String}
    (h : c.Accepts p t frame) (action name : String) :
    (c.sendOrReport p action name).connection.journal =
      c.connection.journal ++ [.sent t frame true] := by
  obtain ⟨x, hx, hopened, hsent⟩ := h.accepted
  have hpayload : (Outbound.packet p).frame = .ok frame := h.encode
  have haccepted : (Transport.send frame x).1.isOk = true := by
    rw [hsent]
    rfl
  have hsend := Connection.sendOn_of_frame hx hopened hpayload
  simp only [sendOrReport, Connection.send, h.current, hsend, haccepted, if_true]
  rfl

/-- Otherwise the user is told, whether the packet was handed over or not. -/
theorem journal_sendOrReport (c : Client γ τ) (p : Packet Json) (action name : String) :
    (∃ t frame, c.Accepts p t frame ∧ (c.sendOrReport p action name).connection.journal =
      c.connection.journal ++ [.sent t frame true]) ∨
    (∃ t frame, (c.sendOrReport p action name).connection.journal =
      c.connection.journal ++ [.sent t frame false, refusal action name]) ∨
    (c.sendOrReport p action name).connection.journal =
      c.connection.journal ++ [refusal action name] := by
  cases Connection.sendOn_cases c.connection c.connection.own (.packet p) with
  | inl hfits =>
    obtain ⟨t, x, frame, hown, hx, hopened, hframe⟩ := hfits
    cases hsent : (Transport.send frame x).1 with
    | ok =>
      have haccepts : c.Accepts p t frame := ⟨hown, hframe, x, hx, hopened, hsent⟩
      exact .inl ⟨t, frame, haccepts, journal_sendOrReport_of_accepted haccepts action name⟩
    | error e =>
      have hrefused : (Transport.send frame x).1.isOk = false := by
        rw [hsent]
        rfl
      refine .inr (.inl ⟨t, frame, ?_⟩)
      simp only [sendOrReport, Connection.send, hown,
        Connection.sendOn_of_frame hx hopened hframe, hrefused]
      exact List.append_assoc _ [_] [_]
  | inr hrefused =>
    simp only [sendOrReport, Connection.send, hrefused]
    exact .inr (.inr rfl)

variable [Connector γ τ]

/-- The entries that a command makes in the journal. -/
def written (c : Client γ τ) (command : Command) : List Entry :=
  (c.execute command).2.connection.journal.drop c.connection.journal.length

/-- What a command writes is what it adds to the journal. -/
theorem written_eq {command : Command} {entries : List Entry}
    (h : (c.execute command).2.connection.journal = c.connection.journal ++ entries) :
    c.written command = entries := by
  rw [written, h, List.drop_left]

/-- If a command to send a packet has a frame accepted, then it is the
frame of that packet, and nothing else is written. -/
theorem of_sent_mem_written {name : String} {data : Json} {t : Nat} {frame : String}
    (h : .sent t frame true ∈ c.written (.send name data)) :
    c.written (.send name data) = [.sent t frame true] ∧
      ∃ p, c.protocol.packet name data = .ok p ∧ p.encode = .ok frame := by
  cases hpacket : c.protocol.packet name data with
  | error e =>
    have hwritten : c.written (.send name data) = [.printed (.text ("* " ++ e.message))] := by
      refine written_eq ?_
      simp only [execute, hpacket]
      rfl
    simp [hwritten] at h
  | ok p =>
    have hexecute : (c.execute (.send name data)).2 = c.sendOrReport p "send" name := by
      simp only [execute, hpacket]
    obtain ⟨u, frame', haccepts, hjournal⟩ | ⟨u, frame', hjournal⟩ | hjournal :=
      journal_sendOrReport c p "send" name
    · have hwritten := written_eq (hexecute ▸ hjournal)
      rw [hwritten, List.mem_singleton] at h
      cases h
      exact ⟨hwritten, p, rfl, haccepts.encode⟩
    · simp [written_eq (hexecute ▸ hjournal), refusal] at h
    · simp [written_eq (hexecute ▸ hjournal), refusal] at h

/-- What a router reads of a packet that a client was told to send by a
line.  If the frame of the packet is accepted, then nothing is said to the
user, and the data nests at most 127 deep.  If it nests less deep than that,
the router reads the packet with that name and that data; at 127 it reads
none. -/
theorem send_outcome {url : String} {names : List String} {connector : γ} {c₀ : Client γ τ}
    (hclient : start url names connector = .ok c₀) (acts : List (Action γ τ))
    {line name : String} {data : Json}
    (hline : Command.parse line = .ok (some (.send name data)))
    (hreals : ∀ x ∈ data.reals, x.ReadsBack) {t : Nat} {frame : String}
    (hsent : .sent t frame true ∈ (c₀.after acts).written (.send name data)) :
    (c₀.after acts).written (.send name data) = [.sent t frame true] ∧ data.depth ≤ 127 ∧
    ∃ p : Packet Json, p.name = name ∧ p.data = data ∧ p.encode = .ok frame ∧
      Packet.decode frame = if data.depth ≤ 126 then .ok p else .error (.json .malformed) := by
  have hc := (grows_after (sound_start hclient) acts).sound (sound_start hclient)
  have hdata : data.Readable 127 := ⟨Command.shaped_of_parse hline, hreals⟩
  obtain ⟨hwritten, p, hpacket, hframe⟩ := of_sent_mem_written hsent
  obtain ⟨hname, rfl⟩ := hc.dispatcher.protocol.of_packet hpacket
  refine ⟨hwritten, hdata.depth_le, p, hname, rfl, hframe, ?_⟩
  obtain ⟨rfl, hsize⟩ := Packet.encode_eq_ok_iff.mp hframe
  split
  · next hdepth => exact Packet.decode_text ⟨⟨hdata.ordered, hdepth⟩, hreals⟩ hsize
  · next hdepth => exact Packet.decode_text_of_deep hdata (Nat.lt_of_not_le hdepth) hsize

/-- Data with a number between zero and one goes out in a frame, which is read
back. -/
theorem send_outcome_half :
    let half : Finite := ⟨false, 1022 * Binary64.binade, by decide⟩
    let p : Packet Json := ⟨"subscribe", .array [.number (.real half), .null], by decide⟩
    let frame := "\x7b\"name\":\"subscribe\",\"data\":[0.5,null]\x7d"
    ∃ c : Client SocketConfig Socket, start "ws://relay" [] {} = .ok c ∧
      Command.parse "send subscribe [0.5, null]" = .ok (some (.send p.name p.data)) ∧
      (∀ x ∈ p.data.reals, x.ReadsBack) ∧
      (c.after [.execute .connect, .move 0 fun s => s.tryOpen.2]).written
        (.send p.name p.data) = [.sent 0 frame true] ∧
      Packet.decode frame = .ok p := by
  intro half p frame
  obtain ⟨c, hclient, hwritten⟩ : ∃ c : Client SocketConfig Socket,
      start "ws://relay" [] {} = .ok c ∧
      (c.after [.execute .connect, .move 0 fun s => s.tryOpen.2]).written
        (.send p.name p.data) = [.sent 0 frame true] := by
    refine ⟨_, rfl, ?_⟩
    decide +kernel
  have hline : Command.parse "send subscribe [0.5, null]" =
      .ok (some (.send p.name p.data)) := by decide +kernel
  have hreals : ∀ x ∈ p.data.reals, x.ReadsBack := by
    refine List.forall_mem_singleton.mpr ?_
    unfold Finite.ReadsBack
    decide +kernel
  have hsent : .sent 0 frame true ∈
      (c.after [.execute .connect, .move 0 fun s => s.tryOpen.2]).written
        (.send p.name p.data) := hwritten ▸ List.mem_singleton_self _
  obtain ⟨-, -, q, hname, hdata, -, hdecode⟩ := send_outcome hclient _ hline hreals hsent
  have hqp : q = p := by
    cases q
    cases hname
    cases hdata
    rfl
  refine ⟨c, hclient, hline, hreals, hwritten, ?_⟩
  rw [hdecode, hqp, if_pos (by decide +kernel)]

/-- Data that nests 127 deep is sent, and its frame is not read. -/
theorem send_too_deep :
    let text := List.replicate 127 '[' ++ List.replicate 127 ']'
    let line := String.ofList ("send subscribe ".toList ++ text)
    let data := Nat.repeat (fun x => Json.array [x]) 126 (.array [])
    let p : Packet Json := ⟨"subscribe", data, by decide⟩
    ∃ c : Client SocketConfig Socket, start "ws://relay" [] {} = .ok c ∧
      Command.parse line = .ok (some (.send "subscribe" data)) ∧ data.reals = [] ∧
      data.chars = text ∧
      (c.after [.execute .connect, .move 0 fun s => s.tryOpen.2]).written
        (.send "subscribe" data) = [.sent 0 p.text true] ∧
      Packet.decode p.text = .error (.json .malformed) := by
  intro text line data p
  have hdata : Command.readData text = .ok data := by
    rw [Command.readData, Json.parse, String.toList_ofList]
    decide +kernel
  have hverb : Command.splitWord (Text.trim ("send subscribe ".toList ++ text)) =
      ("send".toList, "subscribe ".toList ++ text) := by decide +kernel
  have hname : Command.splitWord (Text.trim ("subscribe ".toList ++ text)) =
      ("subscribe".toList, text) := by decide +kernel
  have hline : Command.parse line = .ok (some (.send "subscribe" data)) :=
    Command.parse_send hverb hname (by decide) hdata
  have hreals : data.reals = [] := by decide +kernel
  have hsize : p.text.utf8ByteSize ≤ maxFrameSize := by
    rw [Packet.text, String.utf8ByteSize_ofList]
    decide +kernel
  have hdecode : Packet.decode p.text = .error (.json .malformed) :=
    Packet.decode_text_of_deep
      ⟨Command.shaped_of_parse hline, hreals ▸ List.forall_mem_nil _⟩ (by decide +kernel) hsize
  have hframe : p.encode = .ok p.text := Packet.encode_eq_ok_iff.mpr ⟨rfl, hsize⟩
  let x : Socket := ⟨"ws://relay", .opened, maxFrameSize, [], true⟩
  have hsent : (Transport.send p.text x).1 = .ok () := by
    simp only [x, Transport.send, Socket.send, ne_eq, not_true_eq_false, Nat.not_lt.mpr hsize,
      if_false, if_true]
  obtain ⟨c, hclient, hown, hx, hpacket⟩ : ∃ c : Client SocketConfig Socket,
      start "ws://relay" [] {} = .ok c ∧
      let opened := c.after [.execute .connect, .move 0 fun s => s.tryOpen.2]
      opened.connection.own = some 0 ∧ opened.connection.transports[0]? = some x ∧
        opened.protocol.packet "subscribe" data = .ok p := ⟨_, rfl, rfl, rfl, rfl⟩
  refine ⟨c, hclient, hline, hreals, by decide +kernel, written_eq ?_, hdecode⟩
  simp only [execute, hpacket]
  exact journal_sendOrReport_of_accepted ⟨hown, hframe, x, hx, rfl, hsent⟩ "send" "subscribe"

end Client

end PushRelay
