import Mathlib.Data.List.Forall2
import PushRelay.Connection.Recorder
import PushRelay.Proofs.Connection.Step
import PushRelay.Service
import PushRelay.Transport.Scripted

/-!
# PushRelay.Proofs.Connection.Ledger

What was sent over a connection, call by call, and what its transports
accepted.

A payload is sent by whoever owns the connection, through a sender that was
handed out, or in a reaction of the listener or the handler: these use a
sender too, but for the listener that is told of an opening, which has an
outbox of the transport that opened.  `Connection.ledger` lists the calls of
a run in order, with the transport that each is addressed to.

1. A call is answered by yes exactly if the transport it is addressed to is
   open, the payload has a frame, and the transport accepts it
   (`sendOn_fst_iff`).
2. The frames that a transport has accepted are those of the calls that are
   addressed to it and were answered by yes, one a call and in order
   (`Books`).
-/

namespace PushRelay

/-- The frame that an entry of a journal says transport `t` has accepted. -/
def Entry.frame? (t : Nat) : Entry → Option String
  | .sent u frame true => if u = t then some frame else none
  | _ => none

/-- The frames that transport `t` has accepted, in order. -/
def framesOn (journal : List Entry) (t : Nat) : List String := journal.filterMap (Entry.frame? t)

/-- What a transport has accepted is read off entry by entry. -/
theorem framesOn_append (j : List Entry) (e : Entry) (t : Nat) :
    framesOn (j ++ [e]) t = framesOn j t ++ (e.frame? t).toList := by
  cases he : e.frame? t with
  | none => simp [framesOn, List.filterMap_append, he]
  | some frame => simp [framesOn, List.filterMap_append, he]

/-- An entry without a frame of the transport adds nothing. -/
theorem framesOn_append_of_none {e : Entry} {t : Nat} (he : e.frame? t = none) (j : List Entry) :
    framesOn (j ++ [e]) t = framesOn j t := by
  rw [framesOn_append, he, Option.toList_none, List.append_nil]

namespace Outbound

/-- How a payload goes out: a packet as its text, if that is short enough,
and a text as it is. -/
def IsFrame : Outbound → String → Prop
  | .packet p, frame => frame = p.text ∧ frame.utf8ByteSize ≤ maxFrameSize
  | .text s, frame => frame = s

/-- A payload has a frame just where it can go out. -/
theorem frame_eq_ok_iff {payload : Outbound} {frame : String} :
    payload.frame = .ok frame ↔ payload.IsFrame frame := by
  cases payload with
  | packet p =>
    rw [Outbound.frame, Packet.encode_eq_ok_iff]
    constructor
    · rintro ⟨rfl, hsize⟩
      exact ⟨rfl, hsize⟩
    · rintro ⟨rfl, hsize⟩
      exact ⟨rfl, hsize⟩
  | text s =>
    rw [Outbound.frame, Except.ok.injEq]
    exact eq_comm

end Outbound

namespace Connection

variable {γ τ η ℓ : Type}

/-- A call that sends a payload. -/
structure Sending (γ τ η ℓ : Type) where
  /-- the connection that it found -/
  found : Connection γ τ η ℓ
  /-- the transport that the payload is addressed to -/
  target : Option Nat
  payload : Outbound
  /-- what the caller was told -/
  accepted : Bool
  /-- the connection that it left -/
  left : Connection γ τ η ℓ

/-- By what a listener or a handler sends. -/
inductive Means where
  /-- a sender, for the current transport at the time of the call -/
  | sender
  /-- the outbox of a transport -/
  | outbox (transport : Nat)

/-- The transport that payloads are addressed to. -/
def Means.target (c : Connection γ τ η ℓ) : Means → Option Nat
  | .sender => c.own
  | .outbox t => some t

variable [Transport τ]

/-! ## One call -/

/-- The answer of a transport that there is, is open and is handed a frame. -/
theorem sendOn_of_frame {c : Connection γ τ η ℓ} {t : Nat} {x : τ} {payload : Outbound}
    {frame : String} (hx : c.transports[t]? = some x) (hopened : Transport.state x = .opened)
    (hframe : payload.frame = .ok frame) :
    c.sendOn (some t) payload = ((Transport.send frame x).1.isOk,
      { c with transports := c.transports.set t (Transport.send frame x).2 }.note
        (.sent t frame (Transport.send frame x).1.isOk)) := by
  simp only [sendOn, hx, hopened, ne_eq, not_true_eq_false, if_false, hframe]

/-- Either a call hands a frame to an open transport, or it is answered by
no and leaves the connection as it was. -/
theorem sendOn_cases (c : Connection γ τ η ℓ) (on : Option Nat) (payload : Outbound) :
    (∃ t x frame, on = some t ∧ c.transports[t]? = some x ∧ Transport.state x = .opened ∧
      payload.frame = .ok frame) ∨
    c.sendOn on payload = (false, c) := by
  unfold sendOn
  split
  · exact .inr rfl
  · next t =>
    split
    · exact .inr rfl
    · next x hx =>
      split
      · exact .inr rfl
      · next hopened =>
        split
        · exact .inr rfl
        · next frame hframe =>
          exact .inl ⟨t, x, frame, rfl, hx, Decidable.not_not.mp hopened, hframe⟩

/-- A call is answered by yes if its transport is open and accepts the frame
of the payload. -/
theorem sendOn_fst_iff {c : Connection γ τ η ℓ} {on : Option Nat} {payload : Outbound} :
    (c.sendOn on payload).1 = true ↔
      ∃ t x frame, on = some t ∧ c.transports[t]? = some x ∧ Transport.state x = .opened ∧
        payload.IsFrame frame ∧ (Transport.send frame x).1 = .ok () := by
  constructor
  · intro haccepted
    cases sendOn_cases c on payload with
    | inl hfits =>
      obtain ⟨t, x, frame, rfl, hx, hopened, hframe⟩ := hfits
      rw [sendOn_of_frame hx hopened hframe] at haccepted
      refine ⟨t, x, frame, rfl, hx, hopened, Outbound.frame_eq_ok_iff.mp hframe, ?_⟩
      cases hsent : (Transport.send frame x).1 with
      | ok => rfl
      | error e => simp [hsent, Except.isOk, Except.toBool] at haccepted
    | inr hrefused =>
      rw [hrefused] at haccepted
      contradiction
  · rintro ⟨t, x, frame, rfl, hx, hopened, hframe, hsent⟩
    rw [sendOn_of_frame hx hopened (Outbound.frame_eq_ok_iff.mpr hframe), hsent]
    rfl

/-- A call that is answered by yes adds one frame, that of its payload, to
its transport, and a call that is answered by no adds none. -/
theorem framesOn_sendOn (c : Connection γ τ η ℓ) (on : Option Nat) (payload : Outbound) :
    (∃ t frame, on = some t ∧ payload.IsFrame frame ∧ (c.sendOn on payload).1 = true ∧
      ∀ u, framesOn (c.sendOn on payload).2.journal u =
        framesOn c.journal u ++ if t = u then [frame] else []) ∨
    ((c.sendOn on payload).1 = false ∧
      ∀ u, framesOn (c.sendOn on payload).2.journal u = framesOn c.journal u) := by
  cases sendOn_cases c on payload with
  | inl hfits =>
    obtain ⟨t, x, frame, rfl, hx, hopened, hframe⟩ := hfits
    rw [sendOn_of_frame hx hopened hframe]
    cases (Transport.send frame x).1.isOk with
    | true =>
      refine .inl ⟨t, frame, rfl, Outbound.frame_eq_ok_iff.mp hframe, rfl, fun u => ?_⟩
      dsimp only
      rw [note, framesOn_append, Entry.frame?]
      split
      · rfl
      · rfl
    | false => exact .inr ⟨rfl, fun u => framesOn_append_of_none rfl _⟩
  | inr hrefused =>
    rw [hrefused]
    exact .inr ⟨rfl, fun u => rfl⟩

/-! ## Books -/

/-- The calls that were made from `c` to `d` are in order: each went to the
transport that it was addressed to, and each transport accepted the frames
of those that were addressed to it and answered by yes. -/
structure Books (calls : List (Sending γ τ η ℓ)) (c d : Connection γ τ η ℓ) : Prop where
  honest : ∀ s ∈ calls, s.found.sendOn s.target s.payload = (s.accepted, s.left)
  balanced : ∀ t, ∃ frames, framesOn d.journal t = framesOn c.journal t ++ frames ∧
    List.Forall₂ (fun s frame => s.payload.IsFrame frame)
      (calls.filter fun s => s.accepted && s.target = some t) frames

variable {c d e : Connection γ τ η ℓ} {calls more : List (Sending γ τ η ℓ)}

/-- Nothing was sent, and nothing was accepted. -/
theorem Books.of_framesOn_eq (h : ∀ t, framesOn d.journal t = framesOn c.journal t) :
    Books [] c d where
  honest _ hs := absurd hs List.not_mem_nil
  balanced t := ⟨[], by rw [h, List.append_nil], .nil⟩

/-- Books that are in order can be joined. -/
theorem Books.trans (hcd : Books calls c d) (hde : Books more d e) :
    Books (calls ++ more) c e where
  honest s hs := (List.mem_append.mp hs).elim (hcd.honest s) (hde.honest s)
  balanced t := by
    obtain ⟨first, hfirst, hcalls⟩ := hcd.balanced t
    obtain ⟨second, hsecond, hmore⟩ := hde.balanced t
    refine ⟨first ++ second, ?_, ?_⟩
    · rw [hsecond, hfirst, List.append_assoc]
    · rw [List.filter_append]
      exact List.rel_append hcalls hmore

/-- What is not sent does not matter. -/
theorem Books.then_quiet (hcd : Books calls c d)
    (h : ∀ t, framesOn e.journal t = framesOn d.journal t) : Books calls c e := by
  have hboth := hcd.trans (.of_framesOn_eq h)
  rw [List.append_nil] at hboth
  exact hboth

/-- The books need no call for an entry without a frame. -/
theorem books_note (c : Connection γ τ η ℓ) (entry : Entry) (h : ∀ t, entry.frame? t = none) :
    Books [] c (c.note entry) :=
  .of_framesOn_eq fun t => framesOn_append_of_none (h t) _

/-- To close a transport needs no entry in the books. -/
theorem books_closeTransport (c : Connection γ τ η ℓ) (t : Nat) : Books [] c (c.closeTransport t) :=
  .of_framesOn_eq fun _ => framesOn_append_of_none rfl _

/-- To disconnect needs no entry in the books. -/
theorem books_disconnect (c : Connection γ τ η ℓ) : Books [] c c.disconnect := by
  unfold disconnect
  split
  · exact books_closeTransport c _
  · exact .of_framesOn_eq fun _ => rfl

/-- One call stands in the books for one payload. -/
theorem books_sendOn (c : Connection γ τ η ℓ) (on : Option Nat) (payload : Outbound) :
    Books [⟨c, on, payload, (c.sendOn on payload).1, (c.sendOn on payload).2⟩] c
      (c.sendOn on payload).2 where
  honest s hs := by
    rw [List.mem_singleton.mp hs]
  balanced u := by
    cases framesOn_sendOn c on payload with
    | inl haccepted =>
      obtain ⟨t, frame, rfl, hframe, hyes, hframes⟩ := haccepted
      refine ⟨_, hframes u, ?_⟩
      by_cases htu : t = u
      · subst htu
        simpa [hyes] using hframe
      · simp [hyes, htu]
    | inr hrefused =>
      refine ⟨[], by rw [hrefused.2 u, List.append_nil], ?_⟩
      simp [hrefused.1]

/-! ## The calls of a reaction -/

/-- The calls of a reaction whose sends go to the transport `on`. -/
def sendingsOf {α : Type} (c : Connection γ τ η ℓ) (means : Means) (on : Option Nat) :
    Reaction α → List (Sending γ τ η ℓ)
  | .done _ => []
  | .print line next => (c.note (.printed line)).sendingsOf means on next
  | .state next => c.sendingsOf means on (next (c.stateOn on))
  | .send payload next =>
    let (accepted, d) := c.sendOn on payload
    ⟨c, means.target c, payload, accepted, d⟩ :: d.sendingsOf means on (next accepted)

omit [Transport τ] in
/-- Where no transport was made, payloads go where they went before. -/
theorem Means.target_of_quiet (means : Means) (h : c.Quiet d) :
    means.target d = means.target c := by
  cases means with
  | sender => exact h.own
  | outbox t => rfl

/-- The calls of a reaction go to the transport that they are addressed to,
since no reaction makes another transport the current one. -/
theorem books_carryOut {α : Type} (means : Means) {on : Option Nat} (hon : means.target c = on)
    (r : Reaction α) : Books (c.sendingsOf means on r) c (c.carryOut on r).2 := by
  -- each step finds another connection, but always the same current transport
  induction r generalizing c with
  | done a => exact .of_framesOn_eq fun t => rfl
  | print line next ih =>
    have hnote := books_note c (.printed line) fun t => rfl
    exact hnote.trans (ih ((means.target_of_quiet (quiet_note c _)).trans hon))
  | state next ih => exact ih _ hon
  | send payload next ih =>
    have hnext := (means.target_of_quiet (quiet_sendOn c on payload)).trans hon
    have hsent := (books_sendOn c on payload).trans (ih (c.sendOn on payload).1 hnext)
    rw [sendingsOf, hon]
    exact hsent

/-! ## The calls of the listener -/

variable [Listener ℓ]

/-- The calls of the listener that is told something. -/
def sendingsTelling (c : Connection γ τ η ℓ) (t : Nat) (means : Means) (on : Option Nat)
    (news : News) : List (Sending γ τ η ℓ) :=
  (c.note (.told t news c.standing)).sendingsOf means on (Listener.notify news c.listener)

/-- What the listener sends when it is told something is in the books. -/
theorem books_tell (means : Means) {on : Option Nat} (hon : means.target c = on) (t : Nat)
    (news : News) : Books (c.sendingsTelling t means on news) c (c.tell t on news).2 := by
  have hnote := books_note c (.told t news c.standing) fun u => rfl
  have hon' : means.target (c.note (.told t news c.standing)) = on :=
    (means.target_of_quiet (quiet_note c _)).trans hon
  have htold := hnote.trans (books_carryOut means hon' (Listener.notify news c.listener))
  rw [List.nil_append] at htold
  simp only [tell]
  split
  · exact htold.then_quiet fun u => rfl
  · exact htold.then_quiet fun u => framesOn_append_of_none rfl _

/-- The calls of the listener that is told the state of a transport, if it
is told. -/
def sendingsTellingState (c : Connection γ τ η ℓ) (t : Nat) : List (Sending γ τ η ℓ) :=
  if c.own = some t then c.sendingsTelling t .sender c.shared (.state (c.stateOn (some t)))
  else []

/-- So is what it sends when it is told a state. -/
theorem books_tellState (hc : c.shared = c.own) (t : Nat) :
    Books (c.sendingsTellingState t) c (c.tellState t).2 := by
  unfold sendingsTellingState tellState
  split
  · exact books_tell .sender hc.symm t _
  · exact .of_framesOn_eq fun u => rfl

/-- The calls in an attempt to connect. -/
def sendingsConnecting [Connector γ τ] (c : Connection γ τ η ℓ) : List (Sending γ τ η ℓ) :=
  if c.state ≠ .closed then []
  else match Connector.connect c.url c.connector with
    | (.error _, _) => []
    | (.ok t, k) => (c.install t k).sendingsTellingState c.transports.length

/-- So is what it sends while a transport is made. -/
theorem books_connect [Connector γ τ] (c : Connection γ τ η ℓ) :
    Books c.sendingsConnecting c c.connect.2 := by
  unfold sendingsConnecting
  by_cases hc : c.state = .closed
  · rw [if_neg (not_not_intro hc)]
    cases hk : Connector.connect c.url c.connector with
    | mk result k =>
      cases result with
      | error e =>
        rw [connect_of_error hc hk]
        exact .of_framesOn_eq fun t => rfl
      | ok x =>
        have hmade : Books [] c (c.install x k) :=
          .of_framesOn_eq fun t => framesOn_append_of_none rfl _
        have htold := hmade.trans (books_tellState (c := c.install x k) rfl c.transports.length)
        rw [List.nil_append] at htold
        rw [connect_of_closed hc hk]
        dsimp only
        split
        · exact htold
        · exact htold.then_quiet fun t => framesOn_append_of_none rfl _
  · rw [if_pos hc, connect_of_not_closed hc]
    exact .of_framesOn_eq fun t => rfl

/-! ## The calls in the handling of an event -/

/-- The calls of the listener that is told the state of a transport, and if
it copes with that, something more. -/
def sendingsTellingThen (c : Connection γ τ η ℓ) (t : Nat) (means : Means) (on : Option Nat)
    (news : News) : List (Sending γ τ η ℓ) :=
  c.sendingsTellingState t ++
    if (c.tellState t).1 then (c.tellState t).2.sendingsTelling t means on news else []

/-- So is what it sends when it is told a state and then more. -/
theorem books_tellThen (hc : c.shared = c.own) (means : Means) {on : Option Nat}
    (hon : means.target c = on) (t : Nat) (news : News) :
    Books (c.sendingsTellingThen t means on news) c (c.tellThen t on news).2 := by
  have hstate := books_tellState hc t
  have hon' : means.target (c.tellState t).2 = on :=
    (means.target_of_quiet (quiet_tellState c t)).trans hon
  unfold sendingsTellingThen tellThen
  split
  · exact hstate.trans (books_tell means hon' t news)
  · rw [List.append_nil]
    exact hstate

/-- The calls of the listener that is told of an opening. -/
def sendingsOpening (c : Connection γ τ η ℓ) (t : Nat) : List (Sending γ τ η ℓ) :=
  if c.own ≠ some t then [] else c.sendingsTellingThen t (.outbox t) (some t) .opened

/-- So is what it sends when a transport opens. -/
theorem books_handleOpened (hc : c.shared = c.own) (t : Nat) :
    Books (c.sendingsOpening t) c (c.handleOpened t) := by
  have hon : Means.target c (.outbox t) = some t := rfl
  have htold := books_tellThen hc (.outbox t) hon t .opened
  unfold sendingsOpening
  by_cases hown : c.own = some t
  · rw [if_neg (not_not_intro hown), handleOpened_eq hown]
    split
    · exact htold
    · exact htold.then_quiet fun u => framesOn_append_of_none rfl _
  · rw [if_pos hown, handleOpened, if_pos hown]
    exact books_closeTransport c t

variable [MessageHandler η]

omit [Listener ℓ] in
/-- The calls of the handler that handles a message. -/
def sendingsReceiving (c : Connection γ τ η ℓ) (text : String) : List (Sending γ τ η ℓ) :=
  match Packet.decodeFrame text with
  | .error _ => []
  | .ok message => c.sendingsOf .sender c.shared (MessageHandler.handle message c.handler)

omit [Listener ℓ] in
/-- What the handler sends for a message is in the books. -/
theorem books_handleMessage (hc : c.shared = c.own) (text : String) :
    Books (c.sendingsReceiving text) c (c.handleMessage text).2 := by
  unfold sendingsReceiving handleMessage
  cases Packet.decodeFrame text with
  | error e => exact .of_framesOn_eq fun u => rfl
  | ok message =>
    have hcarry := books_carryOut .sender hc.symm
      (MessageHandler.handle message c.handler)
    exact hcarry.then_quiet fun u => rfl

/-- The calls in the handling of an event. -/
def sendingsHandling (c : Connection γ τ η ℓ) (e : Event) : List (Sending γ τ η ℓ) :=
  match e.kind with
  | .opened => c.sendingsOpening e.transport
  | .message text => c.sendingsReceiving text
  | .closed code reason =>
    c.sendingsTellingThen e.transport .sender c.shared (.closed code reason)
  | .failed message => c.sendingsTellingThen e.transport .sender c.shared (.failed message)

/-- All that is sent while an event is handled is in the books. -/
theorem books_handleEvent (hc : c.shared = c.own) (event : Event) :
    Books (c.sendingsHandling event) c (c.handleEvent event).2 := by
  obtain ⟨t, kind⟩ := event
  cases kind with
  | opened => exact books_handleOpened hc t
  | message text => exact books_handleMessage hc text
  | closed code reason =>
    have htold := books_tellThen hc .sender hc.symm t (.closed code reason)
    rw [← handleClosed_eq] at htold
    exact htold
  | failed message =>
    have htold := books_tellThen hc .sender hc.symm t (.failed message)
    have hfailed : Books (c.sendingsHandling ⟨t, .failed message⟩) c
        ((c.tellThen t c.shared (.failed message)).2.closeTransport t) :=
      htold.then_quiet fun u => framesOn_append_of_none rfl _
    rw [← handleFailed_eq] at hfailed
    exact hfailed

/-! ## The calls of a run -/

variable [Connector γ τ]

/-- The calls in an action. -/
def sendings (c : Connection γ τ η ℓ) : Action γ τ η ℓ → List (Sending γ τ η ℓ)
  | .connect => c.sendingsConnecting
  | .send payload => [⟨c, c.own, payload, (c.send payload).1, (c.send payload).2⟩]
  | .senderSend payload =>
    [⟨c, c.own, payload, (c.senderSend payload).1, (c.senderSend payload).2⟩]
  | .handleEvent e => c.sendingsHandling e
  | .processNext =>
    match c.nextEvent? with
    | some (e, d) => d.sendingsHandling e
    | none => []
  | _ => []

/-- The calls of a run, in order. -/
def ledger (c : Connection γ τ η ℓ) (acts : List (Action γ τ η ℓ)) : List (Sending γ τ η ℓ) :=
  (c.history acts).flatMap fun x => x.1.sendings x.2

/-- All that is sent in an action is in the books. -/
theorem books_act (hc : c.shared = c.own) (a : Action γ τ η ℓ) :
    Books (c.sendings a) c (c.act a).2 := by
  cases a with
  | connect => exact books_connect c
  | send payload => exact books_sendOn c c.own payload
  | senderSend payload =>
    have hsent := books_sendOn c c.own payload
    rw [sendings, act, senderSend, hc]
    exact hsent
  | handleEvent e => exact books_handleEvent hc e
  | processNext =>
    cases hq : c.queue with
    | nil =>
      simp only [sendings, act, processNext?, nextEvent?, hq]
      exact .of_framesOn_eq fun t => rfl
    | cons e queue =>
      have htaken : Books [] c { c with queue := queue } := .of_framesOn_eq fun t => rfl
      simp only [sendings, act, processNext?, nextEvent?, hq]
      exact htaken.trans (books_handleEvent (c := { c with queue := queue }) hc e)
  | disconnect => exact books_disconnect c
  | drop =>
    simp only [sendings, act, drop]
    split
    · exact .of_framesOn_eq fun t => rfl
    · exact (books_disconnect c).then_quiet fun t => rfl
  | emit e =>
    simp only [sendings, act, emit]
    split
    · exact .of_framesOn_eq fun t => rfl
    · exact .of_framesOn_eq fun t => rfl
  | setListener listener => exact .of_framesOn_eq fun t => rfl
  | move t f => exact .of_framesOn_eq fun t => rfl
  | arrange f => exact .of_framesOn_eq fun t => rfl
  | instruct f => exact .of_framesOn_eq fun t => rfl

/-- All that is sent in a run is in the books. -/
theorem books_after (hc : c.Newest) (acts : List (Action γ τ η ℓ)) :
    Books (c.ledger acts) c (c.after acts) := by
  induction acts generalizing c with
  | nil => exact .of_framesOn_eq fun t => rfl
  | cons a acts ih =>
    have hrest : Books ((c.act a).2.ledger acts) (c.act a).2 ((c.act a).2.after acts) :=
      ih (newest_act hc a)
    exact (books_act hc.shared_eq_own a).trans hrest

/-- In every run a transport accepts the frames of the calls that were
addressed to it and answered by yes, one a call and in order.  A call that
was answered by no adds no frame to any transport.  And a call is answered
by yes exactly if it is addressed to a transport that is open at that
moment, the payload has a frame, and the transport accepts it. -/
theorem ledger_after {url : String} {k : γ} {h : η} {l : ℓ} {c₀ : Connection γ τ η ℓ}
    (hstart : ofUrl url k h l = .ok c₀) (acts : List (Action γ τ η ℓ)) :
    (∀ t, List.Forall₂ (fun s frame => s.payload.IsFrame frame)
      ((c₀.ledger acts).filter fun s => s.accepted && s.target = some t)
      (framesOn (c₀.after acts).journal t)) ∧
    (∀ s ∈ c₀.ledger acts, s.accepted = false →
      ∀ t, framesOn s.left.journal t = framesOn s.found.journal t) ∧
    ∀ s ∈ c₀.ledger acts, s.accepted = true ↔
      ∃ t x frame, s.target = some t ∧ s.found.transports[t]? = some x ∧
        Transport.state x = .opened ∧ s.payload.IsFrame frame ∧
        (Transport.send frame x).1 = .ok () := by
  have hbooks := books_after (newest_of_ofUrl hstart) acts
  refine ⟨?frames, ?refused, ?answered⟩
  case frames =>
    intro t
    obtain ⟨frames, hframes, hcalls⟩ := hbooks.balanced t
    obtain ⟨-, rfl⟩ := ofUrl_eq_ok_iff.mp hstart
    have hall : framesOn (after _ acts).journal t = frames := hframes
    rw [hall]
    exact hcalls
  case refused =>
    intro s hs hno t
    have hsent := hbooks.honest s hs
    cases framesOn_sendOn s.found s.target s.payload with
    | inl haccepted =>
      obtain ⟨_, _, _, _, hyes, -⟩ := haccepted
      rw [hsent, hno] at hyes
      contradiction
    | inr hrefused =>
      rw [hsent] at hrefused
      exact hrefused.2 t
  case answered =>
    intro s hs
    have hanswer : s.accepted = (s.found.sendOn s.target s.payload).1 := by
      rw [hbooks.honest s hs]
    rw [hanswer]
    exact sendOn_fst_iff

/-- The listener subscribes to a service in its outbox, a callback answers a
message, and both owners send; then the transport refuses, and a second one
is made, on which a call comes too early. -/
theorem ledger_after_reconnect :
    let clock : Packet Json :=
      ⟨subscribeName, servicePayload "clock", by decide⟩
    let c₀ : Connection ScriptedConnector ScriptedTransport RecordingHandler Recorder :=
      { url := "ws://relay", connector := {}
        handler := ⟨⟨.net, (∅ : Table _ _).insert "ping" (.run (.reply ⟨"pong", by decide⟩))⟩, []⟩
        listener := { onOpen := [.ok (.packet clock)] } }
    let state (s : ReadyState) (t : ScriptedTransport) : ScriptedTransport := { t with state := s }
    let acts := [.senderSend (.text "never"), .connect, .move 0 (state .opened),
      .handleEvent ⟨0, .opened⟩, .handleEvent ⟨0, .message "\x7b\"name\":\"ping\"\x7d"⟩,
      .senderSend (.text "first"), .move 0 fun t => { t with refusing := true },
      .send (.text "refused"), .move 0 (state .closed), .connect, .senderSend (.text "early"),
      .move 1 (state .opened), .send (.text "second")]
    ofUrl c₀.url c₀.connector c₀.handler c₀.listener = .ok c₀ ∧
      (c₀.ledger acts).map Sending.accepted =
        [false, true, true, true, false, false, true] ∧
      framesOn (c₀.after acts).journal 0 =
        [clock.text, "\x7b\"name\":\"pong\",\"data\":null\x7d", "first"] ∧
      framesOn (c₀.after acts).journal 1 = ["second"] ∧
      List.Forall₂ (fun s frame => s.payload.IsFrame frame)
        ((c₀.ledger acts).filter fun s => s.accepted && s.target = some 0)
        (framesOn (c₀.after acts).journal 0) := by
  intro clock c₀ state acts
  have hstart : ofUrl c₀.url c₀.connector c₀.handler c₀.listener = .ok c₀ := rfl
  obtain ⟨hframes, -, -⟩ := ledger_after hstart acts
  have haccepted : (c₀.ledger acts).map Sending.accepted =
      [false, true, true, true, false, false, true] := by decide +kernel
  have hfirst : framesOn (c₀.after acts).journal 0 =
      [clock.text, "\x7b\"name\":\"pong\",\"data\":null\x7d", "first"] := by decide +kernel
  have hsecond : framesOn (c₀.after acts).journal 1 = ["second"] := by decide +kernel
  exact ⟨hstart, haccepted, hfirst, hsecond, hframes 0⟩

end Connection

end PushRelay
