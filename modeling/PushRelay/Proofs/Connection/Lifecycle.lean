import PushRelay.Proofs.Connection.Closing

/-!
# PushRelay.Proofs.Connection.Lifecycle

The life of a connection, with and without its messages.

The life of a connection is all that it does but for the lines that it
writes: it makes transports, tells its listener, sends frames and closes.
Two connections lead the same life (`Connection.SameLife`) if they stand
alike, however much they differ in their handlers and in the messages that
wait.  What happens to both keeps them alike (`SameLife.act`), and a message
that only one of them handles does so too, if the callback for it sends
nothing (`SameLife.skip`).  So the messages of a run can be left out.
-/

namespace PushRelay

/-- The reaction sends nothing, whatever the states that it learns of. -/
inductive Reaction.Sendless {α : Type} : Reaction α → Prop
  | done (a : α) : Sendless (.done a)
  | print (line : Line) {next : Reaction α} (hnext : next.Sendless) : Sendless (.print line next)
  | state {next : ReadyState → Reaction α} (hnext : ∀ s, (next s).Sendless) :
      Sendless (.state next)

/-- The entry is a line for the user. -/
def Entry.isLine : Entry → Bool
  | .printed _ => true
  | _ => false

/-- The entries of a journal that are not lines for the user. -/
def life (journal : List Entry) : List Entry := journal.filter fun e => !e.isLine

/-- The life of a connection goes on entry by entry. -/
theorem life_append (j : List Entry) (e : Entry) :
    life (j ++ [e]) = life j ++ life [e] := List.filter_append ..

/-- The text that an event brings in. -/
def Event.message? (e : Event) : Option String :=
  match e.kind with
  | .message text => some text
  | _ => none

namespace Connection

variable {γ τ η ℓ : Type} {c d : Connection γ τ η ℓ}

/-- `d` stands as `c` does and has done the same, messages apart; no messages
wait there. -/
structure SameLife (c d : Connection γ τ η ℓ) : Prop where
  url : d.url = c.url
  connector : d.connector = c.connector
  listener : d.listener = c.listener
  transports : d.transports = c.transports
  own : d.own = c.own
  shared : d.shared = c.shared
  dropped : d.dropped = c.dropped
  queue : d.queue = c.queue.filter fun e => e.message?.isNone
  journal : life d.journal = life c.journal

/-- Where nothing waits, a connection lives its own life. -/
theorem SameLife.refl (hqueue : c.queue = []) : SameLife c c :=
  ⟨rfl, rfl, rfl, rfl, rfl, rfl, rfl, by rw [hqueue, List.filter_nil], rfl⟩

/-! ## What both do -/

/-- Both give the same answer and lead the same life afterwards. -/
def Alike {α : Type} (x y : α × Connection γ τ η ℓ) : Prop := y.1 = x.1 ∧ SameLife x.2 y.2

/-- The same entry keeps two lives the same. -/
theorem SameLife.note (h : SameLife c d) (e : Entry) : SameLife (c.note e) (d.note e) :=
  { h with
    journal := by
      change life (d.journal ++ [e]) = life (c.journal ++ [e])
      rw [life_append, life_append, h.journal] }

/-- So does the same change of a transport. -/
theorem SameLife.move (h : SameLife c d) (t : Nat) (f : τ → τ) :
    SameLife (c.move t f) (d.move t f) :=
  { h with transports := congrArg (·.modify t f) h.transports }

/-- So do the same transports. -/
theorem SameLife.setTransports (h : SameLife c d) (transports : List τ) :
    SameLife { c with transports := transports } { d with transports := transports } :=
  { h with transports := rfl }

/-- So does the same listener. -/
theorem SameLife.setListener (h : SameLife c d) (l : ℓ) :
    SameLife (c.setListener l) (d.setListener l) :=
  { h with listener := rfl }

/-- So does the same new transport. -/
theorem SameLife.install (h : SameLife c d) (x : τ) (k : γ) :
    SameLife (c.install x k) (d.install x k) := by
  have hmade : SameLife
      { c with
        connector := k
        transports := c.transports ++ [x]
        own := some c.transports.length
        shared := some c.transports.length }
      { d with
        connector := k
        transports := c.transports ++ [x]
        own := some c.transports.length
        shared := some c.transports.length } :=
    { h with connector := rfl, transports := rfl, own := rfl, shared := rfl }
  rw [Connection.install, Connection.install, h.transports]
  exact hmade.note _

variable [Transport τ]

/-- Two connections with the same life see the same states. -/
theorem SameLife.stateOn (h : SameLife c d) (on : Option Nat) : d.stateOn on = c.stateOn on := by
  rw [Connection.stateOn, Connection.stateOn, h.transports]

/-- They stand in the same way. -/
theorem SameLife.standing (h : SameLife c d) : d.standing = c.standing := by
  rw [Connection.standing, Connection.standing, h.own, h.transports]

/-- They stay alike when the same transport is closed. -/
theorem SameLife.closeTransport (h : SameLife c d) (t : Nat) :
    SameLife (c.closeTransport t) (d.closeTransport t) :=
  (h.move t Transport.close).note (.closed t)

/-- They stay alike when both disconnect. -/
theorem SameLife.disconnect (h : SameLife c d) : SameLife c.disconnect d.disconnect := by
  unfold Connection.disconnect
  rw [h.own]
  split
  · exact h.closeTransport _
  · exact h

/-- They stay alike when both are dropped. -/
theorem SameLife.drop (h : SameLife c d) : SameLife c.drop d.drop := by
  unfold Connection.drop
  rw [h.dropped]
  split
  · exact h
  · exact { h.disconnect with dropped := rfl }

/-- They send a payload alike. -/
theorem SameLife.sendOn (h : SameLife c d) (on : Option Nat) (payload : Outbound) :
    Alike (c.sendOn on payload) (d.sendOn on payload) := by
  unfold Connection.sendOn
  -- both look at the same transports, so every test comes out the same
  rw [h.transports]
  split
  · exact ⟨rfl, h⟩
  · split
    · exact ⟨rfl, h⟩
    · split
      · exact ⟨rfl, h⟩
      · split
        · exact ⟨rfl, h⟩
        · exact ⟨rfl, (h.setTransports _).note _⟩

/-- They carry out a reaction alike. -/
theorem SameLife.carryOut {α : Type} (h : SameLife c d) (on : Option Nat) (r : Reaction α) :
    Alike (c.carryOut on r) (d.carryOut on r) := by
  induction r generalizing c d with
  | done a => exact ⟨rfl, h⟩
  | print line next ih => exact ih (h.note _)
  | state next ih =>
    simp only [Connection.carryOut, h.stateOn]
    exact ih _ h
  | send payload next ih =>
    obtain ⟨hanswer, hsent⟩ := h.sendOn on payload
    simp only [Connection.carryOut, hanswer]
    exact ih _ hsent

variable [Listener ℓ]

/-- They tell the listener alike. -/
theorem SameLife.tell (h : SameLife c d) (t : Nat) (on : Option Nat) (news : News) :
    Alike (c.tell t on news) (d.tell t on news) := by
  have hc : (c.note (.told t news c.standing)).listener = c.listener := rfl
  have hd : (d.note (.told t news c.standing)).listener = c.listener := h.listener
  obtain ⟨hanswer, hreacted⟩ :=
    (h.note (.told t news c.standing)).carryOut on (Listener.notify news c.listener)
  have hset := hreacted.setListener
    ((c.note (.told t news c.standing)).carryOut on (Listener.notify news c.listener)).1.2
  simp only [Connection.tell, h.standing, hc, hd, hanswer]
  refine ⟨rfl, ?_⟩
  dsimp only
  split
  · exact hset
  · exact hset.note _

/-- They tell a state alike. -/
theorem SameLife.tellState (h : SameLife c d) (t : Nat) :
    Alike (c.tellState t) (d.tellState t) := by
  unfold Connection.tellState
  rw [h.own, h.shared, h.stateOn]
  split
  · exact h.tell t _ _
  · exact ⟨rfl, h⟩

/-- They tell a state and then more alike. -/
theorem SameLife.tellThen (h : SameLife c d) (t : Nat) (on : Option Nat) (news : News) :
    Alike (c.tellThen t on news) (d.tellThen t on news) := by
  obtain ⟨hcopes, htold⟩ := h.tellState t
  unfold Connection.tellThen
  rw [hcopes]
  split
  · exact htold.tell t on news
  · exact ⟨rfl, htold⟩

omit [Listener ℓ] in
/-- Both close a transport if the answer was the same no. -/
theorem Alike.closeUnless {x y : Bool × Connection γ τ η ℓ} (h : Alike x y) (t : Nat) :
    SameLife (if x.1 then x.2 else x.2.closeTransport t)
      (if y.1 then y.2 else y.2.closeTransport t) := by
  rw [h.1]
  split
  · exact h.2
  · exact h.2.closeTransport t

/-- They connect alike. -/
theorem SameLife.connect [Connector γ τ] (h : SameLife c d) : Alike c.connect d.connect := by
  have hstate : d.state = c.state := by
    rw [Connection.state, Connection.state, h.own, h.stateOn]
  by_cases hc : c.state = .closed
  · have hd : d.state = .closed := hstate.trans hc
    cases hk : Connector.connect c.url c.connector with
    | mk result k =>
      have hk' : Connector.connect d.url d.connector = (result, k) := by
        rw [h.url, h.connector, hk]
      cases result with
      | error e =>
        rw [connect_of_error hc hk, connect_of_error hd hk']
        exact ⟨rfl, { h with connector := rfl }⟩
      | ok x =>
        have hlength : d.transports.length = c.transports.length := congrArg _ h.transports
        rw [connect_of_closed hc hk, connect_of_closed hd hk', hlength]
        exact ⟨rfl, ((h.install x k).tellState _).closeUnless _⟩
  · have hd : d.state ≠ .closed := hstate ▸ hc
    rw [connect_of_not_closed hc, connect_of_not_closed hd]
    exact ⟨rfl, h⟩

/-- They handle an opening alike. -/
theorem SameLife.handleOpened (h : SameLife c d) (t : Nat) :
    SameLife (c.handleOpened t) (d.handleOpened t) := by
  by_cases hown : c.own = some t
  · rw [handleOpened_eq hown, handleOpened_eq (h.own.trans hown)]
    exact (h.tellThen t _ _).closeUnless t
  · rw [Connection.handleOpened, Connection.handleOpened, if_pos hown, if_pos (h.own ▸ hown)]
    exact h.closeTransport t

variable [MessageHandler η]

/-- An event that is not a message is handled by both alike. -/
theorem SameLife.handleEvent (h : SameLife c d) {e : Event} (he : e.message?.isNone = true) :
    SameLife (c.handleEvent e).2 (d.handleEvent e).2 := by
  obtain ⟨t, kind⟩ := e
  cases kind with
  | opened => exact h.handleOpened t
  | message text => contradiction
  | closed code reason =>
    simp only [Connection.handleEvent, handleClosed_eq, h.shared]
    exact (h.tellThen t _ _).2
  | failed message =>
    simp only [Connection.handleEvent, handleFailed_eq, h.shared]
    exact (h.tellThen t _ _).2.closeTransport t

/-! ## Messages that only one of them handles -/

omit [Transport τ] [Listener ℓ] [MessageHandler η] in
/-- A line that only one of them prints is no part of their lives. -/
theorem SameLife.print (h : SameLife c d) (line : Line) : SameLife (c.note (.printed line)) d :=
  { h with
    journal := by
      change life d.journal = life (c.journal ++ [.printed line])
      rw [life_append, h.journal]
      exact (List.append_nil _).symm }

omit [Listener ℓ] [MessageHandler η] in
/-- A reaction that sends nothing leaves no more than lines. -/
theorem SameLife.react {α : Type} (h : SameLife c d) (on : Option Nat) {r : Reaction α}
    (hr : r.Sendless) : SameLife (c.carryOut on r).2 d := by
  induction hr generalizing c with
  | done a => exact h
  | print line _ ih => exact ih (h.print line)
  | state _ ih => exact ih _ h

/-- The text is no message, or the callback for it sends nothing. -/
def Silent (c : Connection γ τ η ℓ) (text : String) : Prop :=
  ∀ message, Packet.decodeFrame text = .ok message →
    (MessageHandler.handle message c.handler).Sendless

omit [Listener ℓ] in
/-- A message that only one of them handles is no part of their lives, if its
callback sends nothing. -/
theorem SameLife.handleMessage (h : SameLife c d) {text : String} (hsilent : c.Silent text) :
    SameLife (c.handleMessage text).2 d := by
  unfold Connection.handleMessage
  cases hdecoded : Packet.decodeFrame text with
  | error e => exact h
  | ok message =>
    have hreacted := h.react c.shared (hsilent message hdecoded)
    exact { hreacted with }

/-! ## Runs -/

omit [Transport τ] [Listener ℓ] [MessageHandler η] in
/-- The text of the message that an action has the connection handle. -/
def message? (c : Connection γ τ η ℓ) (a : Action γ τ η ℓ) : Option String :=
  (c.handling? a).bind fun x => x.1.message?

omit [Transport τ] [Listener ℓ] [MessageHandler η] in
/-- The action brings a message in or has it handled. -/
def aboutMessage (c : Connection γ τ η ℓ) : Action γ τ η ℓ → Bool
  | .emit e => e.message?.isSome
  | a => (c.message? a).isSome

variable [Connector γ τ] {a : Action γ τ η ℓ}

/-- The actions of a run that are not about messages. -/
def withoutMessages (c : Connection γ τ η ℓ) : List (Action γ τ η ℓ) → List (Action γ τ η ℓ)
  | [] => []
  | a :: acts =>
    if c.aboutMessage a then (c.act a).2.withoutMessages acts
    else a :: (c.act a).2.withoutMessages acts

omit [Transport τ] [Connector γ τ] [Listener ℓ] [MessageHandler η] in
/-- What is processed next is the head of the queue. -/
theorem handling?_processNext {e : Event} {queue : List Event} (hq : c.queue = e :: queue) :
    c.handling? (.processNext : Action γ τ η ℓ) = some (e, { c with queue := queue }) := by
  rw [handling?, nextEvent?, hq]

/-- What is not about messages happens to both alike. -/
theorem SameLife.act (h : SameLife c d) (ha : c.aboutMessage a = false) :
    SameLife (c.act a).2 (d.act a).2 := by
  cases a with
  | connect => exact h.connect.2
  | disconnect => exact h.disconnect
  | drop => exact h.drop
  | send payload =>
    simp only [Connection.act, send, h.own]
    exact (h.sendOn c.own payload).2
  | senderSend payload =>
    simp only [Connection.act, senderSend, h.shared]
    exact (h.sendOn c.shared payload).2
  | setListener listener => exact h.setListener listener
  | handleEvent e => exact h.handleEvent (Option.isSome_eq_false_iff.mp ha)
  | emit e =>
    have hkept : [e].filter (fun e => e.message?.isNone) = [e] :=
      List.filter_cons_of_pos (Option.isSome_eq_false_iff.mp ha)
    rw [Connection.act, Connection.act, emit, emit, h.dropped]
    split
    · exact h
    · exact
        { h with
          dropped := rfl
          queue := by
            rw [List.filter_append, hkept]
            exact congrArg (· ++ [e]) h.queue }
  | processNext =>
    cases hq : c.queue with
    | nil =>
      have hd : d.queue = [] := by rw [h.queue, hq, List.filter_nil]
      simpa [Connection.act, processNext?, nextEvent?, hq, hd] using h
    | cons e queue =>
      have hnext := handling?_processNext hq
      have he : e.message?.isNone = true := by
        simpa [aboutMessage, message?, hnext] using ha
      have hqd : d.queue = e :: queue.filter fun e => e.message?.isNone := by
        rw [h.queue, hq]
        exact List.filter_cons_of_pos he
      have htaken : SameLife { c with queue := queue }
          { d with queue := queue.filter fun e => e.message?.isNone } := { h with queue := rfl }
      rw [act_of_handling hnext, act_of_handling (handling?_processNext hqd)]
      exact htaken.handleEvent he
  | move t f => exact h.move t f
  | arrange f => exact { h with connector := congrArg f h.connector }
  | instruct f => exact { h with }

/-- A message may come to only one of them, and be handled by that one. -/
theorem SameLife.skip (h : SameLife c d) (ha : c.aboutMessage a = true)
    (hsilent : ∀ text, c.message? a = some text → c.Silent text) : SameLife (c.act a).2 d := by
  cases a with
  | handleEvent e =>
    obtain ⟨t, kind⟩ := e
    cases kind with
    | message text => exact h.handleMessage (hsilent text rfl)
    | opened | closed | failed => contradiction
  | emit e =>
    have hleft : [e].filter (fun e => e.message?.isNone) = [] :=
      List.filter_cons_of_neg (ne_true_of_eq_false (Option.isNone_eq_false_iff.mpr ha))
    rw [Connection.act, emit]
    split
    · exact h
    · exact { h with queue := by rw [List.filter_append, hleft, List.append_nil, h.queue] }
  | processNext =>
    cases hq : c.queue with
    | nil => simp [aboutMessage, message?, handling?, nextEvent?, hq] at ha
    | cons e queue =>
      have hnext := handling?_processNext hq
      obtain ⟨t, kind⟩ := e
      cases kind with
      | message text =>
        have hmessage : c.message? (.processNext : Action γ τ η ℓ) = some text := by
          rw [message?, hnext]
          rfl
        have htaken : SameLife { c with queue := queue } d :=
          { h with queue := by rw [h.queue, hq, List.filter_cons_of_neg Bool.false_ne_true] }
        rw [act_of_handling hnext]
        exact htaken.handleMessage (hsilent text hmessage)
      | opened | closed | failed => simp [aboutMessage, message?, hnext, Event.message?] at ha
  | _ => contradiction

/-- A run and the run without its messages lead the same life, if the
callbacks send nothing. -/
theorem SameLife.after (h : SameLife c d) {acts : List (Action γ τ η ℓ)}
    (hsilent : ∀ b a, (b, a) ∈ c.history acts → ∀ text, b.message? a = some text → b.Silent text) :
    SameLife (c.after acts) (d.after (c.withoutMessages acts)) := by
  induction acts generalizing c d with
  | nil => exact h
  | cons a acts ih =>
    have hrest := fun b a' hb => hsilent b a' (List.mem_cons_of_mem _ hb)
    cases ha : c.aboutMessage a with
    | true =>
      rw [after_cons, withoutMessages, if_pos ha]
      exact ih (h.skip ha (hsilent c a List.mem_cons_self)) hrest
    | false =>
      rw [after_cons, withoutMessages, ha, if_neg Bool.false_ne_true, after_cons]
      exact ih (h.act ha) hrest

end Connection

end PushRelay
