import PushRelay.Proofs.Connection.Ledger

/-!
# PushRelay.Proofs.Connection.Watching

A connection that is watched.

Something that keeps a log of its own stands around every transport and
around the listener (`Watched`): a transport enters the frames that it is
handed, with its answers, and the requests to close, and the listener what
it is told.  Nobody notices: what is done to a connection that is watched is
done to the one inside, with the same results and the same journal
(`act_unwatched`, `unwatched_after`).
-/

namespace PushRelay

/-! ## What keeps a log -/

/-- Something that is watched: what it is called for goes to a log. -/
structure Watched (α ε : Type) where
  inner : α
  log : List ε

/-- A call of a transport. -/
inductive TransportCall where
  /-- it is handed a frame, which it accepts or does not -/
  | send (frame : String) (accepted : Bool)
  /-- it is asked to close -/
  | close
deriving DecidableEq

/-- The frame that a transport accepts in a call. -/
def TransportCall.frame? : TransportCall → Option String
  | .send frame true => some frame
  | _ => none

/-- Something that a listener hears. -/
structure Heard where
  news : News
  /-- the state of the connection, as the listener sees it at that moment -/
  state : ReadyState
  /-- whether the listener copes -/
  coped : Bool
deriving DecidableEq

/-- What makes transports that are watched from the beginning. -/
structure Watching (γ : Type) where
  inner : γ

instance {τ : Type} [Transport τ] : Transport (Watched τ TransportCall) where
  state x := Transport.state x.inner
  send frame x :=
    let (result, inner) := Transport.send frame x.inner
    (result, ⟨inner, x.log ++ [.send frame result.isOk]⟩)
  close x := ⟨Transport.close x.inner, x.log ++ [.close]⟩

instance {γ τ : Type} [Connector γ τ] : Connector (Watching γ) (Watched τ TransportCall) where
  connect url k :=
    let (result, inner) := Connector.connect url k.inner
    (result.map fun x => ⟨x, []⟩, ⟨inner⟩)

/-- A watched listener looks at the state before it reacts. -/
instance {ℓ : Type} [Listener ℓ] : Listener (Watched ℓ Heard) where
  notify news l :=
    .state fun s => (Listener.notify news l.inner).map fun (ok, inner) =>
      (ok, ⟨inner, l.log ++ [⟨news, s, ok⟩]⟩)

namespace Connection

variable {γ τ η ℓ : Type}

/-- A connection whose transports and listener are watched. -/
abbrev Watch (γ τ η ℓ : Type) : Type :=
  Connection (Watching γ) (Watched τ TransportCall) η (Watched ℓ Heard)

/-- The connection without the logs. -/
def unwatched (w : Watch γ τ η ℓ) : Connection γ τ η ℓ where
  url := w.url
  connector := w.connector.inner
  handler := w.handler
  listener := w.listener.inner
  transports := w.transports.map Watched.inner
  own := w.own
  shared := w.shared
  queue := w.queue
  journal := w.journal
  dropped := w.dropped

/-- The same action on a connection that is watched; a new listener has
heard nothing yet. -/
def Action.watch : Action γ τ η ℓ →
    Action (Watching γ) (Watched τ TransportCall) η (Watched ℓ Heard)
  | .connect => .connect
  | .disconnect => .disconnect
  | .drop => .drop
  | .send payload => .send payload
  | .senderSend payload => .senderSend payload
  | .setListener listener => .setListener ⟨listener, []⟩
  | .handleEvent event => .handleEvent event
  | .emit event => .emit event
  | .processNext => .processNext
  | .move t f => .move t fun x => { x with inner := f x.inner }
  | .arrange f => .arrange fun k => ⟨f k.inner⟩
  | .instruct f => .instruct f

/-! ## Nobody notices -/

@[simp] theorem own_unwatched (w : Watch γ τ η ℓ) : w.unwatched.own = w.own := rfl

@[simp] theorem shared_unwatched (w : Watch γ τ η ℓ) : w.unwatched.shared = w.shared := rfl

@[simp] theorem handler_unwatched (w : Watch γ τ η ℓ) : w.unwatched.handler = w.handler := rfl

@[simp] theorem queue_unwatched (w : Watch γ τ η ℓ) : w.unwatched.queue = w.queue := rfl

@[simp] theorem dropped_unwatched (w : Watch γ τ η ℓ) : w.unwatched.dropped = w.dropped := rfl

/-- An entry is the same whether it is watched or not. -/
@[simp] theorem unwatched_note (w : Watch γ τ η ℓ) (e : Entry) :
    (w.note e).unwatched = w.unwatched.note e := rfl

/-- To change a watched transport is to change the one inside. -/
theorem unwatched_set (w : Watch γ τ η ℓ) (t : Nat) (x : Watched τ TransportCall) :
    unwatched { w with transports := w.transports.set t x } =
      { w.unwatched with transports := w.unwatched.transports.set t x.inner } := by
  simp only [unwatched, List.map_set]

/-- A change that goes through to the transport inside is one of it. -/
theorem unwatched_move (w : Watch γ τ η ℓ) (t : Nat) {f : τ → τ}
    {g : Watched τ TransportCall → Watched τ TransportCall} (h : ∀ x, (g x).inner = f x.inner) :
    (w.move t g).unwatched = w.unwatched.move t f := by
  have htransports : (w.transports.modify t g).map Watched.inner =
      (w.transports.map Watched.inner).modify t f := by
    apply List.ext_getElem?
    intro i
    simp only [List.getElem?_map, List.getElem?_modify]
    cases w.transports[i]? with
    | none => rfl
    | some x =>
      simp only [Option.map_eq_map, Option.map_some]
      split
      · rw [h]
      · rfl
  simp only [unwatched, move, htransports]

variable [Transport τ]

/-- Watched transports show the states of those inside. -/
theorem stateOn_unwatched (w : Watch γ τ η ℓ) (on : Option Nat) :
    w.unwatched.stateOn on = w.stateOn on := by
  cases on with
  | none => rfl
  | some t =>
    simp only [stateOn, unwatched, Option.bind_some, List.getElem?_map]
    cases w.transports[t]? with
    | none => rfl
    | some x => rfl

/-- A connection stands the same whether it is watched or not. -/
theorem standing_unwatched (w : Watch γ τ η ℓ) : w.unwatched.standing = w.standing := by
  simp only [standing, unwatched, List.map_map]
  rfl

/-- To send is the same under observation. -/
theorem sendOn_unwatched (w : Watch γ τ η ℓ) (on : Option Nat) (payload : Outbound) :
    w.unwatched.sendOn on payload =
      ((w.sendOn on payload).1, (w.sendOn on payload).2.unwatched) := by
  cases on with
  | none => rfl
  | some t =>
    have hget : w.unwatched.transports[t]? = w.transports[t]?.map Watched.inner :=
      List.getElem?_map
    cases hx : w.transports[t]? with
    | none => simp only [sendOn, hget, hx, Option.map_none]
    | some x =>
      rw [hx, Option.map_some] at hget
      by_cases hopened : Transport.state x.inner = .opened
      · cases hframe : payload.frame with
        | error e =>
          have hopened' : Transport.state x = .opened := hopened
          simp only [sendOn, hget, hx, hopened, hopened', hframe, ne_eq, not_true_eq_false,
            if_false]
        | ok frame =>
          rw [sendOn_of_frame hget hopened hframe, sendOn_of_frame hx hopened hframe,
            unwatched_note, unwatched_set]
          rfl
      · have hopened' : Transport.state x ≠ .opened := hopened
        simp only [sendOn, hget, hx, ne_eq, hopened, hopened', not_false_eq_true, if_true]

/-- A reaction is carried out the same under observation. -/
theorem carryOut_unwatched {α : Type} (w : Watch γ τ η ℓ) (on : Option Nat) (r : Reaction α) :
    w.unwatched.carryOut on r = ((w.carryOut on r).1, (w.carryOut on r).2.unwatched) := by
  induction r generalizing w with
  | done a => rfl
  | print line next ih => exact ih (w.note (.printed line))
  | state next ih =>
    rw [carryOut, stateOn_unwatched]
    exact ih _ w
  | send payload next ih =>
    rw [carryOut, sendOn_unwatched]
    exact ih _ (w.sendOn on payload).2

/-- To close a transport is the same under observation. -/
theorem unwatched_closeTransport (w : Watch γ τ η ℓ) (t : Nat) :
    (w.closeTransport t).unwatched = w.unwatched.closeTransport t := by
  rw [closeTransport, unwatched_note, unwatched_move w t fun x => rfl]
  rfl

/-- To disconnect is the same under observation. -/
theorem unwatched_disconnect (w : Watch γ τ η ℓ) :
    w.disconnect.unwatched = w.unwatched.disconnect := by
  cases hown : w.own with
  | none => simp only [disconnect, own_unwatched, hown]
  | some t => simp only [disconnect, own_unwatched, hown, unwatched_closeTransport]

/-- To be dropped is the same under observation. -/
theorem unwatched_drop (w : Watch γ τ η ℓ) : w.drop.unwatched = w.unwatched.drop := by
  cases hdropped : w.dropped with
  | true => simp only [drop, dropped_unwatched, hdropped, if_true]
  | false =>
    simp only [drop, dropped_unwatched, hdropped, Bool.false_eq_true, if_false,
      ← unwatched_disconnect]
    rfl

omit [Transport τ] in
/-- An event is queued the same under observation. -/
theorem emit_unwatched (w : Watch γ τ η ℓ) (e : Event) :
    w.unwatched.emit e = ((w.emit e).1, (w.emit e).2.unwatched) := by
  cases hdropped : w.dropped with
  | true => simp only [emit, dropped_unwatched, hdropped, if_true]
  | false =>
    simp only [emit, dropped_unwatched, hdropped, Bool.false_eq_true, if_false]
    rfl

variable [Listener ℓ]

/-- A watched listener reacts as the one inside, and enters into its log
what it was told. -/
theorem tell_watched (w : Watch γ τ η ℓ) (t : Nat) (on : Option Nat) (news : News) :
    let told := w.note (.told t news w.standing)
    let carried := told.carryOut on (Listener.notify news w.listener.inner)
    let heard : Heard := ⟨news, told.stateOn on, carried.1.1⟩
    let left := carried.2.setListener ⟨carried.1.2, w.listener.log ++ [heard]⟩
    w.tell t on news =
      (carried.1.1, if carried.1.1 then left else left.note (.unheard t news)) := by
  intro told carried heard left
  have hcarry : told.carryOut on (Listener.notify news told.listener) =
      ((carried.1.1, ⟨carried.1.2, w.listener.log ++ [heard]⟩), carried.2) :=
    carryOut_map told on _ _
  simp only [tell]
  rw [hcarry]

/-- The listener is told the same under observation. -/
theorem tell_unwatched (w : Watch γ τ η ℓ) (t : Nat) (on : Option Nat) (news : News) :
    w.unwatched.tell t on news = ((w.tell t on news).1, (w.tell t on news).2.unwatched) := by
  have hcarry := carryOut_unwatched (w.note (.told t news w.standing)) on
    (Listener.notify news w.listener.inner)
  rw [unwatched_note, ← standing_unwatched] at hcarry
  rw [tell_watched]
  simp only [tell]
  rw [show (w.unwatched.note (.told t news w.unwatched.standing)).listener = w.listener.inner
    from rfl, hcarry, standing_unwatched]
  dsimp only
  split
  · rfl
  · rfl

/-- A state is told the same under observation. -/
theorem tellState_unwatched (w : Watch γ τ η ℓ) (t : Nat) :
    w.unwatched.tellState t = ((w.tellState t).1, (w.tellState t).2.unwatched) := by
  simp only [tellState, own_unwatched, shared_unwatched, stateOn_unwatched, tell_unwatched]
  split <;> rfl

/-- A state and then more are told the same under observation. -/
theorem tellThen_unwatched (w : Watch γ τ η ℓ) (t : Nat) (on : Option Nat) (news : News) :
    w.unwatched.tellThen t on news =
      ((w.tellThen t on news).1, (w.tellThen t on news).2.unwatched) := by
  simp only [tellThen, tellState_unwatched, tell_unwatched]
  split <;> rfl

/-- To connect is the same under observation. -/
theorem connect_unwatched [Connector γ τ] (w : Watch γ τ η ℓ) :
    w.unwatched.connect = (w.connect.1, w.connect.2.unwatched) := by
  have hstate : w.unwatched.state = w.state := stateOn_unwatched w w.own
  by_cases hc : w.state = .closed
  · have hc' : w.unwatched.state = .closed := hstate.trans hc
    cases hk : Connector.connect w.url w.connector.inner with
    | mk result k =>
      cases result with
      | error e =>
        have hk' : Connector.connect w.url w.connector = (.error e, ⟨k⟩) := by
          simp only [Connector.connect, hk, Except.map]
        rw [connect_of_error hc' hk, connect_of_error hc hk']
        rfl
      | ok x =>
        have hk' : Connector.connect w.url w.connector = (.ok ⟨x, []⟩, ⟨k⟩) := by
          simp only [Connector.connect, hk, Except.map]
        have hinstall : w.unwatched.install x k = (w.install ⟨x, []⟩ ⟨k⟩).unwatched := by
          simp [install, unwatched, note]
        have hlength : w.unwatched.transports.length = w.transports.length := List.length_map _
        rw [connect_of_closed hc' hk, connect_of_closed hc hk', hinstall, hlength,
          tellState_unwatched]
        dsimp only
        split
        · rfl
        · rw [unwatched_closeTransport]
  · rw [connect_of_not_closed hc, connect_of_not_closed (hstate.trans_ne hc)]

/-- An opening is handled the same under observation. -/
theorem unwatched_handleOpened (w : Watch γ τ η ℓ) (t : Nat) :
    (w.handleOpened t).unwatched = w.unwatched.handleOpened t := by
  by_cases hown : w.own = some t
  · rw [handleOpened_eq hown, handleOpened_eq (c := w.unwatched) hown, tellThen_unwatched]
    dsimp only
    split
    · rfl
    · rw [unwatched_closeTransport]
  · rw [handleOpened, if_pos hown, handleOpened, own_unwatched, if_pos hown,
      unwatched_closeTransport]

/-- A closing is handled the same under observation. -/
theorem unwatched_handleClosed (w : Watch γ τ η ℓ) (t : Nat) (code : Option Nat)
    (reason : String) :
    (w.handleClosed t code reason).unwatched = w.unwatched.handleClosed t code reason := by
  rw [handleClosed_eq, handleClosed_eq, tellThen_unwatched]
  rfl

/-- A failure is handled the same under observation. -/
theorem unwatched_handleFailed (w : Watch γ τ η ℓ) (t : Nat) (message : String) :
    (w.handleFailed t message).unwatched = w.unwatched.handleFailed t message := by
  rw [handleFailed_eq, handleFailed_eq, tellThen_unwatched, unwatched_closeTransport]
  rfl

variable [MessageHandler η]

omit [Listener ℓ] in
/-- A message is handled the same under observation. -/
theorem handleMessage_unwatched (w : Watch γ τ η ℓ) (text : String) :
    w.unwatched.handleMessage text =
      ((w.handleMessage text).1, (w.handleMessage text).2.unwatched) := by
  simp only [handleMessage, handler_unwatched, shared_unwatched, carryOut_unwatched]
  split <;> rfl

/-- An event is handled the same under observation. -/
theorem handleEvent_unwatched (w : Watch γ τ η ℓ) (e : Event) :
    w.unwatched.handleEvent e = ((w.handleEvent e).1, (w.handleEvent e).2.unwatched) := by
  cases hkind : e.kind with
  | opened => simp only [handleEvent, hkind, unwatched_handleOpened]
  | message text => simp only [handleEvent, hkind, handleMessage_unwatched]
  | closed code reason => simp only [handleEvent, hkind, unwatched_handleClosed]
  | failed message => simp only [handleEvent, hkind, unwatched_handleFailed]

variable [Connector γ τ]

/-- An action on a connection that is watched does what it does on the one
inside. -/
theorem act_unwatched (w : Watch γ τ η ℓ) (a : Action γ τ η ℓ) :
    w.unwatched.act a = ((w.act a.watch).1, (w.act a.watch).2.unwatched) := by
  cases a with
  | connect => exact connect_unwatched w
  | disconnect => simp only [act, Action.watch, unwatched_disconnect]
  | drop => simp only [act, Action.watch, unwatched_drop]
  | send payload => simp only [act, Action.watch, send, own_unwatched, sendOn_unwatched]
  | senderSend payload =>
    simp only [act, Action.watch, senderSend, shared_unwatched, sendOn_unwatched]
  | setListener listener => rfl
  | handleEvent e => exact handleEvent_unwatched w e
  | emit e => simp only [act, Action.watch, emit_unwatched]
  | processNext =>
    cases hq : w.queue with
    | nil =>
      simp only [act, Action.watch, processNext?, nextEvent?, queue_unwatched, hq]
      rfl
    | cons e queue =>
      simp only [act, Action.watch, processNext?, nextEvent?, queue_unwatched, hq]
      exact handleEvent_unwatched { w with queue := queue } e
  | move t f =>
    have hmove := unwatched_move w t (f := f) (g := fun x => { x with inner := f x.inner })
      fun x => rfl
    simp only [act, Action.watch, hmove]
  | arrange f => rfl
  | instruct f => rfl

/-- Nobody notices that a connection is watched: a run over it is the run
over the connection inside. -/
theorem unwatched_after (w : Watch γ τ η ℓ) (acts : List (Action γ τ η ℓ)) :
    (w.after (acts.map Action.watch)).unwatched = w.unwatched.after acts := by
  induction acts generalizing w with
  | nil => rfl
  | cons a acts ih => rw [List.map_cons, after_cons, after_cons, ih, act_unwatched]

end Connection

end PushRelay
