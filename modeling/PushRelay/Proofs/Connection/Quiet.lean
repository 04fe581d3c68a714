import PushRelay.Proofs.Connection.Run

/-!
# PushRelay.Proofs.Connection.Quiet

What stays as it is when no transport is made.

Only an attempt to connect makes a transport and moves the connection on to
it.  All else, the reactions of listeners and handlers among it, leaves the
current transport and the number of transports as they are (`Quiet`).  What
a reaction does on its way leaves the handler and the listener alone too
(`Steady`); these change with its result.
-/

namespace PushRelay

namespace Connection

variable {γ τ η ℓ : Type} [Transport τ]

/-- The state of a transport that was made is its own. -/
theorem stateOn_of_getElem? {c : Connection γ τ η ℓ} {t : Nat} {x : τ}
    (hx : c.transports[t]? = some x) : c.stateOn (some t) = Transport.state x := by
  simp only [stateOn, Option.bind_some, hx]

omit [Transport τ] in
/-- After a change of transport `t` each one is what it was before, or what
the change made of it. -/
theorem exists_of_getElem?_move {c : Connection γ τ η ℓ} {t i : Nat} {f : τ → τ} {y : τ}
    (hy : (c.move t f).transports[i]? = some y) :
    ∃ x, c.transports[i]? = some x ∧ y = if t = i then f x else x := by
  rw [move, List.getElem?_modify, Option.map_eq_map, Option.map_eq_some_iff] at hy
  obtain ⟨x, hx, hxy⟩ := hy
  exact ⟨x, hx, hxy.symm⟩

/-- From `c` to `d` no transport was made, and the current one is the
same. -/
structure Quiet (c d : Connection γ τ η ℓ) : Prop where
  own : d.own = c.own
  shared : d.shared = c.shared
  length : d.transports.length = c.transports.length

omit [Transport τ] in
theorem Quiet.refl (c : Connection γ τ η ℓ) : c.Quiet c := ⟨rfl, rfl, rfl⟩

omit [Transport τ] in
/-- A run of calls that make no transport makes none. -/
theorem Quiet.trans {c d e : Connection γ τ η ℓ} (hcd : c.Quiet d) (hde : d.Quiet e) : c.Quiet e :=
  ⟨hde.own.trans hcd.own, hde.shared.trans hcd.shared, hde.length.trans hcd.length⟩

omit [Transport τ] in
theorem quiet_note (c : Connection γ τ η ℓ) (e : Entry) : c.Quiet (c.note e) := ⟨rfl, rfl, rfl⟩

/-- To send makes no transport. -/
theorem quiet_sendOn (c : Connection γ τ η ℓ) (on : Option Nat) (payload : Outbound) :
    c.Quiet (c.sendOn on payload).2 := by
  unfold sendOn
  split
  · exact .refl c
  · split
    · exact .refl c
    · split
      · exact .refl c
      · split
        · exact .refl c
        · exact ⟨rfl, rfl, List.length_set⟩

/-- A reaction makes no transport. -/
theorem quiet_carryOut {α : Type} (c : Connection γ τ η ℓ) (on : Option Nat) (r : Reaction α) :
    c.Quiet (c.carryOut on r).2 := by
  induction r generalizing c with
  | done a => exact .refl c
  | print line next ih => exact (quiet_note c (.printed line)).trans (ih _)
  | state next ih => exact ih _ _
  | send payload next ih => exact (quiet_sendOn c on payload).trans (ih _ _)

/-- To close a transport makes none. -/
theorem quiet_closeTransport (c : Connection γ τ η ℓ) (t : Nat) : c.Quiet (c.closeTransport t) :=
  ⟨rfl, rfl, List.length_modify ..⟩

/-- To disconnect makes no transport. -/
theorem quiet_disconnect (c : Connection γ τ η ℓ) : c.Quiet c.disconnect := by
  unfold disconnect
  split
  · exact quiet_closeTransport c _
  · exact .refl c

/-! ## The handler and the listener -/

/-- From `c` to `d` the handler and the listener are the same. -/
structure Steady (c d : Connection γ τ η ℓ) : Prop where
  handler : d.handler = c.handler
  listener : d.listener = c.listener

omit [Transport τ] in
theorem Steady.refl (c : Connection γ τ η ℓ) : c.Steady c := ⟨rfl, rfl⟩

omit [Transport τ] in
/-- What both parts of a run leave alone, the run leaves alone. -/
theorem Steady.trans {c d e : Connection γ τ η ℓ} (h : c.Steady d) (h' : d.Steady e) :
    c.Steady e :=
  ⟨h'.handler.trans h.handler, h'.listener.trans h.listener⟩

/-- To send leaves the handler and the listener alone. -/
theorem steady_sendOn (c : Connection γ τ η ℓ) (on : Option Nat) (payload : Outbound) :
    c.Steady (c.sendOn on payload).2 := by
  unfold sendOn
  split
  · exact .refl c
  · split
    · exact .refl c
    · split
      · exact .refl c
      · split
        · exact .refl c
        · exact ⟨rfl, rfl⟩

/-- So does a reaction, whose new owner is put in place afterwards. -/
theorem steady_carryOut {α : Type} (c : Connection γ τ η ℓ) (on : Option Nat) (r : Reaction α) :
    c.Steady (c.carryOut on r).2 := by
  induction r generalizing c with
  | done a => exact .refl c
  | print line next ih =>
    have hnote : c.Steady (c.note (.printed line)) := ⟨rfl, rfl⟩
    exact hnote.trans (ih _)
  | state next ih => exact ih _ _
  | send payload next ih => exact (steady_sendOn c on payload).trans (ih _ _)

/-- So does the closing of a transport. -/
theorem steady_closeTransport (c : Connection γ τ η ℓ) (t : Nat) :
    c.Steady (c.closeTransport t) :=
  ⟨rfl, rfl⟩

/-- So does giving the connection up. -/
theorem steady_disconnect (c : Connection γ τ η ℓ) : c.Steady c.disconnect := by
  unfold disconnect
  split
  · exact steady_closeTransport c _
  · exact .refl c

/-! ## The listener is told something -/

variable [Listener ℓ]

/-- To tell the listener something makes no transport. -/
theorem quiet_tell (c : Connection γ τ η ℓ) (t : Nat) (on : Option Nat) (news : News) :
    c.Quiet (c.tell t on news).2 := by
  have hcarry := quiet_carryOut (c.note (.told t news c.standing)) on
    (Listener.notify news c.listener)
  simp only [tell]
  split
  · exact ⟨hcarry.own, hcarry.shared, hcarry.length⟩
  · exact ⟨hcarry.own, hcarry.shared, hcarry.length⟩

/-- To tell it a state makes none. -/
theorem quiet_tellState (c : Connection γ τ η ℓ) (t : Nat) : c.Quiet (c.tellState t).2 := by
  unfold tellState
  split
  · exact quiet_tell ..
  · exact .refl c

/-! ## Events -/

/-- The listener is told of the opening of the current transport after its
state, and the transport is closed if it did not cope with one of them. -/
theorem handleOpened_of_current {c : Connection γ τ η ℓ} {t : Nat} (hown : c.own = some t) :
    c.handleOpened t =
      let told := if (c.tellState t).1 then (c.tellState t).2.tell t (some t) .opened
        else (false, (c.tellState t).2)
      if told.1 then told.2 else told.2.closeTransport t := by
  simp only [handleOpened, hown, ne_eq, not_true_eq_false, if_false]

/-- Tells the listener the state of transport `t`, and if it copes with that,
some news of the transport; its sends after the news go to `on`. -/
def tellThen (c : Connection γ τ η ℓ) (t : Nat) (on : Option Nat) (news : News) :
    Bool × Connection γ τ η ℓ :=
  if (c.tellState t).1 then (c.tellState t).2.tell t on news else (false, (c.tellState t).2)

/-- The opening of the current transport is told after its state, and a
failure closes the transport. -/
theorem handleOpened_eq {c : Connection γ τ η ℓ} {t : Nat} (hown : c.own = some t) :
    c.handleOpened t =
      if (c.tellThen t (some t) .opened).1 then (c.tellThen t (some t) .opened).2
      else (c.tellThen t (some t) .opened).2.closeTransport t :=
  handleOpened_of_current hown

/-- A closing is told after the state, and nothing is closed. -/
theorem handleClosed_eq (c : Connection γ τ η ℓ) (t : Nat) (code : Option Nat) (reason : String) :
    c.handleClosed t code reason = (c.tellThen t c.shared (.closed code reason)).2 := by
  simp only [handleClosed, tellThen, (quiet_tellState c t).shared]
  split <;> rfl

/-- A failure is told after the state, and the transport is closed in any
case. -/
theorem handleFailed_eq (c : Connection γ τ η ℓ) (t : Nat) (message : String) :
    c.handleFailed t message =
      (c.tellThen t c.shared (.failed message)).2.closeTransport t := by
  simp only [handleFailed, tellThen, (quiet_tellState c t).shared]
  split <;> rfl

/-- An opening makes no transport. -/
theorem quiet_handleOpened (c : Connection γ τ η ℓ) (t : Nat) : c.Quiet (c.handleOpened t) := by
  by_cases hown : c.own = some t
  · rw [handleOpened_of_current hown]
    extract_lets told
    have htold : c.Quiet told.2 := by
      simp only [told]
      split
      · exact (quiet_tellState c t).trans (quiet_tell ..)
      · exact quiet_tellState c t
    split
    · exact htold
    · exact htold.trans (quiet_closeTransport _ t)
  · rw [handleOpened, if_pos hown]
    exact quiet_closeTransport c t

/-- A closing makes no transport. -/
theorem quiet_handleClosed (c : Connection γ τ η ℓ) (t : Nat) (code : Option Nat)
    (reason : String) : c.Quiet (c.handleClosed t code reason) := by
  unfold handleClosed
  dsimp only
  split
  · exact (quiet_tellState c t).trans (quiet_tell ..)
  · exact quiet_tellState c t

/-- A failure makes no transport. -/
theorem quiet_handleFailed (c : Connection γ τ η ℓ) (t : Nat) (message : String) :
    c.Quiet (c.handleFailed t message) := by
  unfold handleFailed
  dsimp only
  split
  · exact ((quiet_tellState c t).trans (quiet_tell ..)).trans (quiet_closeTransport _ t)
  · exact (quiet_tellState c t).trans (quiet_closeTransport _ t)

variable [MessageHandler η]

omit [Listener ℓ] in
/-- A message makes no transport. -/
theorem quiet_handleMessage (c : Connection γ τ η ℓ) (text : String) :
    c.Quiet (c.handleMessage text).2 := by
  unfold handleMessage
  split
  · exact .refl c
  · next message _ =>
    have hcarry := quiet_carryOut c c.shared (MessageHandler.handle message c.handler)
    exact ⟨hcarry.own, hcarry.shared, hcarry.length⟩

/-- No event makes a transport. -/
theorem quiet_handleEvent (c : Connection γ τ η ℓ) (e : Event) :
    c.Quiet (c.handleEvent e).2 := by
  unfold handleEvent
  split
  · exact quiet_handleOpened c _
  · exact quiet_handleMessage c _
  · exact quiet_handleClosed c _ _ _
  · exact quiet_handleFailed c _ _

/-- Only an attempt to connect is not quiet. -/
theorem quiet_act [Connector γ τ] (c : Connection γ τ η ℓ) {a : Action γ τ η ℓ}
    (ha : a ≠ .connect) : c.Quiet (c.act a).2 := by
  cases a with
  | connect => exact absurd rfl ha
  | disconnect => exact quiet_disconnect c
  | drop =>
    simp only [act, drop]
    split
    · exact .refl c
    · exact ⟨(quiet_disconnect c).own, (quiet_disconnect c).shared, (quiet_disconnect c).length⟩
  | send payload => exact quiet_sendOn c _ payload
  | senderSend payload => exact quiet_sendOn c _ payload
  | setListener listener => exact ⟨rfl, rfl, rfl⟩
  | handleEvent e => exact quiet_handleEvent c e
  | emit e =>
    simp only [act, emit]
    split
    · exact .refl c
    · exact ⟨rfl, rfl, rfl⟩
  | processNext =>
    simp only [act, processNext?, nextEvent?]
    split
    · exact .refl c
    · next e queue hq =>
      have hevent := quiet_handleEvent { c with queue := queue } e
      exact ⟨hevent.own, hevent.shared, hevent.length⟩
  | move t f => exact ⟨rfl, rfl, List.length_modify ..⟩
  | arrange f => exact ⟨rfl, rfl, rfl⟩
  | instruct f => exact ⟨rfl, rfl, rfl⟩

end Connection

end PushRelay
