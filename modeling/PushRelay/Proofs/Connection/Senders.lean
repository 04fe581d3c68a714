import PushRelay.Connection.Recorder
import PushRelay.Proofs.Connection.Ledger
import PushRelay.Transport.Socket

/-!
# PushRelay.Proofs.Connection.Senders

Senders that were handed out by a connection.

A sender knows nothing but the number of the current transport that the
connection shares with all of its senders, so it does not matter when it was
handed out.  The connection keeps a number for itself, and the two are the
same at any time (`Connection.Newest`): a sender is as good as the
connection.

Senders outlive their connection.  The drop closes the current transport,
and unless it opens again a sender reaches nothing from then on
(`Connection.Shut`).
-/

namespace PushRelay

namespace Connection

variable {γ τ η ℓ : Type} [Transport τ] {c : Connection γ τ η ℓ}

/-! ## In step -/

/-- Senders see the state that the connection sees. -/
theorem Newest.senderState_eq (hc : c.Newest) : c.senderState = c.state := by
  rw [senderState, state, hc.shared_eq_own]

/-- Senders send what the connection would. -/
theorem Newest.senderSend_eq (hc : c.Newest) (payload : Outbound) :
    c.senderSend payload = c.send payload := by
  rw [senderSend, send, hc.shared_eq_own]

/-! ## After the drop -/

/-- Without a transport the state is that of a closed one. -/
theorem stateOn_none (c : Connection γ τ η ℓ) : c.stateOn none = .closed := rfl

/-- A transport that was not made counts as closed. -/
theorem stateOn_of_missing {t : Nat} (hx : c.transports[t]? = none) :
    c.stateOn (some t) = .closed := by
  simp only [stateOn, Option.bind_some, hx]

/-- The transport of the senders is not open. -/
def Shut (c : Connection γ τ η ℓ) : Prop := c.senderState ≠ .opened

/-- Where the transport is not open, senders send nothing and change
nothing. -/
theorem Shut.senderSend_eq (hc : c.Shut) (payload : Outbound) :
    c.senderSend payload = (false, c) := by
  cases sendOn_cases c c.shared payload with
  | inl hfits =>
    obtain ⟨t, x, frame, hshared, hx, hopened, -⟩ := hfits
    rw [Shut, senderState, hshared, stateOn_of_getElem? hx] at hc
    exact absurd hopened hc
  | inr hrefused => exact hrefused

/-- A transport that changes and does not open leaves the senders shut. -/
theorem Shut.move (hc : c.Shut) {t : Nat} {f : τ → τ}
    (hf : ∀ x, c.transports[t]? = some x → Transport.state x ≠ .opened →
      Transport.state (f x) ≠ .opened) : (c.move t f).Shut := by
  cases hshared : c.shared with
  | none =>
    have hnone : (c.move t f).shared = none := hshared
    rw [Shut, senderState, hnone, stateOn_none]
    decide
  | some u =>
    have hsome : (c.move t f).shared = some u := hshared
    rw [Shut, senderState, hshared] at hc
    rw [Shut, senderState, hsome]
    cases hx : c.transports[u]? with
    | none =>
      have hmissing : (c.move t f).transports[u]? = none := by
        rw [Connection.move, List.getElem?_modify, hx]
        rfl
      rw [stateOn_of_missing hmissing]
      decide
    | some x =>
      rw [stateOn_of_getElem? hx] at hc
      by_cases htu : t = u
      · subst htu
        have hmoved : (c.move t f).transports[t]? = some (f x) := by
          simp [Connection.move, hx]
        rw [stateOn_of_getElem? hmoved]
        exact hf x hx hc
      · have hkept : (c.move t f).transports[u]? = some x := by
          simp [Connection.move, hx, htu]
        rw [stateOn_of_getElem? hkept]
        exact hc

/-- The drop shuts the senders, if asking a transport to close takes it out
of being open. -/
theorem Newest.shut_drop (hc : c.Newest) (hdropped : c.dropped = false)
    (hclose : ∀ x : τ, Transport.state (Transport.close x) ≠ .opened) : c.drop.Shut := by
  have hdrop : c.drop.Shut ↔ c.disconnect.Shut := by
    simp only [drop, hdropped]
    exact Iff.rfl
  rw [hdrop]
  cases hown : c.own with
  | none =>
    have hshared : c.disconnect.shared = none := by
      rw [(quiet_disconnect c).shared, hc.shared_eq_own, hown]
    rw [Shut, senderState, hshared, stateOn_none]
    decide
  | some t =>
    obtain ⟨x, hx⟩ := hc.exists_transport hown
    have hshared : c.disconnect.shared = some t := by
      rw [(quiet_disconnect c).shared, hc.shared_eq_own, hown]
    have hclosed : c.disconnect.transports[t]? = some (Transport.close x) := by
      simp [disconnect, hown, closeTransport, Connection.move, note, hx]
    rw [Shut, senderState, hshared, stateOn_of_getElem? hclosed]
    exact hclose x

/-- What may still happen when a connection was dropped: senders send,
events are reported to nobody, and what outlives the connection changes by
itself, but no transport opens. -/
def Detached (c : Connection γ τ η ℓ) : Action γ τ η ℓ → Prop
  | .senderSend _ | .emit _ | .arrange _ | .instruct _ => True
  | .move t f => ∀ x, c.transports[t]? = some x → Transport.state x ≠ .opened →
      Transport.state (f x) ≠ .opened
  | _ => False

variable [Connector γ τ] [Listener ℓ] [MessageHandler η]

/-- While the senders are shut nothing is told, sent or closed. -/
theorem Shut.act (hc : c.Shut) {a : Action γ τ η ℓ} (ha : c.Detached a) :
    (c.act a).2.Shut ∧ (c.act a).2.journal = c.journal := by
  cases a with
  | senderSend payload =>
    rw [Connection.act, hc.senderSend_eq]
    exact ⟨hc, rfl⟩
  | emit e =>
    simp only [Connection.act, emit]
    split
    · exact ⟨hc, rfl⟩
    · exact ⟨hc, rfl⟩
  | arrange f => exact ⟨hc, rfl⟩
  | instruct f => exact ⟨hc, rfl⟩
  | move t f => exact ⟨hc.move ha, rfl⟩
  | _ => exact ha.elim

/-- Senders stay shut, and nothing more happens, while no transport opens. -/
theorem Shut.after (hc : c.Shut) {acts : List (Action γ τ η ℓ)}
    (hacts : ∀ d a, (d, a) ∈ c.history acts → d.Detached a) :
    (c.after acts).Shut ∧ (c.after acts).journal = c.journal := by
  induction acts generalizing c with
  | nil => exact ⟨hc, rfl⟩
  | cons a acts ih =>
    obtain ⟨hnext, hjournal⟩ := hc.act (hacts c a List.mem_cons_self)
    obtain ⟨hshut, hrest⟩ := ih hnext fun d b hb => hacts d b (List.mem_cons_of_mem _ hb)
    exact ⟨hshut, hrest.trans hjournal⟩

/-! ## Runs -/

/-- In every run, at any moment of it, a sender sees the state of the
connection, and what is sent by it has the same answer and the same effect
as what the connection sends.  When the connection was dropped, nothing is
sent any more by a sender, as long as asking a transport to close takes it
out of being open and no transport opens. -/
theorem senders_after {url : String} {k : γ} {h : η} {l : ℓ} {c₀ : Connection γ τ η ℓ}
    (hstart : ofUrl url k h l = .ok c₀) (acts : List (Action γ τ η ℓ)) :
    (∀ m, Steps (c₀.after acts) m →
      m.senderState = m.state ∧ ∀ payload, m.senderSend payload = m.send payload) ∧
    ((c₀.after acts).dropped = false →
      (∀ x : τ, Transport.state (Transport.close x) ≠ .opened) →
      ∀ later, (∀ d a, (d, a) ∈ (c₀.after acts).drop.history later → d.Detached a) →
        let gone := (c₀.after acts).drop.after later
        (∀ payload, gone.senderSend payload = (false, gone)) ∧
          gone.journal = (c₀.after acts).drop.journal) := by
  have hnewest : (c₀.after acts).Newest :=
    after_invariant (fun _ _ => newest_step) (fun _ t f _ hd => hd.move t f)
      (newest_of_ofUrl hstart)
  constructor
  · intro m hm
    have hm : m.Newest := steps_invariant (fun _ _ => newest_step) hm hnewest
    exact ⟨hm.senderState_eq, hm.senderSend_eq⟩
  · intro hdropped hclose later hlater
    obtain ⟨hshut, hjournal⟩ := (hnewest.shut_drop hdropped hclose).after hlater
    exact ⟨hshut.senderSend_eq, hjournal⟩

/-- A socket that was asked to close is not open. -/
theorem socket_close_ne_opened (x : Socket) :
    Transport.state (Transport.close x) ≠ .opened := by
  change x.close.state ≠ .opened
  unfold Socket.close
  split
  · show ReadyState.closing ≠ .opened
    decide
  · next hended => exact fun hopened => hended (.inr hopened)

/-- A socket that opened is dropped with its connection; its handshake comes
to an end for a second time, its task ends it, and a sender that was there
before the first attempt to connect still tries to send. -/
theorem senders_after_drop :
    let c₀ : Connection SocketConfig Socket RecordingHandler Recorder :=
      { url := "ws://relay", connector := {}, handler := ⟨⟨.net, ∅⟩, []⟩, listener := {} }
    let opens := [.senderSend (.text "early"), .connect, .move 0 fun x => x.tryOpen.2,
      .handleEvent ⟨0, .opened⟩, .senderSend (.text "heard")]
    let later := [.senderSend (.text "late"), .move 0 fun x => x.tryOpen.2,
      .move 0 fun x => x.setState .closed, .emit ⟨0, .closed none ""⟩]
    let gone := (c₀.after opens).drop.after later
    ofUrl c₀.url c₀.connector c₀.handler c₀.listener = .ok c₀ ∧
      (c₀.after opens).dropped = false ∧ (c₀.after opens).senderState = .opened ∧
      (c₀.after opens).senderState = (c₀.after opens).state ∧
      gone.senderSend (.text "never") = (false, gone) ∧
      gone.journal = (c₀.after opens).drop.journal := by
  intro c₀ opens later gone
  have hstart : ofUrl c₀.url c₀.connector c₀.handler c₀.listener = .ok c₀ := rfl
  have hdropped : (c₀.after opens).dropped = false := by decide +kernel
  have hopened : (c₀.after opens).senderState = .opened := by decide +kernel
  obtain ⟨hstep, hdrop⟩ := senders_after hstart opens
  have hlater : ∀ d a, (d, a) ∈ (c₀.after opens).drop.history later → d.Detached a := by
    intro d a hmem
    obtain _ | ⟨_, _ | ⟨_, _ | ⟨_, _ | ⟨_, ⟨⟩⟩⟩⟩⟩ := hmem
    · trivial
    -- the drop has left the socket closing, and a handshake does not open it then
    · intro x hx hshut
      have hstate : some x.state = some .closing := by
        rw [← Option.map_some, ← hx]
        decide +kernel
      change x.tryOpen.2.state ≠ .opened
      rw [Socket.tryOpen, Option.some.inj hstate]
      exact hshut
    · intro x _ _
      exact nofun
    · trivial
  obtain ⟨hsend, hjournal⟩ := hdrop hdropped socket_close_ne_opened later hlater
  exact ⟨hstart, hdropped, hopened, (hstep _ .refl).1, hsend _, hjournal⟩

end Connection

end PushRelay
