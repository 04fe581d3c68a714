import PushRelay.Connection.Recorder
import PushRelay.Proofs.Connection.Step
import PushRelay.Transport.Scripted

/-!
# PushRelay.Proofs.Connection.Live

A connection has at most one transport that is not closed.

A new transport is made only while the current one is closed.  So if every
transport but the current one is closed before, it is so afterwards: the
one that is superseded was closed as well.  No step opens a closed
transport again, since frames go to open transports only, and `close` does
not bring a transport back to life (`Transport.StaysClosed`).
-/

namespace PushRelay

/-- Asking a closed transport to close leaves it closed. -/
def Transport.StaysClosed (τ : Type) [Transport τ] : Prop :=
  ∀ x : τ, Transport.state x = .closed → Transport.state (Transport.close x) = .closed

namespace Connection

variable {γ τ η ℓ : Type} [Transport τ] {c d : Connection γ τ η ℓ}

/-- No change that a transport undergoes by itself brings it back to
life. -/
def Action.StaysClosed : Action γ τ η ℓ → Prop
  | .move _ f => ∀ x : τ, Transport.state x = .closed → Transport.state (f x) = .closed
  | _ => True

/-- Transport `t` was made and is not closed. -/
def Live (c : Connection γ τ η ℓ) (t : Nat) : Prop :=
  ∃ x, c.transports[t]? = some x ∧ Transport.state x ≠ .closed

/-- Only the current transport may be live. -/
def OneLive (c : Connection γ τ η ℓ) : Prop := ∀ t, c.Live t → c.own = some t

/-- No two transports are live at once. -/
theorem OneLive.unique (hc : c.OneLive) {t t' : Nat} (ht : c.Live t) (ht' : c.Live t') : t = t' :=
  Option.some.inj ((hc t ht).symm.trans (hc t' ht'))

/-! ## Steps -/

/-- Transports of which none comes to life keep the invariant. -/
theorem OneLive.of_live (hc : c.OneLive) (hown : d.own = c.own)
    (hlive : ∀ t, d.Live t → c.Live t) : d.OneLive := by
  intro t ht
  rw [hown]
  exact hc t (hlive t ht)

/-- A transport that changes and was closed stays so. -/
theorem live_of_move {t i : Nat} {f : τ → τ}
    (hf : ∀ x : τ, Transport.state x = .closed → Transport.state (f x) = .closed)
    (ht : (c.move i f).Live t) : c.Live t := by
  obtain ⟨y, hy, hlive⟩ := ht
  obtain ⟨x, hx, rfl⟩ := exists_of_getElem?_move hy
  have hnot : Transport.state x ≠ .closed := by
    intro hclosed
    split at hlive
    · exact hlive (hf x hclosed)
    · exact hlive hclosed
  exact ⟨x, hx, hnot⟩

/-- The new transport is the only one that may be live, since the
connection was closed. -/
theorem oneLive_install (hc : c.OneLive) (closed : c.state = .closed) (x : τ) (k : γ) :
    (c.install x k).OneLive := by
  intro t ht
  obtain ⟨y, hy, hlive⟩ := ht
  obtain hold | ⟨rfl, -⟩ := getElem?_install_cases hy
  · -- an older transport that is live would be the current one
    have hown : c.own = some t := hc t ⟨y, hold, hlive⟩
    rw [state, hown, stateOn_of_getElem? hold] at closed
    exact absurd closed hlive
  · rfl

/-- In every step only the current transport may be live. -/
theorem oneLive_step [Connector γ τ] (law : Transport.StaysClosed τ) (h : Step c d)
    (hc : c.OneLive) : d.OneLive := by
  cases h with
  | created closed _ => exact oneLive_install hc closed _ _
  | @sent i x frame there opened =>
    refine hc.of_live rfl ?_
    intro t ht
    obtain ⟨y, hy, hlive⟩ := ht
    rw [note, List.getElem?_set] at hy
    split at hy
    · next hit =>
      have hx : Transport.state x ≠ .closed := by
        rw [opened]
        decide
      rw [← hit]
      exact ⟨x, there, hx⟩
    · exact ⟨y, hy, hlive⟩
  | closed t =>
    refine hc.of_live rfl ?_
    intro t' ht'
    exact live_of_move law ht'
  | told | unheard | printed | connector | handler | listener | queue | dropped =>
    exact hc

/-! ## Attempts to connect -/

variable [Connector γ τ] [Listener ℓ]

omit [Listener ℓ] in
/-- Whether an action makes a transport: it is an attempt to connect, the
connection is closed, and the connector succeeds. -/
def opens (c : Connection γ τ η ℓ) : Action γ τ η ℓ → Bool
  | .connect => c.state = .closed && (Connector.connect c.url c.connector).1.isOk
  | _ => false

omit [Listener ℓ] in
/-- Only an attempt to connect makes a transport. -/
theorem opens_of_ne {a : Action γ τ η ℓ} (ha : a ≠ .connect) : c.opens a = false := by
  unfold opens
  split
  · exact absurd rfl ha
  · rfl

/-- To connect makes a transport just where it opens one. -/
theorem length_transports_connect (c : Connection γ τ η ℓ) :
    c.connect.2.transports.length =
      c.transports.length + if c.opens (.connect : Action γ τ η ℓ) then 1 else 0 := by
  by_cases hc : c.state = .closed
  · cases hk : Connector.connect c.url c.connector with
    | mk result k =>
      cases result with
      | error e => simp [connect_of_error hc hk, opens, hk, Except.isOk, Except.toBool]
      | ok x =>
        have htold := (quiet_tellState (c.install x k) c.transports.length).length
        have hlength : (c.install x k).transports.length = c.transports.length + 1 := by
          simp [install, note]
        have hopens : c.opens (.connect : Action γ τ η ℓ) = true := by
          simp [opens, hc, hk, Except.isOk, Except.toBool]
        rw [connect_of_closed hc hk, hopens, if_pos rfl]
        split
        · rw [htold, hlength]
        · rw [(quiet_closeTransport _ _).length, htold, hlength]
  · simp [connect_of_not_closed hc, opens, hc]

/-! ## Runs -/

variable [MessageHandler η]

/-- So does every action. -/
theorem length_transports_act (c : Connection γ τ η ℓ) (a : Action γ τ η ℓ) :
    (c.act a).2.transports.length = c.transports.length + if c.opens a then 1 else 0 := by
  by_cases ha : a = .connect
  · subst ha
    exact length_transports_connect c
  · rw [(quiet_act c ha).length, opens_of_ne ha]
    rfl

/-- The transports are those that the attempts of the run have made. -/
theorem length_transports_after (c : Connection γ τ η ℓ) (acts : List (Action γ τ η ℓ)) :
    (c.after acts).transports.length =
      c.transports.length + (c.history acts).countP fun p => p.1.opens p.2 := by
  induction acts generalizing c with
  | nil => rfl
  | cons a acts ih =>
    rw [after_cons, ih, length_transports_act, history, List.countP_cons]
    dsimp only
    omega

omit [Connector γ τ] [Listener ℓ] [MessageHandler η] in
/-- A new connection has no live transport. -/
theorem oneLive_of_ofUrl {url : String} {k : γ} {h : η} {l : ℓ}
    (hstart : ofUrl url k h l = .ok c) : c.OneLive := by
  obtain ⟨-, rfl⟩ := ofUrl_eq_ok_iff.mp hstart
  intro t ht
  obtain ⟨x, hx, -⟩ := ht
  simp at hx

/-- In every run at most one transport is live at any time, and it is the
current one; an attempt to connect does nothing unless the connection is
closed; the transports are as many as there were attempts that made one;
and an attempt that fails leaves all as it was but the connector. -/
theorem oneLive_after {url : String} {k : γ} {h : η} {l : ℓ} {c₀ : Connection γ τ η ℓ}
    (hstart : ofUrl url k h l = .ok c₀) (hclose : Transport.StaysClosed τ)
    {acts : List (Action γ τ η ℓ)} (hacts : ∀ a ∈ acts, a.StaysClosed) :
    (∀ m, Steps (c₀.after acts) m →
      m.OneLive ∧ ∀ t t', m.Live t → m.Live t' → t = t') ∧
    ((c₀.after acts).state ≠ .closed → (c₀.after acts).connect = (.ok (), c₀.after acts)) ∧
    (c₀.after acts).transports.length = (c₀.history acts).countP (fun p => p.1.opens p.2) ∧
    ∀ e k', (c₀.after acts).state = .closed →
      Connector.connect (c₀.after acts).url (c₀.after acts).connector = (.error e, k') →
      let (result, d) := (c₀.after acts).connect
      result = .error e ∧
      d.own = (c₀.after acts).own ∧ d.shared = (c₀.after acts).shared ∧
      d.transports = (c₀.after acts).transports ∧ d.state = (c₀.after acts).state ∧
      d.senderState = (c₀.after acts).senderState ∧
      d.listener = (c₀.after acts).listener ∧ d.journal = (c₀.after acts).journal := by
  have hlive : (c₀.after acts).OneLive := by
    apply after_invariant
    · intro c d step hc
      exact oneLive_step hclose step hc
    · intro c t f hf hc
      refine hc.of_live rfl ?_
      intro t' ht'
      exact live_of_move (hacts _ hf) ht'
    · exact oneLive_of_ofUrl hstart
  have hmidway : ∀ m, Steps (c₀.after acts) m →
      m.OneLive ∧ ∀ t t', m.Live t → m.Live t' → t = t' := by
    intro m hm
    have hone : m.OneLive :=
      steps_invariant (fun _ _ step hc => oneLive_step hclose step hc) hm hlive
    exact ⟨hone, fun t t' ht ht' => hone.unique ht ht'⟩
  have hlength : (c₀.after acts).transports.length =
      (c₀.history acts).countP (fun p => p.1.opens p.2) := by
    obtain ⟨-, rfl⟩ := ofUrl_eq_ok_iff.mp hstart
    rw [length_transports_after, List.length_nil, Nat.zero_add]
  refine ⟨hmidway, connect_of_not_closed, hlength, ?_⟩
  intro e k' hc hk
  rw [connect_of_error hc hk]
  exact ⟨rfl, rfl, rfl, rfl, rfl, rfl, rfl, rfl⟩

/-- A scripted transport that is closed stays so. -/
theorem scriptedTransport_staysClosed : Transport.StaysClosed ScriptedTransport := by
  intro x hx
  have hstate : x.state = .closed := hx
  show (if x.state = .connecting ∨ x.state = .opened then
    { x with state := x.closesTo } else x).state = .closed
  rw [hstate]
  exact hstate

/-- The listener fails at the first state of the second transport, after an
attempt to connect has failed: two transports were made, and only the
second one is live. -/
theorem oneLive_after_failures :
    let c₀ : Connection ScriptedConnector ScriptedTransport RecordingHandler Recorder :=
      { url := "ws://test", connector := {}, handler := ⟨.ofProtocol ∅, []⟩,
        listener := { failures := [(.state, 2)] } }
    let acts : List (Action ScriptedConnector ScriptedTransport RecordingHandler Recorder) :=
      [.connect, .move 0 fun x => { x with state := .closed },
        .arrange fun k => { k with failing := true }, .connect, .connect,
        .handleEvent ⟨0, .opened⟩]
    ofUrl c₀.url c₀.connector c₀.handler c₀.listener = .ok c₀ ∧
      Transport.StaysClosed ScriptedTransport ∧ (∀ a ∈ acts, a.StaysClosed) ∧
      (c₀.after acts).OneLive ∧ (c₀.after acts).own = some 1 ∧
      (c₀.after acts).transports.map Transport.state = [.closed, .closing] ∧
      (c₀.history acts).countP (fun p => p.1.opens p.2) = 2 := by
  intro c₀ acts
  have hstart : ofUrl c₀.url c₀.connector c₀.handler c₀.listener = .ok c₀ := rfl
  have hacts : ∀ a ∈ acts, a.StaysClosed := by
    simp only [acts, List.forall_mem_cons, Action.StaysClosed, List.not_mem_nil,
      false_implies, implies_true, and_true, true_and]
    exact fun _ _ => rfl
  have hrun := oneLive_after hstart scriptedTransport_staysClosed hacts
  have hown : (c₀.after acts).own = some 1 := by decide +kernel
  have hstates : (c₀.after acts).transports.map Transport.state = [.closed, .closing] := by
    decide +kernel
  refine ⟨hstart, scriptedTransport_staysClosed, hacts, (hrun.1 _ .refl).1, hown, hstates, ?_⟩
  have hlength := congrArg List.length hstates
  rw [List.length_map] at hlength
  rw [← hrun.2.2.1, hlength]
  rfl

end Connection

end PushRelay
