import PushRelay.Connection.Basic

/-!
# PushRelay.Proofs.Connection.Run

Runs of a connection: whoever owns it connects, disconnects, sends, sets
listeners and in the end drops it; senders that were handed out send; events
of any transport come in, in any order and any number of times; and the
transports, the connector and the handler change by themselves.

A connection that was dropped is not forbidden anything here, so what is
proved of all runs holds of those that end with the drop.
-/

namespace PushRelay

namespace Connection

variable {γ τ η ℓ : Type}

/-- What happens to a connection from outside. -/
inductive Action (γ τ η ℓ : Type) where
  | connect
  | disconnect
  | drop
  | send (payload : Outbound)
  | senderSend (payload : Outbound)
  | setListener (listener : ℓ)
  | handleEvent (event : Event)
  | emit (event : Event)
  | processNext
  /-- a transport changes by itself -/
  | move (transport : Nat) (f : τ → τ)
  /-- the connector changes by itself -/
  | arrange (f : γ → γ)
  /-- callbacks are registered with the handler -/
  | instruct (f : η → η)

/-- A new connection has done nothing yet. -/
theorem ofUrl_eq_ok_iff {url : String} {k : γ} {h : η} {l : ℓ} {c : Connection γ τ η ℓ} :
    ofUrl url k h l = .ok c ↔
      url ≠ "" ∧ c = { url := url, connector := k, handler := h, listener := l } := by
  unfold ofUrl
  split
  · simp_all
  · simp_all [eq_comm]

/-- What is made of the result of a reaction does not matter to the
connection. -/
theorem carryOut_map [Transport τ] {α β : Type} (c : Connection γ τ η ℓ) (on : Option Nat)
    (r : Reaction α) (f : α → β) :
    c.carryOut on (r.map f) = (f (c.carryOut on r).1, (c.carryOut on r).2) := by
  induction r generalizing c with
  | done a => rfl
  | print line next ih => exact ih _
  | state next ih => exact ih _ c
  | send payload next ih => exact ih _ _

variable [Transport τ] [Connector γ τ] [Listener ℓ] [MessageHandler η]

/-- Carries out an action, and says whether it failed. -/
def act (c : Connection γ τ η ℓ) :
    Action γ τ η ℓ → Except RelayError Unit × Connection γ τ η ℓ
  | .connect => c.connect
  | .disconnect => (.ok (), c.disconnect)
  | .drop => (.ok (), c.drop)
  | .send payload => (.ok (), (c.send payload).2)
  | .senderSend payload => (.ok (), (c.senderSend payload).2)
  | .setListener listener => (.ok (), c.setListener listener)
  | .handleEvent e => c.handleEvent e
  | .emit e => (.ok (), (c.emit e).2)
  | .processNext => c.processNext?.getD (.ok (), c)
  | .move t f => (.ok (), c.move t f)
  | .arrange f => (.ok (), { c with connector := f c.connector })
  | .instruct f => (.ok (), { c with handler := f c.handler })

/-- The connection after a run of actions. -/
def after (c : Connection γ τ η ℓ) (acts : List (Action γ τ η ℓ)) : Connection γ τ η ℓ :=
  acts.foldl (fun c a => (c.act a).2) c

@[simp] theorem after_nil (c : Connection γ τ η ℓ) : c.after [] = c := rfl

@[simp] theorem after_cons (c : Connection γ τ η ℓ) (a : Action γ τ η ℓ)
    (acts : List (Action γ τ η ℓ)) : c.after (a :: acts) = (c.act a).2.after acts := rfl

/-- A run can be cut anywhere. -/
theorem after_append (c : Connection γ τ η ℓ) (before later : List (Action γ τ η ℓ)) :
    c.after (before ++ later) = (c.after before).after later :=
  List.foldl_append

/-- The actions of a run, each with the connection that it found. -/
def history (c : Connection γ τ η ℓ) :
    List (Action γ τ η ℓ) → List (Connection γ τ η ℓ × Action γ τ η ℓ)
  | [] => []
  | a :: acts => (c, a) :: (c.act a).2.history acts

/-- An action of a run found the connection that those before it left. -/
theorem mem_history_append (c : Connection γ τ η ℓ) (before : List (Action γ τ η ℓ))
    (a : Action γ τ η ℓ) (rest : List (Action γ τ η ℓ)) :
    (c.after before, a) ∈ c.history (before ++ a :: rest) := by
  induction before generalizing c with
  | nil => exact List.mem_cons_self
  | cons b before ih => exact List.mem_cons_of_mem _ (ih _)

/-- What an action of a run finds is what the actions before it left. -/
theorem exists_after_of_mem_history {c₀ c : Connection γ τ η ℓ} {a : Action γ τ η ℓ}
    {acts : List (Action γ τ η ℓ)} (h : (c, a) ∈ c₀.history acts) :
    ∃ before rest, acts = before ++ a :: rest ∧ c = c₀.after before := by
  induction acts generalizing c₀ with
  | nil => cases h
  | cons b acts ih =>
    cases h with
    | head => exact ⟨[], acts, rfl, rfl⟩
    | tail _ h =>
      obtain ⟨before, rest, rfl, rfl⟩ := ih h
      exact ⟨b :: before, rest, rfl, rfl⟩

/-- What holds at the start and is kept by every action of a run holds at
its end. -/
theorem after_induction {I : Connection γ τ η ℓ → Prop} {c : Connection γ τ η ℓ}
    {acts : List (Action γ τ η ℓ)} (start : I c)
    (keep : ∀ c, ∀ a ∈ acts, I c → I (c.act a).2) : I (c.after acts) := by
  induction acts generalizing c with
  | nil => exact start
  | cons a acts ih =>
    have hnext := keep c a List.mem_cons_self start
    exact ih hnext fun c b hb => keep c b (List.mem_cons_of_mem a hb)

end Connection

end PushRelay
