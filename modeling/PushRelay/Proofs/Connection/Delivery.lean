import Mathlib.Control.Monad.Basic
import PushRelay.Client.Listener
import PushRelay.Connection.Recorder
import PushRelay.Proofs.Connection.Lifecycle
import PushRelay.Transport.Scripted
import PushRelay.Transport.Socket

/-!
# PushRelay.Proofs.Connection.Delivery

What becomes of the messages of a connection.

A handler that looks the callback for a message up in a dispatcher
(`Dispatching`) answers by what was registered before, and by nothing else.
So the answers of a run, and the calls that it makes, can be told from the
messages and the registrations in it (`Connection.Takes.answered_eq`): the
transports that come and go, their events and the listener have no part in
them.

The converse is `Connection.SameLife.after`.  Together they say that the
messages and the life of a connection are independent of each other
(`Connection.independent_after`).
-/

namespace PushRelay

/-- A message handler that looks the call for a message up in a dispatcher,
and then makes it. -/
class Dispatching (η : Type) (κ : outParam Type) [MessageHandler η] where
  dispatcher : η → Dispatcher κ
  /-- makes a call, in the course of which more may be registered -/
  run : Call κ → η → Reaction η
  handle_eq (message : Json) (h : η) :
    MessageHandler.handle message h =
      match (dispatcher h).resolve message with
      | .error e => .done (.error e, h)
      | .ok call => (run call h).map fun h => (.ok (), h)

instance : Dispatching (Dispatcher ClientAction) ClientAction where
  dispatcher d := d
  run call d :=
    match call.callback with
    | .noop => .done d
    | .run .show => .print (.packet call.name call.data) (.done d)
  handle_eq message d := by
    cases hresolve : d.resolve message with
    | error e => simp only [MessageHandler.handle, hresolve]
    | ok call =>
      obtain ⟨callback, data, name⟩ := call
      simp only [MessageHandler.handle, hresolve]
      cases callback with
      | noop => rfl
      | run action => rfl

/-- The callbacks of a client write lines, and send nothing. -/
theorem sendless_handle (message : Json) (d : Dispatcher ClientAction) :
    (MessageHandler.handle message d).Sendless := by
  simp only [MessageHandler.handle]
  split
  · exact .done _
  · split
    · exact .done _
    · exact .print _ (.done _)

/-! ## Dispatchers by their history -/

namespace Dispatcher

variable {κ : Type} {d d' : Dispatcher κ}

/-- What reaches a dispatcher. -/
inductive Intake (κ : Type) where
  | message (text : String)
  | registered (name : String) (callback : Callback κ)

/-- The call for a text. -/
def answer (d : Dispatcher κ) (text : String) : Except RelayError (Call κ) :=
  (Packet.decodeFrame text).bind d.resolve

/-- The calls for the messages among all that a dispatcher takes in. -/
def answers (d : Dispatcher κ) : List (Intake κ) → List (Except RelayError (Call κ))
  | [] => []
  | .message text :: intakes => d.answer text :: d.answers intakes
  | .registered name callback :: intakes =>
    { d with callbacks := d.callbacks.insert name callback }.answers intakes

/-- The registrations lead from `d` to `d'`; the protocols may differ. -/
def Registers (d : Dispatcher κ) (pairs : List (String × Callback κ)) (d' : Dispatcher κ) : Prop :=
  d'.callbacks = d.callbacks.insertAll pairs

instance [DecidableEq κ] (d d' : Dispatcher κ) (pairs : List (String × Callback κ)) :
    Decidable (d.Registers pairs d') :=
  inferInstanceAs (Decidable (_ = _))

/-- The call for a text depends on the callbacks only. -/
theorem answer_congr (h : d.callbacks = d'.callbacks) (text : String) :
    d.answer text = d'.answer text := by
  have hresolve : d.resolve = d'.resolve := by
    funext message
    simp only [resolve, callFor, h]
  rw [answer, answer, hresolve]

/-- So do the calls for all that a dispatcher takes in. -/
theorem answers_congr (h : d.callbacks = d'.callbacks) (intakes : List (Intake κ)) :
    d.answers intakes = d'.answers intakes := by
  induction intakes generalizing d d' with
  | nil => rfl
  | cons intake intakes ih =>
    cases intake with
    | message text => rw [answers, answers, answer_congr h, ih h]
    | registered name callback => exact ih (congrArg (·.insert name callback) h)

/-- After registrations the messages are answered by the dispatcher that
they lead to. -/
theorem Registers.answers_append {pairs : List (String × Callback κ)} (h : d.Registers pairs d')
    (intakes : List (Intake κ)) :
    d.answers (pairs.map (fun p => .registered p.1 p.2) ++ intakes) = d'.answers intakes := by
  induction pairs generalizing d with
  | nil => exact answers_congr h.symm intakes
  | cons p pairs ih => exact ih h

end Dispatcher

namespace Connection

section

variable {γ τ η ℓ : Type} [Transport τ]

variable [Listener ℓ]

/-! ## What leaves the handler as it is -/

/-- The handler has no part in what the listener is told. -/
theorem handler_tell (c : Connection γ τ η ℓ) (t : Nat) (on : Option Nat) (news : News) :
    (c.tell t on news).2.handler = c.handler := by
  have hcarry := steady_carryOut (c.note (.told t news c.standing)) on
    (Listener.notify news c.listener)
  simp only [tell]
  split
  · exact hcarry.handler
  · exact hcarry.handler

/-- To tell a state leaves the handler alone. -/
theorem handler_tellState (c : Connection γ τ η ℓ) (t : Nat) :
    (c.tellState t).2.handler = c.handler := by
  unfold tellState
  split
  · exact handler_tell ..
  · rfl

/-- To tell the listener news leaves the handler alone. -/
theorem handler_tellThen (c : Connection γ τ η ℓ) (t : Nat) (on : Option Nat) (news : News) :
    (c.tellThen t on news).2.handler = c.handler := by
  unfold tellThen
  split
  · exact (handler_tell ..).trans (handler_tellState c t)
  · exact handler_tellState c t

/-- To connect leaves the handler alone. -/
theorem handler_connect [Connector γ τ] (c : Connection γ τ η ℓ) :
    c.connect.2.handler = c.handler := by
  by_cases hc : c.state = .closed
  · cases hk : Connector.connect c.url c.connector with
    | mk result k =>
      cases result with
      | error e => rw [connect_of_error hc hk]
      | ok x =>
        have htold := handler_tellState (c.install x k) c.transports.length
        rw [connect_of_closed hc hk]
        split
        · exact htold
        · exact htold
  · rw [connect_of_not_closed hc]

variable [MessageHandler η]

/-- Only messages reach the handler. -/
theorem handler_handleEvent (c : Connection γ τ η ℓ) {e : Event} (he : e.message? = none) :
    (c.handleEvent e).2.handler = c.handler := by
  obtain ⟨t, kind⟩ := e
  cases kind with
  | message text => contradiction
  | opened =>
    by_cases hown : c.own = some t
    · have htold := handler_tellThen c t (some t) .opened
      simp only [handleEvent, handleOpened_eq hown]
      split
      · exact htold
      · exact htold
    · rw [handleEvent, handleOpened, if_pos hown]
      rfl
  | closed code reason =>
    simp only [handleEvent, handleClosed_eq]
    exact handler_tellThen ..
  | failed message =>
    simp only [handleEvent, handleFailed_eq]
    exact handler_tellThen c t c.shared _

omit [Transport τ] [Listener ℓ] [MessageHandler η] in
/-- An event that is taken up finds the handler as it was. -/
theorem handler_of_handling {c d : Connection γ τ η ℓ} {a : Action γ τ η ℓ} {e : Event}
    (h : c.handling? a = some (e, d)) : d.handler = c.handler := by
  obtain ⟨queue, rfl⟩ := eq_of_handling h
  rfl

/-- Only a message and what is registered from outside can change the
handler. -/
theorem handler_act [Connector γ τ] {c : Connection γ τ η ℓ} {a : Action γ τ η ℓ}
    (hmessage : c.message? a = none) (hinstruct : ∀ f, a ≠ .instruct f) :
    (c.act a).2.handler = c.handler := by
  cases hhandling : c.handling? a with
  | some x =>
    obtain ⟨e, d⟩ := x
    have he : e.message? = none := by
      rw [message?, hhandling] at hmessage
      exact hmessage
    rw [act_of_handling hhandling, handler_handleEvent d he, handler_of_handling hhandling]
  | none =>
    cases a with
    | connect => exact handler_connect c
    | disconnect => exact (steady_disconnect c).handler
    | drop =>
      simp only [act, drop]
      split
      · rfl
      · exact (steady_disconnect c).handler
    | send payload => exact (steady_sendOn c _ payload).handler
    | senderSend payload => exact (steady_sendOn c _ payload).handler
    | emit e =>
      simp only [act, emit]
      split <;> rfl
    | handleEvent e => contradiction
    | processNext =>
      have hnext : c.nextEvent? = none := hhandling
      simp only [act, processNext?, hnext, Option.map_none, Option.getD_none]
    | instruct f => exact absurd rfl (hinstruct f)
    | setListener | move | arrange => rfl

end

open Dispatcher

variable {γ τ η ℓ κ : Type} [MessageHandler η] [Dispatching η κ]

/-- The dispatcher of the handler of a connection. -/
def dispatcher (c : Connection γ τ η ℓ) : Dispatcher κ := Dispatching.dispatcher c.handler

variable [Transport τ] {c : Connection γ τ η ℓ} {text : String}

/-- Does what the answer to a message is: nothing if there is no call for
it, and otherwise the call is made once. -/
def follow (c : Connection γ τ η ℓ) :
    Except RelayError (Call κ) → Except RelayError Unit × Connection γ τ η ℓ
  | .error e => (.error e, c)
  | .ok call =>
    let (handler, d) := c.carryOut c.shared (Dispatching.run call c.handler)
    (.ok (), { d with handler := handler })

/-- To handle a message is to follow the answer of the dispatcher. -/
theorem handleMessage_eq (c : Connection γ τ η ℓ) (text : String) :
    c.handleMessage text = c.follow (c.dispatcher.answer text) := by
  unfold handleMessage answer
  cases Packet.decodeFrame text with
  | error e => rfl
  | ok message =>
    simp only [Except.bind, Dispatching.handle_eq, dispatcher]
    cases (Dispatching.dispatcher c.handler).resolve message with
    | error e => rfl
    | ok call => simp only [carryOut_map, follow]

/-- To follow an answer fails just where there is no call. -/
theorem fst_follow (c : Connection γ τ η ℓ) (answer : Except RelayError (Call κ)) :
    (c.follow answer).1 = answer.map fun _ => () := by
  cases answer with
  | error e => rfl
  | ok call => rfl

/-! ## Runs -/

section

variable [Connector γ τ] [Listener ℓ]

/-- In a run the given messages and registrations reach the dispatcher, in
this order.  What a callback registers comes right after the message that it
is called for. -/
inductive Takes : Connection γ τ η ℓ → List (Action γ τ η ℓ) → List (Intake κ) → Prop
  | done (c : Connection γ τ η ℓ) : Takes c [] []
  | refused {c : Connection γ τ η ℓ} {a : Action γ τ η ℓ} {acts : List (Action γ τ η ℓ)}
      {intakes : List (Intake κ)} {text : String} (e : RelayError)
      (message : c.message? a = some text) (uncalled : c.dispatcher.answer text = .error e)
      (rest : Takes (c.act a).2 acts intakes) : Takes c (a :: acts) (.message text :: intakes)
  | called {c : Connection γ τ η ℓ} {a : Action γ τ η ℓ} {acts : List (Action γ τ η ℓ)}
      {intakes : List (Intake κ)} {text : String} (call : Call κ)
      (pairs : List (String × Callback κ)) (message : c.message? a = some text)
      (called : c.dispatcher.answer text = .ok call)
      (registers : c.dispatcher.Registers pairs (c.act a).2.dispatcher)
      (rest : Takes (c.act a).2 acts intakes) :
      Takes c (a :: acts)
        (.message text :: (pairs.map fun p => .registered p.1 p.2) ++ intakes)
  | instructed {c : Connection γ τ η ℓ} {f : η → η} {acts : List (Action γ τ η ℓ)}
      {intakes : List (Intake κ)} (pairs : List (String × Callback κ))
      (registers : c.dispatcher.Registers pairs (Dispatching.dispatcher (f c.handler)))
      (rest : Takes (c.act (.instruct f)).2 acts intakes) :
      Takes c (.instruct f :: acts) ((pairs.map fun p => .registered p.1 p.2) ++ intakes)
  | other {c : Connection γ τ η ℓ} {a : Action γ τ η ℓ} {acts : List (Action γ τ η ℓ)}
      {intakes : List (Intake κ)} (message : c.message? a = none)
      (instruct : ∀ f, a ≠ .instruct f) (rest : Takes (c.act a).2 acts intakes) :
      Takes c (a :: acts) intakes

/-- The results of the messages of a run, each with the call that was made. -/
def answered (c : Connection γ τ η ℓ) :
    List (Action γ τ η ℓ) → List (Except RelayError Unit × Option (Call κ))
  | [] => []
  | a :: acts =>
    match c.message? a with
    | some text =>
      ((c.act a).1, (c.dispatcher.answer text).toOption) :: (c.act a).2.answered acts
    | none => (c.act a).2.answered acts

/-- An action that has a message handled follows the answer to it. -/
theorem act_of_handling_message {a : Action γ τ η ℓ} {d : Connection γ τ η ℓ} {t : Nat}
    (h : c.handling? a = some (⟨t, .message text⟩, d)) :
    c.act a = d.follow (c.dispatcher.answer text) := by
  rw [act_of_handling h, dispatcher, ← handler_of_handling h]
  exact handleMessage_eq d text

/-- A message is answered by the connection as it stands, but for the events
that wait. -/
theorem act_of_message {a : Action γ τ η ℓ} (h : c.message? a = some text) :
    ∃ d : Connection γ τ η ℓ, d.handler = c.handler ∧
      c.act a = d.follow (c.dispatcher.answer text) := by
  cases hhandling : c.handling? a with
  | none => simp [message?, hhandling] at h
  | some x =>
    obtain ⟨⟨t, kind⟩, d⟩ := x
    cases kind with
    | message text' =>
      have htext : text' = text := by simpa [message?, hhandling, Event.message?] using h
      subst htext
      exact ⟨d, handler_of_handling hhandling, act_of_handling_message hhandling⟩
    | opened | closed | failed => simp [message?, hhandling, Event.message?] at h

/-- A message is answered before the rest of the run is. -/
theorem answered_of_message {a : Action γ τ η ℓ} (h : c.message? a = some text)
    (acts : List (Action γ τ η ℓ)) :
    c.answered (a :: acts) =
      ((c.dispatcher.answer text).map fun _ => (), (c.dispatcher.answer text).toOption) ::
        (c.act a).2.answered acts := by
  obtain ⟨d, -, hact⟩ := act_of_message h
  rw [answered, h, ← fst_follow d, hact]

/-- A message without a call leaves the dispatcher as it was. -/
theorem dispatcher_of_refused {a : Action γ τ η ℓ} {e : RelayError} (h : c.message? a = some text)
    (he : c.dispatcher.answer text = .error e) : (c.act a).2.dispatcher = c.dispatcher := by
  obtain ⟨d, hd, hact⟩ := act_of_message h
  rw [hact, he, dispatcher, dispatcher]
  exact congrArg _ hd

/-- The answers of a run can be told from what the dispatcher took in. -/
theorem Takes.answered_eq {acts : List (Action γ τ η ℓ)} {intakes : List (Intake κ)}
    (h : c.Takes acts intakes) :
    c.answered acts = (c.dispatcher.answers intakes).map fun answer =>
      (answer.map fun _ => (), answer.toOption) := by
  induction h with
  | done c => rfl
  | refused e message uncalled rest ih =>
    rw [answered_of_message message, ih, dispatcher_of_refused message uncalled]
    rfl
  | called call pairs message called registers rest ih =>
    -- what the callback registered is part of what the rest of the run finds
    rw [answered_of_message message, ih, ← registers.answers_append]
    rfl
  | instructed pairs registers rest ih =>
    rw [registers.answers_append]
    exact ih
  | other message instruct rest ih =>
    rw [dispatcher, handler_act message instruct] at ih
    rw [answered, message]
    exact ih

/-- Messages and life of a connection are independent.

1. A message makes its call once, on the handler as it is, and if it has none
   it fails and nothing is done.
2. Two connections that start over the same handler, whatever transports
   they have and whatever happens to these, to their listeners and to
   themselves, give the same results and make the same calls if the same
   messages and registrations reach their dispatchers in the same order.
3. A run without its messages is told, sends and closes the same, and has its
   transports in the same states, as long as the callbacks for the messages
   send nothing; whether a message can be decoded and has a callback does not
   matter. -/
theorem independent_after {γ' τ' ℓ' : Type} [Transport τ'] [Connector γ' τ'] [Listener ℓ']
    {url url' : String} {k : γ} {k' : γ'} {h : η} {l : ℓ} {l' : ℓ'}
    {c₀ : Connection γ τ η ℓ} {c₀' : Connection γ' τ' η ℓ'}
    (hstart : ofUrl url k h l = .ok c₀) (hstart' : ofUrl url' k' h l' = .ok c₀')
    (acts : List (Action γ τ η ℓ)) (acts' : List (Action γ' τ' η ℓ')) :
    (∀ (c d : Connection γ τ η ℓ) a t text, c.handling? a = some (⟨t, .message text⟩, d) →
      c.act a = d.follow (c.dispatcher.answer text)) ∧
    (∀ intakes, c₀.Takes acts intakes → c₀'.Takes acts' intakes →
      c₀.answered acts = c₀'.answered acts') ∧
    ((∀ c a, (c, a) ∈ c₀.history acts → ∀ text, c.message? a = some text → c.Silent text) →
      life (c₀.after (c₀.withoutMessages acts)).journal = life (c₀.after acts).journal ∧
      (c₀.after (c₀.withoutMessages acts)).transports = (c₀.after acts).transports) := by
  obtain ⟨-, hc₀⟩ := ofUrl_eq_ok_iff.mp hstart
  obtain ⟨-, hc₀'⟩ := ofUrl_eq_ok_iff.mp hstart'
  refine ⟨?made, ?answers, ?life⟩
  case made => exact fun c d a t text => act_of_handling_message
  case answers =>
    intro intakes htakes htakes'
    have hsame : c₀.dispatcher = c₀'.dispatcher := by rw [dispatcher, dispatcher, hc₀, hc₀']
    rw [htakes.answered_eq, htakes'.answered_eq, hsame]
  case life =>
    intro hsilent
    have hqueue : c₀.queue = [] := by rw [hc₀]
    have hlife := (SameLife.refl hqueue).after hsilent
    exact ⟨hlife.journal, hlife.transports⟩

end

/-- Two clients hear the same messages: one that is shown, one that is cut
off and one without a callback.  The first has sockets, of which one is
replaced before the messages come in, and a listener that fails; the second
never connects. -/
theorem independent_after_stale :
    let tick := "\x7b\"name\":\"tick\",\"data\":1\x7d"
    let tock := "\x7b\"name\":\"tock\"\x7d"
    let shown : Callback ClientAction := .run .show
    let learn (d : Dispatcher ClientAction) : Dispatcher ClientAction :=
      (d.register "tick" shown).toOption.getD d
    let c₀ : Connection SocketConfig Socket (Dispatcher ClientAction) Recorder :=
      { url := "ws://a", connector := {}, handler := .ofProtocol .net
        listener := { failures := [(.state, 2)] } }
    let c₀' : Connection ScriptedConnector ScriptedTransport (Dispatcher ClientAction) Unit :=
      { url := "ws://b", connector := {}, handler := .ofProtocol .net, listener := () }
    let acts := [.connect, .instruct learn, .emit ⟨0, .message tick⟩,
      .move 0 fun x => x.setState .closed, .connect, .processNext,
      .handleEvent ⟨0, .message "\x7b"⟩, .handleEvent ⟨0, .opened⟩, .handleEvent ⟨1, .message tock⟩]
    let acts' := [.instruct learn, .handleEvent ⟨7, .message tick⟩, .disconnect,
      .handleEvent ⟨8, .message "\x7b"⟩, .handleEvent ⟨7, .message tock⟩]
    let call : Call ClientAction := ⟨shown, .number (.whole 1 (by decide)), "tick"⟩
    ofUrl c₀.url c₀.connector c₀.handler c₀.listener = .ok c₀ ∧
      ofUrl c₀'.url c₀'.connector c₀.handler c₀'.listener = .ok c₀' ∧
      c₀.answered acts = c₀'.answered acts' ∧
      c₀'.answered acts' = [(.ok (), some call), (.error (.json .truncated), none),
        (.error (.handlerNotFound "tock"), none)] ∧
      .printed (.packet "tick" call.data) ∈ (c₀.after acts).journal ∧
      life (c₀.after (c₀.withoutMessages acts)).journal = life (c₀.after acts).journal ∧
      (c₀.after (c₀.withoutMessages acts)).transports = (c₀.after acts).transports := by
  intro tick tock shown learn c₀ c₀' acts acts' call
  have hstart : ofUrl c₀.url c₀.connector c₀.handler c₀.listener = .ok c₀ := rfl
  have hstart' : ofUrl c₀'.url c₀'.connector c₀.handler c₀'.listener = .ok c₀' := rfl
  obtain ⟨-, hanswers, hlife⟩ := independent_after hstart hstart' acts acts'
  let intakes : List (Intake ClientAction) :=
    [.registered "tick" shown, .message tick, .message "\x7b", .message tock]
  have htakes : c₀.Takes acts intakes := by
    refine .other rfl nofun (.instructed [("tick", shown)] (by decide +kernel) ?_)
    refine .other rfl nofun (.other rfl nofun (.other rfl nofun ?_))
    refine .called call [] (by decide +kernel) (by decide +kernel) (by decide +kernel) ?_
    refine .refused (.json .truncated) rfl (by decide +kernel) (.other rfl nofun ?_)
    exact .refused (.handlerNotFound "tock") rfl (by decide +kernel) (.done _)
  have htakes' : c₀'.Takes acts' intakes := by
    refine .instructed [("tick", shown)] (by decide +kernel) ?_
    refine .called call [] rfl (by decide +kernel) (by decide +kernel) (.other rfl nofun ?_)
    refine .refused (.json .truncated) rfl (by decide +kernel) ?_
    exact .refused (.handlerNotFound "tock") rfl (by decide +kernel) (.done _)
  have hanswered : c₀'.answered acts' = [(.ok (), some call), (.error (.json .truncated), none),
      (.error (.handlerNotFound "tock"), none)] := by decide +kernel
  have hprinted : .printed (.packet "tick" call.data) ∈ (c₀.after acts).journal := by
    decide +kernel
  have hsilent : ∀ c a, (c, a) ∈ c₀.history acts →
      ∀ text, c.message? a = some text → c.Silent text :=
    fun c a _ text _ message _ => sendless_handle message c.handler
  exact ⟨hstart, hstart', hanswers _ htakes htakes', hanswered, hprinted, hlife hsilent⟩

end Connection

end PushRelay
