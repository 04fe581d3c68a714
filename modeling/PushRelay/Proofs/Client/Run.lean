import PushRelay.Client.Session
import PushRelay.Proofs.Connection.Step
import PushRelay.Proofs.Registry.Names

/-!
# PushRelay.Proofs.Client.Run

Runs of a client: its user gives commands, events of its transports come
in, and the transports and the connector change by themselves.

1. Neither the listener nor the message handler of a client is changed by
   what comes in; the handler is only ever changed by a new service.
2. So the callbacks of the handler are those of the services that the
   client knows, which show their packets, and those of the two control
   packets, which do nothing (`Client.Sound`).
-/

namespace PushRelay

/-! ## Results of a reaction -/

namespace Reaction

variable {α β : Type}

/-- However the reaction goes on, its result has the property `P`. -/
def Ends (P : α → Prop) : Reaction α → Prop
  | .done a => P a
  | .print _ next => next.Ends P
  | .state next => ∀ s, (next s).Ends P
  | .send _ next => ∀ accepted, (next accepted).Ends P

/-- What holds of all that a function gives holds of the result that goes
through it. -/
theorem ends_map {P : β → Prop} {f : α → β} (hf : ∀ a, P (f a)) (r : Reaction α) :
    (r.map f).Ends P := by
  induction r with
  | done a => exact hf a
  | print line next ih => exact ih
  | state next ih => exact ih
  | send payload next ih => exact ih

end Reaction

/-- A client listener stays as it is. -/
theorem ends_notify (news : News) (l : ClientListener) :
    (Listener.notify news l).Ends fun x => x.2 = l := by
  cases news with
  | state s => rfl
  | opened =>
    have hsame : ∀ ok : Bool, ((ok, l) : Bool × ClientListener).2 = l := fun _ => rfl
    exact Reaction.ends_map hsame (subscribeAll l.services)
  | closed code reason =>
    cases code with
    | none => rfl
    | some code => rfl
  | failed message => rfl

/-- The message handler of a client stays as it is. -/
theorem ends_handle (message : Json) (d : Dispatcher ClientAction) :
    (MessageHandler.handle message d).Ends fun x => x.2 = d := by
  simp only [MessageHandler.handle]
  split
  · rfl
  · split
    · rfl
    · rfl

namespace Connection

variable {γ τ η ℓ : Type} [Transport τ]

/-- The result of a reaction that is carried out is one of those that it may
have. -/
theorem ends_carryOut {α : Type} {P : α → Prop} {r : Reaction α} (h : r.Ends P)
    (c : Connection γ τ η ℓ) (on : Option Nat) : P (c.carryOut on r).1 := by
  induction r generalizing c with
  | done a => exact h
  | print line next ih => exact ih h _
  | state next ih => exact ih _ (h _) c
  | send payload next ih => exact ih _ (h _) _

/-! ## The handler and the listener -/

variable {c : Connection γ τ (Dispatcher ClientAction) ClientListener}

/-- Telling the listener of a client changes neither it nor the handler. -/
theorem steady_tell (c : Connection γ τ (Dispatcher ClientAction) ClientListener) (t : Nat)
    (on : Option Nat) (news : News) : c.Steady (c.tell t on news).2 := by
  have hcarry := steady_carryOut (c.note (.told t news c.standing)) on
    (Listener.notify news c.listener)
  have hlistener := ends_carryOut (ends_notify news c.listener)
    (c.note (.told t news c.standing)) on
  simp only [tell]
  split
  · exact ⟨hcarry.handler, hlistener⟩
  · exact ⟨hcarry.handler, hlistener⟩

theorem steady_tellState (c : Connection γ τ (Dispatcher ClientAction) ClientListener) (t : Nat) :
    c.Steady (c.tellState t).2 := by
  unfold tellState
  split
  · exact steady_tell ..
  · exact .refl c

/-- Nor does an attempt to connect. -/
theorem steady_connect [Connector γ τ]
    (c : Connection γ τ (Dispatcher ClientAction) ClientListener) : c.Steady c.connect.2 := by
  by_cases hc : c.state = .closed
  · cases hk : Connector.connect c.url c.connector with
    | mk result k =>
      cases result with
      | error e =>
        rw [connect_of_error hc hk]
        exact ⟨rfl, rfl⟩
      | ok t =>
        have hmade : c.Steady (c.install t k) := ⟨rfl, rfl⟩
        have htold := hmade.trans (steady_tellState (c.install t k) c.transports.length)
        rw [connect_of_closed hc hk]
        split
        · exact htold
        · exact htold.trans (steady_closeTransport _ _)
  · rw [connect_of_not_closed hc]
    exact .refl c

/-- Nor does the handling of an event, whatever it is. -/
theorem steady_handleEvent (c : Connection γ τ (Dispatcher ClientAction) ClientListener)
    (e : Event) : c.Steady (c.handleEvent e).2 := by
  obtain ⟨t, kind⟩ := e
  cases kind with
  | opened =>
    by_cases hown : c.own = some t
    · have hevent : (c.handleEvent ⟨t, .opened⟩).2 = c.handleOpened t := rfl
      rw [hevent, handleOpened_of_current hown]
      extract_lets told
      have htold : c.Steady told.2 := by
        simp only [told]
        split
        · exact (steady_tellState c t).trans (steady_tell ..)
        · exact steady_tellState c t
      split
      · exact htold
      · exact htold.trans (steady_closeTransport _ t)
    · simp only [handleEvent, handleOpened, ne_eq, hown, not_false_eq_true, if_true]
      exact steady_closeTransport c t
  | message text =>
    simp only [handleEvent, handleMessage]
    split
    · exact .refl c
    · next message _ =>
      exact ⟨ends_carryOut (ends_handle message c.handler) c c.shared,
        (steady_carryOut c c.shared (MessageHandler.handle message c.handler)).listener⟩
  | closed code reason =>
    simp only [handleEvent, handleClosed]
    split
    · exact (steady_tellState c t).trans (steady_tell ..)
    · exact steady_tellState c t
  | failed message =>
    simp only [handleEvent, handleFailed]
    split
    · exact ((steady_tellState c t).trans (steady_tell ..)).trans (steady_closeTransport _ t)
    · exact (steady_tellState c t).trans (steady_closeTransport _ t)

end Connection

/-! ## The callbacks of a client -/

namespace Dispatcher

/-- The dispatcher of a client: the packets named like a service that the
client knows are shown, and of others it has the control packets alone,
which do nothing. -/
structure Shows (d : Dispatcher ClientAction) (known : String → Prop) : Prop where
  protocol : d.protocol.Sound
  shown : ∀ name, known name → d.callbacks.find? name = some (.run .show)
  others : ∀ name, ¬ known name → d.callbacks.find? name =
    if name = subscribeName ∨ name = unsubscribeName then some .noop else none

variable {d d' : Dispatcher ClientAction} {known : String → Prop} {name : String}

/-- Only which names are known matters. -/
theorem Shows.congr {known' : String → Prop} (hd : d.Shows known) (h : ∀ n, known' n ↔ known n) :
    d.Shows known' :=
  (funext fun n => propext (h n) : known' = known) ▸ hd

/-- A new dispatcher shows nothing. -/
theorem shows_net : (ofProtocol Protocol.net).Shows fun _ => False where
  protocol := Protocol.sound_net
  shown name h := absurd h id
  others name _ := by
    have hentries : (ofProtocol Protocol.net : Dispatcher ClientAction).callbacks.entries =
        [(subscribeName, .noop), (unsubscribeName, .noop)] := by decide +kernel
    rw [Table.find?, hentries]
    by_cases hsubscribe : name = subscribeName
    · rw [Entries.find?, if_pos hsubscribe.symm, if_pos (.inl hsubscribe)]
    · by_cases hunsubscribe : name = unsubscribeName
      · rw [Entries.find?, if_neg (Ne.symm hsubscribe), Entries.find?, if_pos hunsubscribe.symm,
          if_pos (.inr hunsubscribe)]
      · have hother := not_or.mpr ⟨hsubscribe, hunsubscribe⟩
        rw [Entries.find?, if_neg (Ne.symm hsubscribe), Entries.find?,
          if_neg (Ne.symm hunsubscribe), Entries.find?, if_neg hother]

/-- Registering a further name shows the packets of that name too. -/
theorem Shows.register (hd : d.Shows known) (h : d.register name (.run .show) = .ok d') :
    d'.Shows fun n => n = name ∨ known n where
  protocol := (protocol_of_register h).2.2 hd.protocol
  shown n hn := by
    rw [callbacks_of_register h, Table.find?_insert]
    split
    · rfl
    · next hne => exact hd.shown n (hn.resolve_left hne)
  others n hn := by
    obtain ⟨hne, hn⟩ := not_or.mp hn
    rw [callbacks_of_register h, Table.find?_insert, if_neg hne]
    exact hd.others n hn

end Dispatcher

namespace Client

variable {d : Dispatcher ClientAction} {name : String} {s : Service ClientAction}

/-- A service of a client has the name it was made for, subscribes by the
control packet, and has one callback, which shows the packets of its
name. -/
theorem clientService_eq_ok {p : Protocol} (hp : p.Sound) (h : clientService name p = .ok s) :
    s.name = name ∧ s.subscribeFactory.name = subscribeName ∧
      s.handlers.entries = [(name, .run .show)] := by
  unfold clientService Service.ofEntries at h
  split at h
  · contradiction
  · simp only [Service.handlersOf] at h
    split at h
    · contradiction
    · next subscribeFactory hsubscribe =>
      split at h
      · contradiction
      · cases h
        refine ⟨rfl, ?_, rfl⟩
        unfold Service.control at hsubscribe
        split at hsubscribe
        · next factory hget =>
          cases hsubscribe
          exact (hp _ _ hget).2
        · contradiction

/-- Registering a service registers its callback, and changes nothing if
that is refused. -/
theorem registerInto_eq (hs : s.handlers.entries = [(name, .run .show)])
    (d : Dispatcher ClientAction) :
    s.registerInto d = match d.register name (.run .show) with
      | .error e => (.error e, d)
      | .ok d' => (.ok (), d') := by
  rw [Service.registerInto, hs, List.map_singleton, Dispatcher.registerAll]
  cases d.register name (.run .show) <;> rfl

/-! ## The services that a client knows -/

variable {γ τ : Type} {c c' : Client γ τ}

/-- The services of a client: those that it was started with, and those
that its user subscribed to. -/
def Knows (c : Client γ τ) (s : Service ClientAction) : Prop :=
  s ∈ c.connection.listener.services ∨ c.services.find? s.name = some s

/-- The names of these services. -/
def Names (c : Client γ τ) (name : String) : Prop := ∃ s, c.Knows s ∧ s.name = name

/-- What holds of a client in every run. -/
structure Sound (c : Client γ τ) : Prop where
  dispatcher : c.connection.handler.Shows c.Names
  subscribes : ∀ s, c.Knows s → s.subscribeFactory.name = subscribeName

/-- From `c` to `c'` the callbacks and the services are the same. -/
structure Steady (c c' : Client γ τ) : Prop where
  connection : c.connection.Steady c'.connection
  services : c'.services = c.services

/-- A client that stays as it is knows the same services. -/
theorem Steady.knows_iff (h : c.Steady c') (s : Service ClientAction) : c'.Knows s ↔ c.Knows s := by
  rw [Knows, h.connection.listener, h.services, Knows]

/-- From `c` to `c'` no service is lost, and what is sound stays so. -/
structure Grows (c c' : Client γ τ) : Prop where
  sound : c.Sound → c'.Sound
  knows : ∀ s, c.Knows s → c'.Knows s

theorem Grows.refl (c : Client γ τ) : c.Grows c := ⟨id, fun _ h => h⟩

theorem Grows.trans {c'' : Client γ τ} (h : c.Grows c') (h' : c'.Grows c'') : c.Grows c'' :=
  ⟨fun hc => h'.sound (h.sound hc), fun s hs => h'.knows s (h.knows s hs)⟩

/-- A client that stays as it is loses nothing. -/
theorem Steady.grows (h : c.Steady c') : c.Grows c' := by
  have hnames : c'.Names = c.Names := by
    funext name
    simp only [Names, h.knows_iff]
  constructor
  · intro hc
    constructor
    · rw [h.connection.handler, hnames]
      exact hc.dispatcher
    · intro s hs
      exact hc.subscribes s ((h.knows_iff s).mp hs)
  · intro s hs
    exact (h.knows_iff s).mpr hs

/-! ### A new client -/

/-- To start with a service it is made and registered, and then come the
others. -/
theorem startServices_cons_eq_ok {names : List String} {services : List (Service ClientAction)}
    {d' : Dispatcher ClientAction} (hd : d.protocol.Sound)
    (h : startServices d (name :: names) = .ok (services, d')) :
    ∃ s d₁ rest, clientService name d.protocol = .ok s ∧
      d.register name (.run .show) = .ok d₁ ∧ startServices d₁ names = .ok (rest, d') ∧
      services = s :: rest := by
  rw [startServices] at h
  cases hservice : clientService name d.protocol with
  | error e =>
    rw [hservice] at h
    contradiction
  | ok s =>
    obtain ⟨-, -, hhandlers⟩ := clientService_eq_ok hd hservice
    cases hregister : d.register name (.run .show) with
    | error e =>
      simp only [hservice, registerInto_eq hhandlers, hregister] at h
      contradiction
    | ok d₁ =>
      simp only [hservice, registerInto_eq hhandlers, hregister] at h
      cases hrest : startServices d₁ names with
      | error e =>
        rw [hrest] at h
        contradiction
      | ok rest =>
        rw [hrest] at h
        cases h
        exact ⟨s, d₁, rest.1, rfl, rfl, hrest, rfl⟩

/-- A client that starts shows the packets of its services. -/
theorem startServices_eq_ok {known : String → Prop} {names : List String}
    {services : List (Service ClientAction)} {d' : Dispatcher ClientAction} (hd : d.Shows known)
    (h : startServices d names = .ok (services, d')) :
    (d'.Shows fun n => known n ∨ ∃ s ∈ services, s.name = n) ∧
      ∀ s ∈ services, s.subscribeFactory.name = subscribeName := by
  induction names generalizing d known services with
  | nil =>
    cases h
    refine ⟨hd.congr fun n => ?_, List.forall_mem_nil _⟩
    simp
  | cons name names ih =>
    obtain ⟨s, d₁, rest, hservice, hregister, hrest, rfl⟩ :=
      startServices_cons_eq_ok hd.protocol h
    obtain ⟨hname, hsubscribe, -⟩ := clientService_eq_ok hd.protocol hservice
    obtain ⟨hshows, hfactories⟩ := ih (hd.register hregister) hrest
    refine ⟨hshows.congr fun n => ?_, List.forall_mem_cons.mpr ⟨hsubscribe, hfactories⟩⟩
    simp only [List.mem_cons, exists_eq_or_imp, hname]
    rw [or_assoc, or_left_comm, eq_comm]

/-- A new client has the services that it was started with, and has no
transport and no other service yet. -/
theorem start_eq_ok {url : String} {names : List String} {connector : γ}
    (h : start url names connector = .ok c) :
    ∃ services d, startServices (.ofProtocol .net) names = .ok (services, d) ∧
      c = { connection := { url := url, connector := connector, handler := d,
                            listener := ⟨services⟩ } } := by
  unfold start at h
  cases hservices : startServices (.ofProtocol .net) names with
  | error e =>
    rw [hservices] at h
    contradiction
  | ok r =>
    obtain ⟨services, d⟩ := r
    cases hconnection : (Connection.ofUrl url connector d ⟨services⟩ : Except RelayError
        (Connection γ τ (Dispatcher ClientAction) ClientListener)) with
    | error e =>
      simp only [hservices, hconnection] at h
      contradiction
    | ok connection =>
      simp only [hservices, hconnection] at h
      cases h
      obtain ⟨-, rfl⟩ := Connection.ofUrl_eq_ok_iff.mp hconnection
      exact ⟨services, d, rfl, rfl⟩

/-- A client that was just made is sound. -/
theorem sound_start {url : String} {names : List String} {connector : γ} {c : Client γ τ}
    (h : start url names connector = .ok c) : c.Sound := by
  obtain ⟨services, d, hservices, rfl⟩ := start_eq_ok h
  obtain ⟨hshows, hfactories⟩ := startServices_eq_ok Dispatcher.shows_net hservices
  have hknows : ∀ s, Knows (γ := γ) (τ := τ)
      { connection := { url := url, connector := connector, handler := d,
                        listener := ⟨services⟩ } } s ↔ s ∈ services := by
    intro s
    simp [Knows]
  constructor
  · refine hshows.congr fun n => ?_
    simp only [Names, hknows, false_or]
  · intro s hs
    exact hfactories s ((hknows s).mp hs)

/-! ### A further service -/

/-- The client with a further service. -/
def withService (c : Client γ τ) (s : Service ClientAction) (d : Dispatcher ClientAction) :
    Client γ τ :=
  { c with
    connection := { c.connection with handler := d }
    services := c.services.insert s.name s }

/-- A further service is known, and so are those that were. -/
theorem knows_withService (hnew : c.services.find? s.name = none) (d : Dispatcher ClientAction)
    (s' : Service ClientAction) : (c.withService s d).Knows s' ↔ s' = s ∨ c.Knows s' := by
  rw [Knows, Knows, withService, Table.find?_insert]
  by_cases hname : s'.name = s.name
  · rw [if_pos hname, hname, hnew, Option.some_inj]
    simp only [reduceCtorEq, or_false]
    rw [or_comm, eq_comm]
  · have hne : s' ≠ s := fun h => hname (congrArg Service.name h)
    rw [if_neg hname]
    simp only [hne, false_or]

/-- A further service costs none of the others. -/
theorem grows_withService (hnew : c.services.find? s.name = none)
    (hregister : c.connection.handler.register s.name (.run .show) = .ok d)
    (hsubscribe : s.subscribeFactory.name = subscribeName) : c.Grows (c.withService s d) := by
  have hknows := knows_withService hnew d
  constructor
  · intro hc
    constructor
    · refine (hc.dispatcher.register hregister).congr fun n => ?_
      simp only [Names, hknows, or_and_right, exists_or, exists_eq_left]
      rw [eq_comm]
    · intro s' hs'
      cases (hknows s').mp hs' with
      | inl heq =>
        rw [heq]
        exact hsubscribe
      | inr hs' => exact hc.subscribes s' hs'
  · intro s' hs'
    exact (hknows s').mpr (.inr hs')

/-- A service that is asked for is in the table, or it cannot be made, or it
is made; then it is registered and entered in the table, or it is refused
and only the handler may have changed. -/
theorem ensureService_forms (c : Client γ τ) (name : String) :
    (∃ s, c.services.find? name = some s ∧ c.ensureService name = (.ok s, c)) ∨
    (c.services.find? name = none ∧ ∃ e, clientService name c.protocol = .error e ∧
      c.ensureService name = (.error e, c)) ∨
    (c.services.find? name = none ∧ ∃ s d e, clientService name c.protocol = .ok s ∧
      s.registerInto c.connection.handler = (.error e, d) ∧
      c.ensureService name =
        (.error e, { c with connection := { c.connection with handler := d } })) ∨
    c.services.find? name = none ∧ ∃ s d, clientService name c.protocol = .ok s ∧
      s.registerInto c.connection.handler = (.ok (), d) ∧
      c.ensureService name = (.ok s, { c with
        connection := { c.connection with handler := d }
        services := c.services.insert name s }) := by
  unfold ensureService
  cases c.services.find? name with
  | some s => exact .inl ⟨s, rfl, rfl⟩
  | none =>
    cases clientService name c.protocol with
    | error e => exact .inr (.inl ⟨rfl, e, rfl, rfl⟩)
    | ok s =>
      cases hinto : s.registerInto c.connection.handler with
      | mk result d =>
        cases result with
        | error e => exact .inr (.inr (.inl ⟨rfl, s, d, e, rfl, hinto, by simp only [hinto]⟩))
        | ok _ => exact .inr (.inr (.inr ⟨rfl, s, d, rfl, hinto, by simp only [hinto]⟩))

/-- In a client that is sound, a service that is refused changes nothing. -/
theorem ensureService_cases (hc : c.Sound) (name : String) :
    (∃ s, c.services.find? name = some s ∧ c.ensureService name = (.ok s, c)) ∨
    (∃ e, (clientService name c.protocol = .error e ∨ (∃ s, clientService name c.protocol = .ok s) ∧
      c.connection.handler.register name (.run .show) = .error e) ∧
      c.ensureService name = (.error e, c)) ∨
    ∃ s d, c.services.find? name = none ∧ clientService name c.protocol = .ok s ∧ s.name = name ∧
      c.connection.handler.register name (.run .show) = .ok d ∧
      c.ensureService name = (.ok s, c.withService s d) := by
  obtain hfound | ⟨-, e, hs, hensure⟩ | ⟨-, s, d, e, hs, hinto, hensure⟩ |
      ⟨hfind, s, d, hs, hinto, hensure⟩ := ensureService_forms c name
  · exact .inl hfound
  · exact .inr (.inl ⟨e, .inl hs, hensure⟩)
  · obtain ⟨rfl, -, hhandlers⟩ := clientService_eq_ok hc.dispatcher.protocol hs
    rw [registerInto_eq hhandlers] at hinto
    split at hinto
    · next hregister =>
      cases hinto
      exact .inr (.inl ⟨e, .inr ⟨⟨s, hs⟩, hregister⟩, hensure⟩)
    · cases hinto
  · obtain ⟨rfl, -, hhandlers⟩ := clientService_eq_ok hc.dispatcher.protocol hs
    rw [registerInto_eq hhandlers] at hinto
    split at hinto
    · cases hinto
    · next hregister =>
      cases hinto
      exact .inr (.inr ⟨s, d, hfind, hs, rfl, hregister, hensure⟩)

/-- Whether the service that is asked for is there, is refused or is new, none
is lost. -/
theorem grows_ensureService (hc : c.Sound) (name : String) :
    c.Grows (c.ensureService name).2 := by
  obtain ⟨s, -, hensure⟩ | ⟨e, -, hensure⟩ | ⟨s, d, hnew, hs, rfl, hregister, hensure⟩ :=
    ensureService_cases hc name
  · rw [hensure]
    exact .refl c
  · rw [hensure]
    exact .refl c
  · obtain ⟨-, hsubscribe, -⟩ := clientService_eq_ok hc.dispatcher.protocol hs
    rw [hensure]
    exact grows_withService hnew hregister hsubscribe

/-! ## Runs -/

/-- What happens to a client. -/
inductive Action (γ τ : Type) where
  /-- its user gives a command -/
  | execute (command : Command)
  | handleEvent (event : Event)
  | emit (event : Event)
  | processNext
  | drop
  /-- a transport changes by itself -/
  | move (transport : Nat) (f : τ → τ)
  /-- the connector changes by itself -/
  | arrange (f : γ → γ)

variable [Transport τ] [Connector γ τ]

/-- The client with another connection. -/
def withConnection (c : Client γ τ)
    (connection : Connection γ τ (Dispatcher ClientAction) ClientListener) : Client γ τ :=
  { c with connection := connection }

/-- Carries out an action. -/
def act (c : Client γ τ) : Action γ τ → Client γ τ
  | .execute command => (c.execute command).2
  | .handleEvent e => c.withConnection (c.connection.handleEvent e).2
  | .emit e => c.withConnection (c.connection.emit e).2
  | .processNext => c.withConnection ((c.connection.processNext?.map Prod.snd).getD c.connection)
  | .drop => c.withConnection c.connection.drop
  | .move t f => c.withConnection (c.connection.move t f)
  | .arrange f => c.withConnection { c.connection with connector := f c.connection.connector }

/-- The client after a run of actions. -/
def after (c : Client γ τ) (acts : List (Action γ τ)) : Client γ τ := acts.foldl act c

omit [Transport τ] [Connector γ τ] in
theorem Steady.refl (c : Client γ τ) : c.Steady c := ⟨.refl _, rfl⟩

omit [Transport τ] [Connector γ τ] in
/-- Writing a line changes nothing else. -/
theorem steady_print (c : Client γ τ) (text : String) : c.Steady (c.print text) :=
  ⟨⟨rfl, rfl⟩, rfl⟩

omit [Transport τ] [Connector γ τ] in
theorem Steady.trans {c c' c'' : Client γ τ} (h : c.Steady c') (h' : c'.Steady c'') :
    c.Steady c'' :=
  ⟨h.connection.trans h'.connection, h'.services.trans h.services⟩

omit [Connector γ τ] in
/-- To send a packet, or to report that it was not sent, changes no service.
-/
theorem steady_sendOrReport (c : Client γ τ) (p : Packet Json) (action name : String) :
    c.Steady (c.sendOrReport p action name) := by
  have hsend : c.Steady { c with connection := (c.connection.send (.packet p)).2 } :=
    ⟨Connection.steady_sendOn c.connection _ _, rfl⟩
  simp only [sendOrReport]
  split
  · exact hsend
  · exact hsend.trans (steady_print _ _)

/-- But for a subscription, a command leaves the callbacks and the services
as they are. -/
theorem steady_execute {command : Command} (h : ∀ name, command ≠ .subscribe name) :
    c.Steady (c.execute command).2 := by
  cases command with
  | subscribe name => exact absurd rfl (h name)
  | unsubscribe name =>
    rw [execute]
    cases c.services.find? name with
    | none => exact steady_print c _
    | some s => exact steady_sendOrReport c s.unsubscribePacket "unsubscribe" name
  | send name data =>
    rw [execute]
    cases c.protocol.packet name data with
    | error e => exact steady_print c _
    | ok p => exact steady_sendOrReport c p "send" name
  | connect =>
    have hconnect : c.Steady { c with connection := c.connection.connect.2 } :=
      ⟨Connection.steady_connect c.connection, rfl⟩
    rw [execute]
    cases hresult : c.connection.connect with
    | mk result connection =>
      rw [hresult] at hconnect
      cases result with
      | error e => exact hconnect.trans (steady_print _ _)
      | ok _ => exact hconnect
  | disconnect => exact ⟨Connection.steady_disconnect c.connection, rfl⟩
  | state => exact steady_print c _
  | help => exact steady_print c _
  | quit => exact .refl c

/-- So does all else that happens to a client. -/
theorem steady_act {a : Action γ τ} (h : ∀ name, a ≠ .execute (.subscribe name)) :
    c.Steady (c.act a) := by
  have hconnection : ∀ {connection}, c.connection.Steady connection →
      c.Steady (c.withConnection connection) :=
    fun h => ⟨h, rfl⟩
  cases a with
  | execute command =>
    exact steady_execute fun name hname => h name (congrArg Action.execute hname)
  | handleEvent e => exact hconnection (Connection.steady_handleEvent _ e)
  | emit e =>
    apply hconnection
    unfold Connection.emit
    split
    · exact .refl _
    · exact ⟨rfl, rfl⟩
  | processNext =>
    apply hconnection
    cases hq : c.connection.queue with
    | nil =>
      simp only [Connection.processNext?, Connection.nextEvent?, hq]
      exact .refl _
    | cons e queue =>
      have hevent := Connection.steady_handleEvent { c.connection with queue := queue } e
      simp only [Connection.processNext?, Connection.nextEvent?, hq]
      exact ⟨hevent.handler, hevent.listener⟩
  | drop =>
    apply hconnection
    unfold Connection.drop
    split
    · exact .refl _
    · have hdisconnect := Connection.steady_disconnect c.connection
      exact ⟨hdisconnect.handler, hdisconnect.listener⟩
  | move t f => exact hconnection ⟨rfl, rfl⟩
  | arrange f => exact hconnection ⟨rfl, rfl⟩

/-- A subscription comes to the service that is asked for, or is refused. -/
theorem steady_subscribe (c : Client γ τ) (name : String) :
    (c.ensureService name).2.Steady (c.execute (.subscribe name)).2 := by
  rw [execute]
  cases c.ensureService name with
  | mk result c' =>
    cases result with
    | error e => exact steady_print c' _
    | ok s => exact steady_sendOrReport c' s.subscribePacket "subscribe" name

/-- No action loses a service. -/
theorem grows_act (hc : c.Sound) (a : Action γ τ) : c.Grows (c.act a) := by
  by_cases hsubscribe : ∃ name, a = .execute (.subscribe name)
  · obtain ⟨name, rfl⟩ := hsubscribe
    exact (grows_ensureService hc name).trans (steady_subscribe c name).grows
  · exact (steady_act (not_exists.mp hsubscribe)).grows

/-- In every run a client shows the packets that are named like a service
that it knows, and it forgets none of these. -/
theorem grows_after (hc : c.Sound) (acts : List (Action γ τ)) : c.Grows (c.after acts) := by
  induction acts generalizing c with
  | nil => exact .refl c
  | cons a acts ih =>
    have hact := grows_act hc a
    exact hact.trans (ih (hact.sound hc))

/-! ## The steps of its connection -/

omit [Connector γ τ] [Transport τ] in
/-- A new service gives the connection another handler. -/
theorem connection_ensureService (c : Client γ τ) (name : String) :
    ∃ d, (c.ensureService name).2.connection = { c.connection with handler := d } := by
  obtain ⟨s, -, hensure⟩ | ⟨-, e, -, hensure⟩ | ⟨-, s, d, e, -, -, hensure⟩ |
      ⟨-, s, d, -, -, hensure⟩ := ensureService_forms c name
  · exact ⟨c.connection.handler, by rw [hensure]⟩
  · exact ⟨c.connection.handler, by rw [hensure]⟩
  · exact ⟨d, by rw [hensure]⟩
  · exact ⟨d, by rw [hensure]⟩

/-- To send a packet, or to report that it was not sent, is a chain of
steps. -/
theorem steps_sendOrReport (c : Client γ τ) (p : Packet Json) (action name : String) :
    Connection.Steps c.connection (c.sendOrReport p action name).connection := by
  have hsend := Connection.steps_sendOn c.connection c.connection.own (.packet p)
  simp only [sendOrReport]
  split
  · exact hsend
  · exact hsend.tail (.printed _ _)

/-- What a command does to the connection is a chain of steps. -/
theorem steps_execute (c : Client γ τ) (command : Command) :
    Connection.Steps c.connection (c.execute command).2.connection := by
  cases command with
  | subscribe name =>
    obtain ⟨d, hd⟩ := connection_ensureService c name
    have hensure : Connection.Steps c.connection (c.ensureService name).2.connection := by
      rw [hd]
      exact .single (.handler _ d)
    rw [execute]
    cases hresult : c.ensureService name with
    | mk result c' =>
      rw [hresult] at hensure
      cases result with
      | error e => exact hensure.tail (.printed _ _)
      | ok s => exact hensure.trans (steps_sendOrReport c' s.subscribePacket "subscribe" name)
  | unsubscribe name =>
    rw [execute]
    cases c.services.find? name with
    | none => exact .single (.printed _ _)
    | some s => exact steps_sendOrReport c s.unsubscribePacket "unsubscribe" name
  | send name data =>
    rw [execute]
    cases c.protocol.packet name data with
    | error e => exact .single (.printed _ _)
    | ok p => exact steps_sendOrReport c p "send" name
  | connect =>
    have hconnect := Connection.steps_connect c.connection
    rw [execute]
    cases hresult : c.connection.connect with
    | mk result connection =>
      rw [hresult] at hconnect
      cases result with
      | error e => exact hconnect.tail (.printed _ _)
      | ok _ => exact hconnect
  | disconnect => exact Connection.steps_disconnect c.connection
  | state => exact .single (.printed _ _)
  | help => exact .single (.printed _ _)
  | quit => exact .refl

/-- So is what an action does to it, but for a transport that changes by
itself. -/
theorem steps_act (c : Client γ τ) {a : Action γ τ} (ha : ∀ t f, a ≠ .move t f) :
    Connection.Steps c.connection (c.act a).connection := by
  cases a with
  | execute command => exact steps_execute c command
  | handleEvent e => exact Connection.steps_handleEvent c.connection e
  | emit e => exact Connection.steps_act c.connection (.emit e) (fun _ _ => by simp)
  | processNext =>
    have hnext := Connection.steps_act c.connection .processNext (fun _ _ => by simp)
    simp only [Connection.act] at hnext
    rw [act, withConnection]
    cases hq : c.connection.processNext? with
    | none => exact .refl
    | some x =>
      rw [hq] at hnext
      exact hnext
  | drop => exact Connection.steps_act c.connection .drop (fun _ _ => by simp)
  | move t f => exact absurd rfl (ha t f)
  | arrange f => exact .single (.connector _ _)

end Client

end PushRelay
