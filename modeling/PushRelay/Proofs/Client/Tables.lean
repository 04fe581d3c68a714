import PushRelay.Proofs.Client.Showing
import PushRelay.Transport.Socket

/-!
# PushRelay.Proofs.Client.Tables

The three tables of a client: its protocol, the callbacks of its handler,
and the services that its user subscribed to.

1. A service is refused for its name alone: it must be one that a packet
   may have (`ensureService_of_allowed`, `ensureService_of_not_allowed`).
   A refusal changes nothing.
2. So the tables are known from the services that the client was started
   with and the commands to subscribe that its user gave
   (`Client.Tables`), whatever else happens to it.
3. The callbacks then tell what becomes of every message that has a name
   (`tables_after`).
-/

namespace PushRelay

/-! ## Callbacks and protocol -/

namespace Dispatcher

variable {κ : Type} {d d' : Dispatcher κ} {name : String} {callback : Callback κ}

/-- The callbacks and the protocol have the same names. -/
def Matched (d : Dispatcher κ) : Prop :=
  ∀ name, d.callbacks.contains name = d.protocol.contains name

/-- A new dispatcher has an entry for each name of its protocol, and for no
other. -/
theorem matched_ofProtocol (p : Protocol) : (ofProtocol p : Dispatcher κ).Matched := by
  intro name
  simp only [ofProtocol, Table.contains, Table.find?_map, Option.isSome_map, Protocol.contains]

/-- A name comes into both at once. -/
theorem Matched.register (hd : d.Matched) (h : d.register name callback = .ok d') :
    d'.Matched := by
  intro other
  unfold Dispatcher.register at h
  split at h
  · next hin =>
    cases h
    rw [Table.contains_insert, hd other]
    by_cases hother : other = name
    · rw [hother, hin, Bool.or_true]
    · rw [decide_eq_false hother, Bool.false_or]
  · split at h
    · contradiction
    · next f p hadd =>
      cases h
      obtain ⟨-, -, rfl⟩ := Protocol.add_eq_ok_iff.mp hadd
      rw [Table.contains_insert, hd other, Protocol.contains, Protocol.contains,
        Table.contains_insert]

/-- The names of the callbacks are those of the protocol, in the same order.
-/
theorem Matched.keys_eq (hd : d.Matched) : d.callbacks.keys = d.protocol.names :=
  Table.keys_eq_of_contains hd

end Dispatcher

namespace Client

variable {γ τ : Type} {c : Client γ τ} {names commanded : List String} {name : String}

/-! ## What a client keeps -/

/-- What is known of a client that was started with services of the given
names, after the user subscribed to those of others. -/
structure Kept (c : Client γ τ) (names commanded : List String) : Prop where
  sound : c.Sound
  matched : c.connection.handler.Matched
  /-- the listener has the services that the client was started with -/
  started : c.connection.listener.services.map Service.name = names
  entered : ∀ name, (c.services.find? name).isSome ↔ name ∈ commanded
  named : ∀ name s, c.services.find? name = some s → s.name = name

/-- A client knows the services of its start and those of its commands. -/
theorem Kept.names_iff (hc : c.Kept names commanded) :
    c.Names name ↔ name ∈ names ∨ name ∈ commanded := by
  have hlistener : (∃ s ∈ c.connection.listener.services, s.name = name) ↔ name ∈ names := by
    rw [← hc.started, List.mem_map]
  have hservices : (∃ s, c.services.find? s.name = some s ∧ s.name = name) ↔ name ∈ commanded := by
    rw [← hc.entered, Option.isSome_iff_exists]
    constructor
    · rintro ⟨s, hs, rfl⟩
      exact ⟨s, hs⟩
    · rintro ⟨s, hs⟩
      obtain rfl := hc.named name s hs
      exact ⟨s, hs, rfl⟩
  simp only [Names, Knows, or_and_right, exists_or, hlistener, hservices]

/-- The protocol has the names of the services and those of the control
packets. -/
theorem Kept.contains_iff (hc : c.Kept names commanded) :
    c.protocol.contains name ↔
      (name = subscribeName ∨ name = unsubscribeName) ∨ name ∈ names ∨ name ∈ commanded := by
  rw [← hc.names_iff, protocol, ← hc.matched name, Table.contains]
  by_cases hname : c.Names name
  · simp [hc.sound.dispatcher.shown name hname, hname]
  · rw [hc.sound.dispatcher.others name hname]
    by_cases hcontrol : name = subscribeName ∨ name = unsubscribeName
    · simp [hcontrol]
    · simp [hcontrol, hname]

/-- The services that a client knows have names that are allowed. -/
theorem Kept.allowed (hc : c.Kept names commanded) (hname : name ∈ names ∨ name ∈ commanded) :
    Protocol.Allowed name := by
  have hin : c.protocol.contains name := hc.contains_iff.mpr (.inr hname)
  obtain ⟨f, hf⟩ := Protocol.contains_iff_exists_get?.mp hin
  exact (hc.sound.dispatcher.protocol name f hf).1

/-! ## Which services are refused -/

/-- Why a service of a client is refused. -/
def refusalOf (name : String) : RelayError :=
  if name = "" then .nameRequired else .invalidPacketName name

/-- A service can be made under every name but the empty one, if the
protocol has the control packets. -/
theorem clientService_eq_error_iff {p : Protocol} {e : RelayError}
    (hsubscribe : p.contains subscribeName) (hunsubscribe : p.contains unsubscribeName) :
    clientService name p = .error e ↔ name = "" ∧ e = .nameRequired := by
  obtain ⟨f, hf⟩ := Protocol.contains_iff_exists_get?.mp hsubscribe
  obtain ⟨g, hg⟩ := Protocol.contains_iff_exists_get?.mp hunsubscribe
  unfold clientService Service.ofEntries
  by_cases hname : name = ""
  · simp [hname, eq_comm]
  · simp [hname, Service.handlersOf, Service.control, hf, hg]

/-- The only name that makes no service is the empty one. -/
theorem Kept.clientService_eq_error_iff (hc : c.Kept names commanded) {e : RelayError} :
    clientService name c.protocol = .error e ↔ name = "" ∧ e = .nameRequired :=
  Client.clientService_eq_error_iff (hc.contains_iff.mpr (.inl (.inl rfl)))
    (hc.contains_iff.mpr (.inl (.inr rfl)))

/-- A service is refused if no packet may have its name, and for no other
reason. -/
theorem Kept.of_refused (hc : c.Kept names commanded) {e : RelayError}
    (h : clientService name c.protocol = .error e ∨ (∃ s, clientService name c.protocol = .ok s) ∧
      c.connection.handler.register name (.run .show) = .error e) :
    ¬ Protocol.Allowed name ∧ e = refusalOf name := by
  obtain h | ⟨⟨s, hs⟩, hregister⟩ := h
  · obtain ⟨rfl, rfl⟩ := hc.clientService_eq_error_iff.mp h
    exact ⟨fun hallowed => hallowed.1 rfl, rfl⟩
  · obtain ⟨-, hallowed, rfl⟩ := Dispatcher.register_eq_error_iff.mp hregister
    have hname : name ≠ "" := by
      intro hempty
      rw [hc.clientService_eq_error_iff.mpr ⟨hempty, rfl⟩] at hs
      contradiction
    rw [refusalOf, if_neg hname]
    exact ⟨hallowed, rfl⟩

/-- A name that is not allowed is refused, and nothing changes. -/
theorem Kept.ensureService_of_not_allowed (hc : c.Kept names commanded)
    (h : ¬ Protocol.Allowed name) : c.ensureService name = (.error (refusalOf name), c) := by
  obtain ⟨s, hfind, -⟩ | ⟨e, hrefused, hensure⟩ | ⟨s, d, -, -, rfl, hregister, -⟩ :=
    ensureService_cases hc.sound name
  · have hmem : name ∈ commanded := (hc.entered name).mp (by rw [hfind, Option.isSome_some])
    exact absurd (hc.allowed (.inr hmem)) h
  · obtain ⟨-, rfl⟩ := hc.of_refused hrefused
    exact hensure
  · obtain ⟨-, hin, hsound⟩ := Dispatcher.protocol_of_register hregister
    obtain ⟨f, hf⟩ := Protocol.contains_iff_exists_get?.mp hin
    exact absurd (hsound hc.sound.dispatcher.protocol s.name f hf).1 h

/-- A name that is allowed is entered in all three tables, or is there
already. -/
theorem Kept.ensureService_of_allowed (hc : c.Kept names commanded) (h : Protocol.Allowed name) :
    (c.ensureService name).2.Kept names (commanded ++ [name]) := by
  obtain ⟨s, hfind, hensure⟩ | ⟨e, hrefused, -⟩ | ⟨s, d, hnew, hs, rfl, hregister, hensure⟩ :=
    ensureService_cases hc.sound name
  · have hmem : name ∈ commanded := (hc.entered name).mp (by rw [hfind, Option.isSome_some])
    rw [hensure]
    refine { hc with entered := fun n => ?_ }
    rw [hc.entered, List.mem_append, List.mem_singleton, or_iff_left_of_imp]
    rintro rfl
    exact hmem
  · exact absurd h (hc.of_refused hrefused).1
  · obtain ⟨-, hsubscribe, -⟩ := clientService_eq_ok hc.sound.dispatcher.protocol hs
    have hfind (n : String) : (c.withService s d).services.find? n =
        if n = s.name then some s else c.services.find? n := Table.find?_insert ..
    rw [hensure]
    constructor
    · exact (grows_withService hnew hregister hsubscribe).sound hc.sound
    · exact hc.matched.register hregister
    · exact hc.started
    · intro n
      rw [hfind, List.mem_append, List.mem_singleton]
      split
      · next hn => simp [hn]
      · next hn => rw [hc.entered, or_iff_left hn]
    · intro n s' hs'
      rw [hfind] at hs'
      split at hs'
      · next hn =>
        cases hs'
        exact hn.symm
      · exact hc.named n s' hs'

/-! ## Runs -/

/-- What changes no table keeps the account. -/
theorem Kept.steady {c' : Client γ τ} (hc : c.Kept names commanded) (h : c.Steady c') :
    c'.Kept names commanded where
  sound := h.grows.sound hc.sound
  matched := h.connection.handler ▸ hc.matched
  started := h.connection.listener ▸ hc.started
  entered := h.services ▸ hc.entered
  named := h.services ▸ hc.named

/-- The services of a start have the names that were given, in order. -/
theorem startServices_names {d d' : Dispatcher ClientAction}
    {services : List (Service ClientAction)} (hd : d.protocol.Sound) (hmatched : d.Matched)
    (h : startServices d names = .ok (services, d')) :
    services.map Service.name = names ∧ d'.Matched := by
  induction names generalizing d services with
  | nil =>
    cases h
    exact ⟨rfl, hmatched⟩
  | cons name names ih =>
    obtain ⟨s, d₁, rest, hservice, hregister, hrest, rfl⟩ := startServices_cons_eq_ok hd h
    obtain ⟨hname, -⟩ := clientService_eq_ok hd hservice
    have hsound := (Dispatcher.protocol_of_register hregister).2.2 hd
    obtain ⟨hnames, hlater⟩ := ih hsound (hmatched.register hregister) hrest
    rw [List.map_cons, hname, hnames]
    exact ⟨rfl, hlater⟩

/-- A client that was just made has the services of its start alone. -/
theorem kept_start {url : String} {connector : γ} (h : start url names connector = .ok c) :
    c.Kept names [] := by
  have hsound := sound_start h
  obtain ⟨services, d, hservices, rfl⟩ := start_eq_ok h
  obtain ⟨hnames, hmatched⟩ :=
    startServices_names Protocol.sound_net (Dispatcher.matched_ofProtocol _) hservices
  exact ⟨hsound, hmatched, hnames, fun name => by simp, fun name s hs => by simp at hs⟩

/-- The name that an action subscribes to, if a packet may have it. -/
def Action.subscribes : Action γ τ → List String
  | .execute (.subscribe name) => if Protocol.Allowed name then [name] else []
  | _ => []

/-- The names that the commands of a run subscribed to. -/
def commandedBy (acts : List (Action γ τ)) : List String := acts.flatMap Action.subscribes

variable [Transport τ] [Connector γ τ]

/-- An action adds to the account what it subscribes to. -/
theorem Kept.act (hc : c.Kept names commanded) (a : Action γ τ) :
    (c.act a).Kept names (commanded ++ a.subscribes) := by
  by_cases hsubscribe : ∃ name, a = .execute (.subscribe name)
  · obtain ⟨name, rfl⟩ := hsubscribe
    have hsteady := steady_subscribe c name
    by_cases hallowed : Protocol.Allowed name
    · rw [Action.subscribes, if_pos hallowed]
      exact (hc.ensureService_of_allowed hallowed).steady hsteady
    · rw [hc.ensureService_of_not_allowed hallowed] at hsteady
      rw [Action.subscribes, if_neg hallowed, List.append_nil]
      exact hc.steady hsteady
  · have hnone : a.subscribes = [] := by
      unfold Action.subscribes
      split
      · next name => exact absurd ⟨name, rfl⟩ hsubscribe
      · rfl
    rw [hnone, List.append_nil]
    exact hc.steady (steady_act (not_exists.mp hsubscribe))

/-- The account of a run holds what its commands subscribed to. -/
theorem Kept.after (hc : c.Kept names commanded) (acts : List (Action γ τ)) :
    (c.after acts).Kept names (commanded ++ commandedBy acts) := by
  induction acts generalizing c commanded with
  | nil => simpa [commandedBy, after] using hc
  | cons a acts ih =>
    have hlater := ih (hc.act a)
    rwa [List.append_assoc] at hlater

/-! ## The tables of a client -/

/-- The tables of a client that was started with services of the names
`names`, after commands subscribed to those of the names `commanded`. -/
structure Tables (c : Client γ τ) (names commanded : List String) : Prop where
  /-- the control packets, and a packet for every service -/
  protocol : ∀ name, name ∈ c.protocol.names ↔
    (name = subscribeName ∨ name = unsubscribeName) ∨ name ∈ names ∨ name ∈ commanded
  /-- a callback for every packet -/
  callbacks : c.connection.handler.callbacks.keys = c.protocol.names
  /-- one entry for every service that a command subscribed to -/
  services : ∀ name, c.services.keys.count name = if name ∈ commanded then 1 else 0
  named : ∀ name s, c.services.find? name = some s → s.name = name

/-- What becomes of a message that has a name: it is shown if it is named
like a service, and passed over if it is named like a control packet.  All
others have no callback. -/
def Answers (c : Client γ τ) (names commanded : List String) : Prop :=
  ∀ t text value name, Packet.decodeFrame text = .ok value →
    value.member? "name" = some (.string name) →
    c.connection.handleEvent ⟨t, .message text⟩ =
      if name ∈ names ∨ name ∈ commanded then
        (.ok (), c.connection.note
          (.printed (.packet name ((value.member? "data").getD .null))))
      else if name = subscribeName ∨ name = unsubscribeName then (.ok (), c.connection)
      else (.error (.handlerNotFound name), c.connection)

omit [Transport τ] [Connector γ τ] in
/-- An account says what is in each of the three tables. -/
theorem Kept.tables (hc : c.Kept names commanded) : c.Tables names commanded where
  protocol name := by rw [← Protocol.contains_iff_mem_names, hc.contains_iff]
  callbacks := hc.matched.keys_eq
  services name := by
    rw [Table.count_keys, Table.contains]
    simp only [hc.entered]
  named := hc.named

omit [Connector γ τ] in
/-- An account says how each message is answered. -/
theorem Kept.answers (hc : c.Kept names commanded) : c.Answers names commanded := by
  intro t text value name hvalue hname
  rw [handleEvent_of_name hvalue hname]
  by_cases hknown : name ∈ names ∨ name ∈ commanded
  · rw [if_pos hknown, hc.sound.dispatcher.shown name (hc.names_iff.mpr hknown)]
  · rw [if_neg hknown, hc.sound.dispatcher.others name (mt hc.names_iff.mp hknown)]
    by_cases hcontrol : name = subscribeName ∨ name = unsubscribeName
    · rw [if_pos hcontrol, if_pos hcontrol]
    · rw [if_neg hcontrol, if_neg hcontrol]

/-- In every run of a client its tables are those of the services that it
was started with and that its user subscribed to by commands.  Nothing else
that happens to it changes them, and a command to subscribe to a name that
no packet may have only tells the user so.  What becomes of a message that
has a name is known from the same names. -/
theorem tables_after {url : String} {connector : γ} {c₀ : Client γ τ}
    (hclient : start url names connector = .ok c₀) (acts : List (Action γ τ)) :
    (c₀.after acts).Tables names (commandedBy acts) ∧
    (∀ a : Action γ τ, (∀ name, a ≠ .execute (.subscribe name)) →
      (c₀.after acts).Steady ((c₀.after acts).act a)) ∧
    (∀ name, ¬ Protocol.Allowed name → (c₀.after acts).execute (.subscribe name) =
      (true, (c₀.after acts).print ("* " ++ (refusalOf name).message))) ∧
    (c₀.after acts).Answers names (commandedBy acts) := by
  have hc : (c₀.after acts).Kept names (commandedBy acts) := (kept_start hclient).after acts
  refine ⟨hc.tables, fun a h => steady_act h, fun name hname => ?_, hc.answers⟩
  simp only [execute, hc.ensureService_of_not_allowed hname]

/-- A client that was started with the clock subscribes to the news, is
refused the reserved name and cannot drop the clock; it then shows the news.
-/
theorem tables_after_clock :
    let text := "\x7b\"name\":\"news\",\"data\":null\x7d"
    let acts : List (Action SocketConfig Socket) :=
      [.execute (.subscribe "news"), .execute (.subscribe "add"), .execute (.unsubscribe "clock")]
    ∃ c : Client SocketConfig Socket, start "ws://relay" ["clock"] {} = .ok c ∧
      (c.after acts).Tables ["clock"] ["news"] ∧
      (c.after acts).connection.handleEvent ⟨0, .message text⟩ =
        (.ok (), (c.after acts).connection.note (.printed (.packet "news" .null))) := by
  intro text acts
  obtain ⟨c, hclient⟩ :
      ∃ c : Client SocketConfig Socket, start "ws://relay" ["clock"] {} = .ok c := ⟨_, rfl⟩
  have hcommanded : commandedBy acts = ["news"] := by decide
  obtain ⟨htables, -, -, hanswers⟩ := tables_after hclient acts
  rw [hcommanded] at htables hanswers
  have hvalue : Packet.decodeFrame text =
      .ok (.object [("data", .null), ("name", .string "news")]) := by decide +kernel
  exact ⟨c, hclient, htables, hanswers 0 text _ "news" hvalue rfl⟩

end Client

end PushRelay
