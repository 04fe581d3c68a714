import PushRelay.Proofs.Client.Run
import PushRelay.Proofs.Packet.Resolving
import PushRelay.Proofs.Router.Serving
import PushRelay.Transport.Scripted

/-!
# PushRelay.Proofs.Client.Showing

What a client shows of the services that it subscribed to.

A router matches the names of services in lower case, but a client looks
for the callback of a packet by its exact name.  So a subscription reaches
a service whose name has the same lower case, and what this pushes under
its own name is shown by the client if it knows a service of exactly that
name (`subscription_outcome`).
-/

namespace PushRelay

namespace Client

variable {γ τ : Type} [Transport τ] {c : Client γ τ} {p : Packet Json} {frame : String}

/-- A message that comes in goes to the callback under its name. -/
theorem handleEvent_of_name {text name : String} {value : Json}
    (hvalue : Packet.decodeFrame text = .ok value)
    (hname : value.member? "name" = some (.string name)) (t : Nat) :
    c.connection.handleEvent ⟨t, .message text⟩ =
      match c.connection.handler.callbacks.find? name with
      | some (.run .show) => (.ok (), c.connection.note
          (.printed (.packet name ((value.member? "data").getD .null))))
      | some .noop => (.ok (), c.connection)
      | none => (.error (.handlerNotFound name), c.connection) := by
  simp only [Connection.handleEvent, Connection.handleMessage, hvalue, MessageHandler.handle,
    Dispatcher.resolve, hname, Dispatcher.callFor]
  cases c.connection.handler.callbacks.find? name with
  | none => rfl
  | some callback =>
    cases callback with
    | noop => rfl
    | run action => rfl

/-- A client that gets the frame of a packet shows the packet if its callback
does. -/
theorem handleEvent_of_encode (hp : p.data.Readable 126) (hframe : p.encode = .ok frame) (t : Nat) :
    c.connection.handleEvent ⟨t, .message frame⟩ =
      match c.connection.handler.callbacks.find? p.name with
      | some (.run .show) => (.ok (), c.connection.note (.printed (.packet p.name p.data)))
      | some .noop => (.ok (), c.connection)
      | none => (.error (.handlerNotFound p.name), c.connection) := by
  obtain ⟨rfl, hsize⟩ := Packet.encode_eq_ok_iff.mp hframe
  obtain ⟨value, hvalue, hpacket⟩ := Packet.decode_eq_ok_iff.mp (Packet.decode_text hp hsize)
  obtain ⟨hname, hdata⟩ := Packet.ofJson_eq_ok_iff.mp hpacket
  rw [handleEvent_of_name hvalue hname, ← hdata]

/-- What becomes of a frame of the packet `p` in a client: the packet is
shown if it is named like a service that the client knows, and only then.
Otherwise it fails if it is not one of the control packets. -/
structure Receives (c : Client γ τ) (p : Packet Json) (frame : String) : Prop where
  shown : c.Names p.name → ∀ t, c.connection.handleEvent ⟨t, .message frame⟩ =
    (.ok (), c.connection.note (.printed (.packet p.name p.data)))
  others : ¬ c.Names p.name → ∀ t, c.connection.handleEvent ⟨t, .message frame⟩ =
    (if p.name = subscribeName ∨ p.name = unsubscribeName then .ok ()
      else .error (.handlerNotFound p.name), c.connection)

/-- A client shows the packets of the services it knows, does nothing with
control packets, and has an error for all others. -/
theorem Sound.receives (hc : c.Sound) (hp : p.data.Readable 126) (hframe : p.encode = .ok frame) :
    c.Receives p frame := by
  constructor
  · intro hname t
    rw [handleEvent_of_encode hp hframe, hc.dispatcher.shown p.name hname]
  · intro hname t
    rw [handleEvent_of_encode hp hframe, hc.dispatcher.others p.name hname]
    by_cases hcontrol : p.name = subscribeName ∨ p.name = unsubscribeName
    · rw [if_pos hcontrol, if_pos hcontrol]
    · rw [if_neg hcontrol, if_neg hcontrol]

variable [Connector γ τ]

/-- What becomes of a subscription.  A client that knows a service is
subscribed by its frame to no other service of a router than the one whose
name has the same lower case.  Let the services of the router push packets
that are named like them.  Then all that this service puts on the queue of
the connection, at once or later, are frames of packets that it pushed; and
a client that receives one shows the packet if it knows a service of
exactly that name, as it does if the name it subscribed to was spelled like
this.  Otherwise it shows nothing, and without a callback under the name it
fails. -/
theorem subscription_outcome {url : String} {names : List String} {connector : γ}
    {c₀ : Client γ τ} (hclient : start url names connector = .ok c₀)
    (acts more : List (Client.Action γ τ)) {s : Service ClientAction}
    (hs : (c₀.after acts).Knows s) {frame : String} (hframe : s.subscribePacket.encode = .ok frame)
    (config : RouterConfig) (before later : List Router.Action) (id n : Nat)
    (hpushes : ∀ x ∈ (Router.start config).history (before ++ .receive id frame :: later),
      x.1.Pushes (fun _ p => p.data.Readable 126) x.2)
    (hbefore : ((Router.start config).after before).directory.isSubscribed n id = false)
    (hafter : (((Router.start config).after before).act
      (.receive id frame)).directory.isSubscribed n id = true) :
    ∃ name, ((Router.start config).after before).directory.nameOf? n = some name ∧
      Text.lowercase s.name = Text.lowercase name ∧
      ((c₀.after acts).after more).Names s.name ∧
      ∀ x ∈ ((Router.start config).after before).history (.receive id frame :: later),
        ∀ peer, x.1.peers.find? id = some peer → x.1.Serves n id x.2 →
        ∀ f ∈ x.1.added x.2 peer.queue,
          ∃ p, .push n p ∈ before ++ .receive id frame :: later ∧ p.name = name ∧
            p.encode = .ok f ∧ ((c₀.after acts).after more).Receives p f := by
  -- the client knows the service still
  have hc := (grows_after (sound_start hclient) acts).sound (sound_start hclient)
  have hgrows := grows_after hc more
  have hsubscribe : s.subscribeFactory.name = subscribeName := hc.subscribes s hs
  have hlater : ((c₀.after acts).after more).Sound := hgrows.sound hc
  have hnames : ((c₀.after acts).after more).Names s.name := ⟨s, hgrows.knows s hs, rfl⟩
  -- whatever the router pushes is one of its actions
  have hpushed := Router.pushes_of_mem_history hpushes
  rw [Router.history_append] at hpushed
  obtain ⟨hpushedBefore, hpushedLater⟩ := List.forall_mem_append.mp hpushed
  have hsound := (Router.sound_after (Router.sound_start config) hpushedBefore).2
  have hcontrolled := Router.controlled_after (Router.controlled_start config) before
  -- the service that the frame subscribes to
  obtain ⟨peer, hpeer⟩ := Router.peer_of_subscribed hbefore hafter
  obtain ⟨service, hservice, -⟩ := Router.added_of_subscribed hcontrolled hpeer hbefore hafter
  have hname := Directory.nameOf?_of_services hservice
  have hlowercase := Router.lowercase_of_subscribed hsound hcontrolled hpeer hsubscribe hframe
    hname hbefore hafter
  refine ⟨service.name, hname, hlowercase, hnames, ?_⟩
  intro x hx peer hpeer hserves f hf
  obtain ⟨p, ⟨hdata, hmem⟩, hpname, hpframe⟩ :=
    Router.pushed_of_mem_history hsound hcontrolled hpushedLater hx hserves hpeer hname hf
  exact ⟨p, hmem, hpname, hpframe, hlater.receives hdata hpframe⟩

/-- A client starts with the clock, written as the router has it: it is
subscribed, gets the next push, and shows it. -/
theorem subscription_outcome_clock :
    let p : Packet Json :=
      ⟨"clock", .object [("timestamp", .number (.whole 5 (by decide)))], by decide⟩
    let frame := "\x7b\"name\":\"subscribe\",\"data\":\x7b\"service\":\"clock\"\x7d\x7d"
    let pushed := "\x7b\"name\":\"clock\",\"data\":\x7b\"timestamp\":5\x7d\x7d"
    let r := (Router.start {}).after [.accept]
    let acts : List Router.Action := [.accept, .receive 1 frame, .push 0 p]
    ∃ (c : Client ScriptedConnector ScriptedTransport) (s : Service ClientAction),
      start "ws://relay" ["clock"] {} = .ok c ∧ c.Knows s ∧
      s.subscribePacket.encode = .ok frame ∧
      (∀ x ∈ (Router.start {}).history acts,
        x.1.Pushes (fun _ q => q.data.Readable 126) x.2) ∧
      r.directory.isSubscribed 0 1 = false ∧
      (r.act (.receive 1 frame)).directory.isSubscribed 0 1 = true ∧
      (r.act (.receive 1 frame)).added (.push 0 p) 0 = [pushed] ∧
      ∀ t, c.connection.handleEvent ⟨t, .message pushed⟩ =
        (.ok (), c.connection.note (.printed (.packet "clock" p.data))) := by
  intro p frame pushed r acts
  obtain ⟨c, s, hclient, hs, hframe, hname⟩ :
      ∃ (c : Client ScriptedConnector ScriptedTransport) (s : Service ClientAction),
        start "ws://relay" ["clock"] {} = .ok c ∧ c.Knows s ∧
        s.subscribePacket.encode = .ok frame ∧ s.name = "clock" := by
    refine ⟨_, _, rfl, .inl List.mem_cons_self, ?_, rfl⟩
    decide +kernel
  have hbefore : r.directory.isSubscribed 0 1 = false := by decide +kernel
  have hafter : (r.act (.receive 1 frame)).directory.isSubscribed 0 1 = true := by
    decide +kernel
  have hadded : (r.act (.receive 1 frame)).added (.push 0 p) 0 = [pushed] := by
    decide +kernel
  have hdata : p.data.Readable 126 := by
    refine Json.readable_object_iff.mpr ⟨List.pairwise_singleton _ _, ?_⟩
    exact List.forall_mem_singleton.mpr
      ⟨Json.shaped_of_depth_eq_zero rfl, List.forall_mem_nil _⟩
  have hpushes : ∀ x ∈ (Router.start {}).history acts,
      x.1.Pushes (fun _ q => q.data.Readable 126) x.2 := by
    intro x hx n q hq
    have hx : x ∈ [(Router.start {}, .accept), (r, .receive 1 frame),
        (r.act (.receive 1 frame), .push 0 p)] := hx
    simp only [List.mem_cons, List.not_mem_nil, or_false] at hx
    obtain rfl | rfl | rfl := hx
    · cases hq
    · cases hq
    · cases hq
      refine ⟨hdata, fun name hname => ?_⟩
      have hclock : (r.act (.receive 1 frame)).directory.nameOf? 0 = some "clock" := by
        decide +kernel
      exact Option.some.inj (hclock.symm.trans hname)
  refine ⟨c, s, hclient, hs, hframe, hpushes, hbefore, hafter, hadded, ?_⟩
  obtain ⟨name, hservice, -, hnames, hserved⟩ :=
    subscription_outcome hclient [] [] hs hframe {} [.accept] [.push 0 p] 1 0 hpushes hbefore
      hafter
  obtain ⟨peer, hpeer, hqueue⟩ : ∃ peer,
      (r.act (.receive 1 frame)).peers.find? 1 = some peer ∧ peer.queue = 0 := ⟨_, rfl, rfl⟩
  have hmem : pushed ∈ (r.act (.receive 1 frame)).added (.push 0 p) peer.queue := by
    rw [hqueue, hadded]
    exact List.mem_singleton_self pushed
  obtain ⟨q, hq, hqname, -, hreceives⟩ := hserved (r.act (.receive 1 frame), .push 0 p)
    (List.mem_cons_of_mem _ List.mem_cons_self) peer hpeer (.inl ⟨p, rfl⟩) pushed hmem
  have hqp : q = p := by simpa using hq
  rw [hqp] at hreceives
  rw [hname] at hnames
  exact hreceives.shown hnames

/-- A client that subscribes to `CLOCK` is subscribed to the service
`clock`, and fails at the packets that this pushes. -/
theorem subscription_lost :
    let p : Packet Json :=
      ⟨"clock", .object [("timestamp", .number (.whole 5 (by decide)))], by decide⟩
    let frame := "\x7b\"name\":\"subscribe\",\"data\":\x7b\"service\":\"CLOCK\"\x7d\x7d"
    let pushed := "\x7b\"name\":\"clock\",\"data\":\x7b\"timestamp\":5\x7d\x7d"
    let r := (Router.start {}).after [.accept]
    ∃ (c : Client ScriptedConnector ScriptedTransport) (s : Service ClientAction),
      start "ws://relay" ["CLOCK"] {} = .ok c ∧ c.Knows s ∧
      s.subscribePacket.encode = .ok frame ∧ r.directory.nameOf? 0 = some p.name ∧
      r.directory.isSubscribed 0 1 = false ∧
      (r.act (.receive 1 frame)).directory.isSubscribed 0 1 = true ∧
      (r.act (.receive 1 frame)).added (.push 0 p) 0 = [pushed] ∧
      (c.connection.handleEvent ⟨0, .message pushed⟩).1 = .error (.handlerNotFound "clock") := by
  intro p frame pushed r
  refine ⟨_, _, rfl, .inl List.mem_cons_self, ?_⟩
  decide +kernel

end Client

end PushRelay
