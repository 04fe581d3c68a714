import PushRelay.Proofs.Client.Unsubscribing
import PushRelay.Proofs.Connection.Adequacy

/-!
# PushRelay.Proofs.Client.Reporting

What a client reports of a packet that its user asks for.

A command that asks for a packet can fail in many places: the service may
be refused or unknown, the packet may be unknown or too large, and the
transport may be missing, not open, or not take the frame.  Whatever
happens, either the frame of that packet is accepted by the current
transport and nothing is said, or no frame is accepted and one message says
so (`command_outcome`).
-/

namespace PushRelay

/-- The name and the data of the packet that a command asks for. -/
def Command.packet? : Command → Option (String × Json)
  | .subscribe service => some (subscribeName, servicePayload service)
  | .unsubscribe service => some (unsubscribeName, servicePayload service)
  | .send name data => some (name, data)
  | _ => none

/-- The line that an entry writes for the user. -/
def Entry.line? : Entry → Option Line
  | .printed line => some line
  | _ => none

/-- The lines that entries write for the user, in order. -/
def linesOf (entries : List Entry) : List Line := entries.filterMap Entry.line?

namespace Client

variable {γ τ : Type} [Transport τ] {c : Client γ τ} {command : Command}
variable {name : String} {data : Json}

/-- What entries tell of a packet that was asked for: its frame was
accepted by the current transport and by no other, and nothing was said. -/
structure Delivered (c : Client γ τ) (name : String) (data : Json) (entries : List Entry) :
    Prop where
  frames : ∃ t frame, ∃ p : Packet Json, p.name = name ∧ p.data = data ∧ c.Accepts p t frame ∧
    ∀ u, framesOn entries u = if u = t then [frame] else []
  lines : linesOf entries = []

/-- Or no transport accepted a frame, and one message was written. -/
structure Reported (entries : List Entry) : Prop where
  frames : ∀ u, framesOn entries u = []
  lines : ∃ message, linesOf entries = [.text ("* " ++ message)]

/-- What is reported is not delivered. -/
theorem Delivered.not_reported {entries : List Entry} (h : c.Delivered name data entries) :
    ¬ Reported entries := by
  intro hreported
  obtain ⟨message, hlines⟩ := hreported.lines
  rw [h.lines] at hlines
  contradiction

/-- A message is a report. -/
theorem reported_message (message : String) : Reported [.printed (.text ("* " ++ message))] :=
  ⟨fun _ => rfl, message, rfl⟩

/-- What is said of a packet that is not sent is such a message. -/
theorem refusal_eq (action name : String) :
    refusal action name = .printed
      (.text ("* " ++ (action ++ " " ++ name ++ " not sent, connection is not open"))) := by
  simp only [refusal, String.append_assoc]

/-- A packet is delivered, or it is reported that it is not. -/
theorem outcome_sendOrReport {p : Packet Json} (hname : p.name = name) (hdata : p.data = data)
    (action subject : String) :
    ∃ entries, (c.sendOrReport p action subject).connection.journal =
        c.connection.journal ++ entries ∧ (c.Delivered name data entries ∨ Reported entries) := by
  obtain ⟨t, frame, haccepts, hjournal⟩ | ⟨t, frame, hjournal⟩ | hjournal :=
    journal_sendOrReport c p action subject
  · refine ⟨_, hjournal, .inl ⟨⟨t, frame, p, hname, hdata, haccepts, fun u => ?_⟩, rfl⟩⟩
    by_cases hu : u = t
    · simp [framesOn, Entry.frame?, hu]
    · simp [framesOn, Entry.frame?, hu, Ne.symm hu]
  · rw [refusal_eq] at hjournal
    exact ⟨_, hjournal, .inr ⟨fun _ => rfl, _, rfl⟩⟩
  · rw [refusal_eq] at hjournal
    exact ⟨_, hjournal, .inr (reported_message _)⟩

/-- A further service is no matter for a transport. -/
theorem Delivered.of_withService {s : Service ClientAction} {d : Dispatcher ClientAction}
    {entries : List Entry} (h : (c.withService s d).Delivered name data entries) :
    c.Delivered name data entries := by
  obtain ⟨t, frame, p, hname, hdata, haccepts, hframes⟩ := h.frames
  have haccepts : c.Accepts p t frame := ⟨haccepts.current, haccepts.encode, haccepts.accepted⟩
  exact ⟨⟨t, frame, p, hname, hdata, haccepts, hframes⟩, h.lines⟩

variable [Connector γ τ]

/-- A command that asks for a packet is reported on, and the session goes
on. -/
theorem outcome_execute (hc : c.Sound) (hrecorded : c.Recorded)
    (hcommand : command.packet? = some (name, data)) :
    (c.execute command).1 = true ∧ ∃ entries,
      (c.execute command).2.connection.journal = c.connection.journal ++ entries ∧
        (c.Delivered name data entries ∨ Reported entries) := by
  cases command with
  | subscribe service =>
    cases hcommand
    obtain ⟨s, hfind, hensure⟩ | ⟨e, -, hensure⟩ | ⟨s, d, -, hs, rfl, -, hensure⟩ :=
      ensureService_cases hc service
    · obtain ⟨hname, hmade⟩ := hrecorded service s hfind
      have hdata : s.subscribePacket.data = servicePayload service := by
        rw [← hname]
        rfl
      simp only [execute, hensure, true_and]
      exact outcome_sendOrReport (hmade.names.2 .subscribe) hdata "subscribe" service
    · simp only [execute, hensure, true_and]
      exact ⟨_, rfl, .inr (reported_message e.message)⟩
    · have hmade : s.Made := ⟨_, _, hc.dispatcher.protocol, hs⟩
      obtain ⟨entries, hjournal, houtcome⟩ := outcome_sendOrReport (c := c.withService s d)
        (hmade.names.2 .subscribe) (Service.data_packet s .subscribe) "subscribe" s.name
      simp only [execute, hensure, true_and]
      exact ⟨entries, hjournal, houtcome.imp_left Delivered.of_withService⟩
  | unsubscribe service =>
    cases hcommand
    cases hfind : c.services.find? service with
    | none =>
      have hmessage :
          "* not subscribed to " ++ service = "* " ++ ("not subscribed to " ++ service) := by
        rw [← String.append_assoc]
        rfl
      simp only [execute, hfind, hmessage, true_and]
      exact ⟨_, rfl, .inr (reported_message _)⟩
    | some s =>
      obtain ⟨hname, hmade⟩ := hrecorded service s hfind
      have hdata : s.unsubscribePacket.data = servicePayload service := by
        rw [← hname]
        rfl
      simp only [execute, hfind, true_and]
      exact outcome_sendOrReport (hmade.names.2 .unsubscribe) hdata "unsubscribe" service
  | send name data =>
    cases hcommand
    cases hpacket : c.protocol.packet name data with
    | error e =>
      simp only [execute, hpacket, true_and]
      exact ⟨_, rfl, .inr (reported_message e.message)⟩
    | ok p =>
      obtain ⟨hname, hdata⟩ := hc.dispatcher.protocol.of_packet hpacket
      simp only [execute, hpacket, true_and]
      exact outcome_sendOrReport hname hdata "send" name
  | _ => contradiction

/-- What becomes of a command that asks for a packet, in every run of a
client.  The session goes on, the journal is only added to, and what is
added tells either that the frame of that packet was accepted by the current
transport, and nothing else, or that no frame was accepted, and one message
for the user. -/
theorem command_outcome {url : String} {names : List String} {connector : γ} {c₀ : Client γ τ}
    (hclient : start url names connector = .ok c₀) (acts : List (Action γ τ))
    (hcommand : command.packet? = some (name, data)) :
    ((c₀.after acts).execute command).1 = true ∧
    ((c₀.after acts).execute command).2.connection.journal =
      (c₀.after acts).connection.journal ++ (c₀.after acts).written command ∧
    ((c₀.after acts).Delivered name data ((c₀.after acts).written command) ∨
      Reported ((c₀.after acts).written command)) ∧
    ¬ ((c₀.after acts).Delivered name data ((c₀.after acts).written command) ∧
      Reported ((c₀.after acts).written command)) := by
  have hc := (grows_after (sound_start hclient) acts).sound (sound_start hclient)
  have hrecorded := recorded_after (sound_start hclient) (recorded_start hclient) acts
  obtain ⟨hgoes, entries, hjournal, houtcome⟩ := outcome_execute hc hrecorded hcommand
  rw [written_eq hjournal]
  exact ⟨hgoes, hjournal, houtcome, fun hboth => hboth.1.not_reported hboth.2⟩

/-- The user asks for the clock when the socket is open, and the frame is
accepted; before there is a transport the same command is reported on. -/
theorem command_outcome_clock :
    let frame := "\x7b\"name\":\"subscribe\",\"data\":\x7b\"service\":\"clock\"\x7d\x7d"
    let acts : List (Action SocketConfig Socket) :=
      [.execute .connect, .move 0 fun s => s.tryOpen.2]
    let closed := refusal "subscribe" "clock"
    ∃ c : Client SocketConfig Socket, start "ws://relay" [] {} = .ok c ∧
      (c.after acts).written (.subscribe "clock") = [.sent 0 frame true] ∧
      (c.after acts).Delivered subscribeName (servicePayload "clock") [.sent 0 frame true] ∧
      (c.after []).written (.subscribe "clock") = [closed] ∧ Reported [closed] := by
  intro frame acts closed
  obtain ⟨c, hclient, hsent, hclosed⟩ : ∃ c : Client SocketConfig Socket,
      start "ws://relay" [] {} = .ok c ∧
      (c.after acts).written (.subscribe "clock") = [.sent 0 frame true] ∧
      (c.after []).written (.subscribe "clock") = [closed] := by
    refine ⟨_, rfl, ?_⟩
    decide +kernel
  have hasked : (Command.subscribe "clock").packet? =
      some (subscribeName, servicePayload "clock") := rfl
  obtain ⟨-, -, hopened, -⟩ := command_outcome hclient acts hasked
  obtain ⟨-, -, hunopened, -⟩ := command_outcome hclient [] hasked
  rw [hsent] at hopened
  rw [hclosed] at hunopened
  refine ⟨c, hclient, hsent, hopened.resolve_right ?_, hclosed, hunopened.resolve_left ?_⟩
  · intro hreported
    exact List.cons_ne_nil _ _ (hreported.frames 0)
  · intro hdelivered
    exact List.cons_ne_nil _ _ hdelivered.lines

/-! ## The journal of a client -/

/-- The journal tells the truth of a client as well: over transports that
are watched, their logs hold what it says, in every run. -/
theorem logged_after {url : String} {names : List String} {k : Watching γ}
    {c₀ : Client (Watching γ) (Watched τ TransportCall)} (hclient : start url names k = .ok c₀)
    {acts : List (Action (Watching γ) (Watched τ TransportCall))}
    (hmove : ∀ t f, .move t f ∈ acts → ∀ x, (f x).log = x.log) :
    (c₀.after acts).connection.Logged := by
  have hstart : c₀.connection.Logged := by
    obtain ⟨services, d, -, rfl⟩ := start_eq_ok hclient
    exact Connection.logged_of_new rfl rfl
  clear hclient
  induction acts generalizing c₀ with
  | nil => exact hstart
  | cons a acts ih =>
    have hact : (c₀.act a).connection.Logged := by
      by_cases ha : ∃ t f, a = .move t f
      · obtain ⟨t, f, rfl⟩ := ha
        exact hstart.move t (hmove t f List.mem_cons_self)
      · have hsteps := steps_act c₀ fun t f h => ha ⟨t, f, h⟩
        exact Connection.steps_invariant (fun _ _ => Connection.logged_step) hsteps hstart
    exact ih (fun t f h => hmove t f (List.mem_cons_of_mem _ h)) hact

end Client

end PushRelay
