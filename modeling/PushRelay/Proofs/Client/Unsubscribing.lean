import PushRelay.Proofs.Client.Sending
import PushRelay.Proofs.Router.Control

/-!
# PushRelay.Proofs.Client.Unsubscribing

Which subscriptions of a client its user can end.

1. A client enters a service in its table when its user subscribes to it by
   a command that is not refused, and never takes one out
   (`isSome_services_after`).
2. The command to unsubscribe looks there alone.  So it ends the
   subscriptions that commands made, and of one that the client was started
   with it says that there is none (`unsubscribe_outcome`).
-/

namespace PushRelay

namespace Client

variable {γ τ : Type} {c : Client γ τ} {name : String}

/-! ## The table of services -/

/-- A service that was subscribed to is in the table, and all others are
there as before. -/
theorem services_of_ensureService_ok {s : Service ClientAction}
    (h : (c.ensureService name).1 = .ok s) :
    (c.services.find? name = some s ∨ clientService name c.protocol = .ok s) ∧
      ∀ n, (c.ensureService name).2.services.find? n =
        if n = name then some s else c.services.find? n := by
  obtain ⟨s', hfound, hensure⟩ | ⟨-, e, -, hensure⟩ | ⟨-, s', d, e, -, -, hensure⟩ |
      ⟨-, s', d, hs, -, hensure⟩ := ensureService_forms c name
  · rw [hensure] at h ⊢
    cases h
    refine ⟨.inl hfound, fun n => ?_⟩
    split
    · next hn => rw [hn, hfound]
    · rfl
  · rw [hensure] at h
    contradiction
  · rw [hensure] at h
    contradiction
  · rw [hensure] at h ⊢
    cases h
    exact ⟨.inr hs, fun n => Table.find?_insert c.services name n s⟩

/-- A service that is refused leaves the table as it was. -/
theorem services_of_ensureService_error {e : RelayError}
    (h : (c.ensureService name).1 = .error e) :
    (c.ensureService name).2.services = c.services := by
  obtain ⟨s, -, hensure⟩ | ⟨-, e', -, hensure⟩ | ⟨-, s, d, e', -, -, hensure⟩ |
      ⟨-, s, d, -, -, hensure⟩ := ensureService_forms c name
  · rw [hensure]
  · rw [hensure]
  · rw [hensure]
  · rw [hensure] at h
    contradiction

/-- A new client has subscribed to nothing by a command. -/
theorem services_start {url : String} {names : List String} {connector : γ}
    (h : start url names connector = .ok c) : c.services = ∅ := by
  obtain ⟨services, d, -, rfl⟩ := start_eq_ok h
  rfl

variable [Transport τ] [Connector γ τ]

/-- In a run from `c`, the user subscribed to the name by a command that was
not refused. -/
def Subscribed (c : Client γ τ) (acts : List (Action γ τ)) (name : String) : Prop :=
  ∃ before later s, acts = before ++ .execute (.subscribe name) :: later ∧
    ((c.after before).ensureService name).1 = .ok s

/-- A command of a run is its first one, or one of the rest. -/
theorem subscribed_cons {a : Action γ τ} {acts : List (Action γ τ)} :
    c.Subscribed (a :: acts) name ↔
      (∃ s, a = .execute (.subscribe name) ∧ (c.ensureService name).1 = .ok s) ∨
        (c.act a).Subscribed acts name := by
  constructor
  · intro h
    obtain ⟨before, later, s, hacts, hs⟩ := h
    cases before with
    | nil =>
      obtain ⟨ha, -⟩ := List.cons.inj hacts
      exact .inl ⟨s, ha, hs⟩
    | cons b before =>
      obtain ⟨rfl, rfl⟩ := List.cons.inj hacts
      exact .inr ⟨before, later, s, rfl, hs⟩
  · rintro (⟨s, rfl, hs⟩ | ⟨before, later, s, rfl, hs⟩)
    · exact ⟨[], acts, s, rfl, hs⟩
    · exact ⟨a :: before, later, s, rfl, hs⟩

/-- A command that subscribes to a service and is not refused enters it, and
no other action changes the entry of a name. -/
theorem find?_services_act (c : Client γ τ) (a : Action γ τ) (name : String) :
    (∃ s, a = .execute (.subscribe name) ∧ (c.ensureService name).1 = .ok s ∧
      (c.act a).services.find? name = some s) ∨
    ((¬ ∃ s, a = .execute (.subscribe name) ∧ (c.ensureService name).1 = .ok s) ∧
      (c.act a).services.find? name = c.services.find? name) := by
  cases a with
  | execute command =>
    by_cases hsubscribe : ∃ n, command = .subscribe n
    · obtain ⟨n, rfl⟩ := hsubscribe
      have hservices := (steady_subscribe c n).services
      cases hensure : (c.ensureService n).1 with
      | error e =>
        refine .inr ⟨?_, ?_⟩
        · rintro ⟨s, hn, hs⟩
          cases hn
          rw [hensure] at hs
          contradiction
        · rw [act, hservices, services_of_ensureService_error hensure]
      | ok s =>
        obtain ⟨-, hfind⟩ := services_of_ensureService_ok hensure
        by_cases hname : name = n
        · subst hname
          exact .inl ⟨s, rfl, hensure, by rw [act, hservices, hfind, if_pos rfl]⟩
        · refine .inr ⟨?_, by rw [act, hservices, hfind, if_neg hname]⟩
          rintro ⟨s, hn, -⟩
          cases hn
          exact hname rfl
    · refine .inr ⟨?_, ?_⟩
      · rintro ⟨s, hn, -⟩
        cases hn
        exact hsubscribe ⟨name, rfl⟩
      · rw [act, (steady_execute (not_exists.mp hsubscribe)).services]
  | _ =>
    refine .inr ⟨?_, rfl⟩
    rintro ⟨s, hn, -⟩
    contradiction

/-- The table has the services that its user subscribed to. -/
theorem isSome_services_after (c : Client γ τ) (acts : List (Action γ τ)) (name : String) :
    ((c.after acts).services.find? name).isSome ↔
      (c.services.find? name).isSome ∨ c.Subscribed acts name := by
  induction acts generalizing c with
  | nil =>
    have hnone : ¬ c.Subscribed [] name := by
      rintro ⟨before, later, s, hacts, -⟩
      simp at hacts
    simp only [after, List.foldl_nil, hnone, or_false]
  | cons a acts ih =>
    have hcons : c.after (a :: acts) = (c.act a).after acts := rfl
    rw [hcons, ih, subscribed_cons, ← or_assoc]
    obtain ⟨s, ha, hs, hfind⟩ | ⟨hnone, hfind⟩ := find?_services_act c a name
    · have hentered : ∃ s, a = .execute (.subscribe name) ∧ (c.ensureService name).1 = .ok s :=
        ⟨s, ha, hs⟩
      simp only [hfind, Option.isSome_some, hentered, or_true, true_or]
    · simp only [hfind, hnone, or_false]

/-! ## What is entered under a name -/

/-- Every service in the table has the name that it is entered under, and
was made with the control packets. -/
def Recorded (c : Client γ τ) : Prop :=
  ∀ name s, c.services.find? name = some s → s.name = name ∧ s.Made

/-- In every run a service stands under its own name in the table. -/
theorem recorded_after (hc : c.Sound) (hrecorded : c.Recorded) (acts : List (Action γ τ)) :
    (c.after acts).Recorded := by
  induction acts generalizing c with
  | nil => exact hrecorded
  | cons a acts ih =>
    refine ih ((grows_act hc a).sound hc) fun name s hs => ?_
    obtain ⟨s', -, hensure, hfind⟩ | ⟨-, hfind⟩ := find?_services_act c a name
    · rw [hfind] at hs
      cases hs
      cases (services_of_ensureService_ok hensure).1 with
      | inl hfound => exact hrecorded name s hfound
      | inr hmade =>
        obtain ⟨rfl, -⟩ := clientService_eq_ok hc.dispatcher.protocol hmade
        exact ⟨rfl, _, _, hc.dispatcher.protocol, hmade⟩
    · exact hrecorded name s (hfind ▸ hs)

omit [Transport τ] [Connector γ τ] in
/-- So it does at the start, when the table is empty. -/
theorem recorded_start {url : String} {names : List String} {connector : γ}
    (h : start url names connector = .ok c) : c.Recorded := by
  intro name s hs
  rw [services_start h] at hs
  contradiction

/-! ## Unsubscribing -/

/-- What the user is told of a service that is not in the table. -/
def notSubscribed (name : String) : Entry := .printed (.text ("* not subscribed to " ++ name))

/-- The two ways in which a command to unsubscribe can fail say different
things. -/
theorem refusal_ne_notSubscribed (name other : String) :
    refusal "unsubscribe" name ≠ notSubscribed other := by
  intro h
  simp only [refusal, notSubscribed, Entry.printed.injEq, Line.text.injEq] at h
  have hchars := congrArg String.toList h
  simp at hchars

/-- What becomes of the command to unsubscribe.  After a command subscribed
to the name and was not refused, it never says that the client is not
subscribed to it; and if the current transport is open, and accepts the
frame of the control packet, it hands it over and does nothing else.  Of all
other names it says that the client is not subscribed to them, also of those
that the client was started with. -/
theorem unsubscribe_outcome {url : String} {names : List String} {connector : γ} {c₀ : Client γ τ}
    (hclient : start url names connector = .ok c₀) (acts : List (Action γ τ)) (name : String) :
    (c₀.Subscribed acts name → ∃ p : Packet Json, p.name = unsubscribeName ∧
      p.data = servicePayload name ∧
      notSubscribed name ∉ (c₀.after acts).written (.unsubscribe name) ∧
      ∀ t x frame, (c₀.after acts).connection.own = some t →
        (c₀.after acts).connection.transports[t]? = some x → Transport.state x = .opened →
        p.encode = .ok frame → (Transport.send frame x).1 = .ok () →
        (c₀.after acts).written (.unsubscribe name) = [.sent t frame true]) ∧
    (¬ c₀.Subscribed acts name →
      (c₀.after acts).written (.unsubscribe name) = [notSubscribed name]) := by
  have hempty : ∀ n, c₀.services.find? n = none := fun n => by rw [services_start hclient]; rfl
  have hc := sound_start hclient
  have hrecorded := recorded_after hc (recorded_start hclient) acts
  have hsome := isSome_services_after c₀ acts name
  simp only [hempty, Option.isSome_none, Bool.false_eq_true, false_or] at hsome
  constructor
  · intro hsubscribed
    obtain ⟨s, hs⟩ := Option.isSome_iff_exists.mp (hsome.mpr hsubscribed)
    obtain ⟨hname, hmade⟩ := hrecorded name s hs
    have hexecute : ((c₀.after acts).execute (.unsubscribe name)).2 =
        (c₀.after acts).sendOrReport s.unsubscribePacket "unsubscribe" name := by
      simp only [execute, hs]
    refine ⟨s.unsubscribePacket, hmade.names.2 .unsubscribe, ?_, ?_, ?_⟩
    · rw [← hname]
      rfl
    · have hne := (refusal_ne_notSubscribed name name).symm
      obtain ⟨t, frame, -, hjournal⟩ | ⟨t, frame, hjournal⟩ | hjournal :=
        journal_sendOrReport (c₀.after acts) s.unsubscribePacket "unsubscribe" name
      · rw [written_eq (hexecute ▸ hjournal), List.mem_singleton]
        exact Entry.noConfusion
      · rw [written_eq (hexecute ▸ hjournal), List.mem_cons, List.mem_singleton]
        exact not_or.mpr ⟨Entry.noConfusion, hne⟩
      · rw [written_eq (hexecute ▸ hjournal), List.mem_singleton]
        exact hne
    · intro t x frame hown hx hopened hframe hsent
      refine written_eq ?_
      rw [hexecute]
      exact journal_sendOrReport_of_accepted ⟨hown, hframe, x, hx, hopened, hsent⟩ "unsubscribe"
        name
  · intro hsubscribed
    have hnone : (c₀.after acts).services.find? name = none := by
      rw [← Option.not_isSome_iff_eq_none, hsome]
      exact hsubscribed
    refine written_eq ?_
    simp only [execute, hnone]
    rfl

/-- The user subscribes to the clock, and can unsubscribe from it; the news,
with which the client was started, are not subscribed to by a command. -/
theorem unsubscribe_outcome_clock :
    let frame := "\x7b\"name\":\"unsubscribe\",\"data\":\x7b\"service\":\"clock\"\x7d\x7d"
    let acts : List (Action SocketConfig Socket) :=
      [.execute .connect, .move 0 fun s => s.tryOpen.2, .execute (.subscribe "clock")]
    ∃ c : Client SocketConfig Socket, start "ws://relay" ["news"] {} = .ok c ∧
      c.Subscribed acts "clock" ∧ ¬ c.Subscribed acts "news" ∧
      (c.after acts).written (.unsubscribe "clock") = [.sent 0 frame true] ∧
      (c.after acts).written (.unsubscribe "news") = [notSubscribed "news"] := by
  intro frame acts
  obtain ⟨c, hclient, hsubscribed, hown, x, hx, hopened, hsent⟩ :
      ∃ c : Client SocketConfig Socket, start "ws://relay" ["news"] {} = .ok c ∧
        c.Subscribed acts "clock" ∧ (c.after acts).connection.own = some 0 ∧
        ∃ x, (c.after acts).connection.transports[0]? = some x ∧
          Transport.state x = .opened ∧ (Transport.send frame x).1 = .ok () :=
    ⟨_, rfl, ⟨acts.take 2, [], _, rfl, rfl⟩, rfl, _, rfl, rfl, rfl⟩
  have hother : ¬ c.Subscribed acts "news" := by
    rintro ⟨before, later, s, hacts, -⟩
    have hmem : .execute (.subscribe "news") ∈ acts := hacts ▸ by simp
    simp [acts] at hmem
  obtain ⟨p, hname, hdata, -, hwritten⟩ := (unsubscribe_outcome hclient acts "clock").1 hsubscribed
  have hframe : p.encode = .ok frame := by
    have hp : p = ⟨unsubscribeName, servicePayload "clock", by decide⟩ := by
      cases p
      cases hname
      cases hdata
      rfl
    rw [hp]
    decide +kernel
  exact ⟨c, hclient, hsubscribed, hother, hwritten 0 x frame hown hx hopened hframe hsent,
    (unsubscribe_outcome hclient acts "news").2 hother⟩

/-- A client that was started with a service subscribes to it as its
connection opens.  When its user unsubscribes, it says that it is not
subscribed. -/
theorem unsubscribe_refused :
    let subscribed := "\x7b\"name\":\"subscribe\",\"data\":\x7b\"service\":\"clock\"\x7d\x7d"
    let acts : List (Action SocketConfig Socket) :=
      [.execute .connect, .move 0 fun s => s.tryOpen.2, .handleEvent ⟨0, .opened⟩]
    ∃ c : Client SocketConfig Socket, start "ws://relay" ["clock"] {} = .ok c ∧
      (c.after acts).connection.state = .opened ∧
      .sent 0 subscribed true ∈ (c.after acts).connection.journal ∧
      (c.after acts).written (.unsubscribe "clock") = [notSubscribed "clock"] := by
  intro subscribed acts
  refine ⟨_, rfl, ?_⟩
  decide +kernel

end Client

end PushRelay
