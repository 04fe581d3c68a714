import PushRelay.Client.Listener
import PushRelay.Proofs.Connection.Announcements
import PushRelay.Proofs.Connection.Delivery
import PushRelay.Proofs.Connection.Ledger
import PushRelay.Transport.Socket

/-!
# PushRelay.Proofs.Client.Starting

What a client does for the services it was started with when its connection
opens.

1. A packet that is sent on a transport is accepted, or it is not; then the
   frame may have been handed over in vain (`sendOn_packet_cases`).
2. The services are subscribed to up to the first one whose packet is not
   accepted (`calls_subscribeAll`, by induction on the services).
3. If there is such a service, the transport is asked to close, and nothing
   is sent on it any more; no other transport is touched (`startUp_after`).
-/

namespace PushRelay

/-! ## What a transport accepts -/

namespace Transport

variable {τ : Type} [Transport τ] {x y : τ} {ps : List (Packet Json)} {frames : List String}

/-- Transport `x` is open and accepts the frame of a packet, which makes it
`y`. -/
structure Accepts (x : τ) (p : Packet Json) (frame : String) (y : τ) : Prop where
  opened : Transport.state x = .opened
  encode : p.encode = .ok frame
  send : Transport.send frame x = (.ok (), y)

/-- Transport `x` does not accept a packet: it is not open, or the packet
has no frame, or the frame is refused. -/
def Refuses (x : τ) (p : Packet Json) : Prop := ∀ frame y, ¬ Accepts x p frame y

/-- Packets are accepted one after the other. -/
inductive AcceptsAll : τ → List (Packet Json) → List String → τ → Prop
  | nil (x : τ) : AcceptsAll x [] [] x
  | cons {x y z : τ} {p : Packet Json} {ps : List (Packet Json)} {frame : String}
      {frames : List String} (first : Accepts x p frame y) (rest : AcceptsAll y ps frames z) :
      AcceptsAll x (p :: ps) (frame :: frames) z

/-- Frames that were accepted are those of the packets. -/
theorem AcceptsAll.encode (h : AcceptsAll x ps frames y) :
    ps.map Packet.encode = frames.map .ok := by
  induction h with
  | nil => rfl
  | cons first _ ih => rw [List.map_cons, List.map_cons, first.encode, ih]

end Transport

/-! ## Calls of a transport -/

/-- A frame was handed to transport `t`, or it was asked to close. -/
def Entry.isCall (t : Nat) : Entry → Bool
  | .sent u _ _ | .closed u => u = t
  | _ => false

/-- The calls of transport `t`, in order. -/
def callsOf (journal : List Entry) (t : Nat) : List Entry := journal.filter (Entry.isCall t)

/-- The calls of an attempt to send a packet on transport `t` that came to
nothing: its frame may have been handed over in vain. -/
def VainCalls (t : Nat) (p : Packet Json) (calls : List Entry) : Prop :=
  calls = [] ∨ ∃ frame, p.encode = .ok frame ∧ calls = [.sent t frame false]

namespace Connection

section Calls

variable {γ τ η ℓ : Type} {c d e : Connection γ τ η ℓ} {t : Nat} {calls more : List Entry}

/-- From `c` to `d` the calls were made of transport `t`, and none of any
other transport, which are as they were. -/
structure Calls (t : Nat) (calls : List Entry) (c d : Connection γ τ η ℓ) : Prop where
  journal : ∀ u, callsOf d.journal u = callsOf c.journal u ++ if u = t then calls else []
  others : ∀ u, u ≠ t → d.transports[u]? = c.transports[u]?

theorem Calls.refl (t : Nat) (c : Connection γ τ η ℓ) : Calls t [] c c where
  journal u := by rw [ite_self, List.append_nil]
  others _ _ := rfl

/-- The calls of one part of a run come before those of the next. -/
theorem Calls.trans (hcd : Calls t calls c d) (hde : Calls t more d e) :
    Calls t (calls ++ more) c e where
  journal u := by
    rw [hde.journal, hcd.journal]
    split
    · rw [List.append_assoc]
    · rw [List.append_nil, List.append_nil]
  others u hu := (hde.others u hu).trans (hcd.others u hu)

/-- What is neither in the journal nor in a transport does not matter. -/
theorem Calls.congr (h : Calls t calls c d) (hjournal : e.journal = d.journal)
    (htransports : e.transports = d.transports) : Calls t calls c e where
  journal u := by rw [hjournal, h.journal]
  others u hu := by rw [htransports, h.others u hu]

/-- An entry that is not of a call. -/
theorem calls_note (c : Connection γ τ η ℓ) (t : Nat) {x : Entry} (hx : ∀ u, x.isCall u = false) :
    Calls t [] c (c.note x) where
  journal u := by
    rw [note, callsOf, List.filter_append, List.filter_cons_of_neg (by simp [hx]), ite_self]
    rfl
  others u _ := rfl

/-- An entry that is of a call, with what it did to the transport. -/
theorem Calls.of_call {x : Entry} (hx : ∀ u, x.isCall u = decide (t = u))
    (hjournal : d.journal = c.journal ++ [x])
    (hothers : ∀ u, u ≠ t → d.transports[u]? = c.transports[u]?) : Calls t [x] c d where
  journal u := by
    rw [hjournal, callsOf, List.filter_append]
    by_cases hu : u = t
    · subst hu
      rw [if_pos rfl, List.filter_cons_of_pos (by simp [hx])]
      rfl
    · rw [if_neg hu, List.filter_cons_of_neg (by simp [hx, Ne.symm hu])]
      rfl
  others := hothers

variable [Transport τ]

/-- A request to close is one call. -/
theorem calls_closeTransport (c : Connection γ τ η ℓ) (t : Nat) :
    Calls t [.closed t] c (c.closeTransport t) :=
  .of_call (fun _ => rfl) rfl fun _ hu => List.getElem?_modify_ne _ _ (Ne.symm hu)

/-- The calls of a listener that is told something are those of its
reaction. -/
theorem Calls.tell [Listener ℓ] {on : Option Nat} {news : News}
    (h : Calls t calls (c.note (.told t news c.standing))
      ((c.note (.told t news c.standing)).carryOut on (Listener.notify news c.listener)).2) :
    Calls t calls c (c.tell t on news).2 := by
  have htold := (calls_note c t fun _ => rfl).trans h
  simp only [Connection.tell]
  split
  · exact htold.congr rfl rfl
  · have hunheard := htold.trans (calls_note _ t (x := .unheard t news) fun _ => rfl)
    rw [List.append_nil] at hunheard
    exact hunheard.congr rfl rfl

variable {x : τ}

/-- A packet is accepted, or else its frame is handed over in vain at most. -/
theorem sendOn_packet_cases (hx : c.transports[t]? = some x) (p : Packet Json) :
    (∃ frame y, Transport.Accepts x p frame y ∧ (c.sendOn (some t) (.packet p)).1 = true ∧
      Calls t [.sent t frame true] c (c.sendOn (some t) (.packet p)).2 ∧
      (c.sendOn (some t) (.packet p)).2.transports[t]? = some y) ∨
    (Transport.Refuses x p ∧ (c.sendOn (some t) (.packet p)).1 = false ∧
      ∃ vain, VainCalls t p vain ∧ Calls t vain c (c.sendOn (some t) (.packet p)).2) := by
  cases sendOn_cases c (some t) (.packet p) with
  | inl hfits =>
    obtain ⟨u, x', frame, hu, hx', hopened, hframe⟩ := hfits
    cases hu
    have hsame : x' = x := Option.some.inj (hx'.symm.trans hx)
    subst hsame
    have hencode : p.encode = .ok frame := hframe
    have hothers (x : τ) : ∀ u, u ≠ t → (c.transports.set t x)[u]? = c.transports[u]? :=
      fun u hu => List.getElem?_set_ne (Ne.symm hu)
    rw [sendOn_of_frame hx hopened hframe]
    cases hsend : Transport.send frame x' with
    | mk result y =>
      cases result with
      | ok =>
        obtain ⟨hlt, -⟩ := List.getElem?_eq_some_iff.mp hx
        exact .inl ⟨frame, y, ⟨hopened, hencode, hsend⟩, rfl,
          .of_call (fun _ => rfl) rfl (hothers y), List.getElem?_set_self hlt⟩
      | error e =>
        refine .inr ⟨fun frame' y' haccepts => ?_, rfl, _, .inr ⟨frame, hencode, rfl⟩,
          .of_call (fun _ => rfl) rfl (hothers y)⟩
        cases hencode.symm.trans haccepts.encode
        cases hsend.symm.trans haccepts.send
  | inr hrefused =>
    refine .inr ⟨fun frame y haccepts => ?_, by rw [hrefused], [], .inl rfl, ?_⟩
    · have hframe : (Outbound.packet p).frame = .ok frame := haccepts.encode
      rw [sendOn_of_frame hx haccepts.opened hframe, haccepts.send] at hrefused
      cases (Prod.mk.inj hrefused).1
    · rw [hrefused]
      exact .refl t c

end Calls

/-! ## One service after the other -/

section Subscribing

variable {γ τ η ℓ : Type} [Transport τ] {c : Connection γ τ η ℓ} {t : Nat} {x : τ}
  {p : Packet Json} {ps : List (Packet Json)} {ok : Bool} {calls : List Entry}

/-- How it ends to send packets on transport `x`, the one with number `t`,
one after the other: all are accepted, or those before the first one that is
not. -/
inductive Outcome (t : Nat) (x : τ) : List (Packet Json) → Bool → List Entry → Prop
  | all {ps : List (Packet Json)} {frames : List String} {y : τ}
      (accepted : Transport.AcceptsAll x ps frames y) :
      Outcome t x ps true (frames.map (.sent t · true))
  | stopped {ps rest : List (Packet Json)} {p : Packet Json} {frames : List String} {y : τ}
      {vain : List Entry} (accepted : Transport.AcceptsAll x ps frames y)
      (refused : Transport.Refuses y p) (tried : VainCalls t p vain) :
      Outcome t x (ps ++ p :: rest) false (frames.map (.sent t · true) ++ vain)

/-- A packet that is accepted comes before what becomes of the others. -/
theorem Outcome.cons {y : τ} {frame : String} (first : Transport.Accepts x p frame y)
    (rest : Outcome t y ps ok calls) :
    Outcome t x (p :: ps) ok (.sent t frame true :: calls) := by
  cases rest with
  | all accepted => exact .all (.cons first accepted)
  | stopped accepted refused tried => exact .stopped (.cons first accepted) refused tried

/-- The packets that were accepted are the first ones, and the one that was
not is the next. -/
theorem Outcome.cut (h : Outcome t x ps ok calls) :
    ∃ j frames y vain, calls = frames.map (.sent t · true) ++ vain ∧
      Transport.AcceptsAll x (ps.take j) frames y ∧
      (ok = true ∧ j = ps.length ∧ vain = [] ∨
        ok = false ∧ ∃ p, ps[j]? = some p ∧ Transport.Refuses y p ∧ VainCalls t p vain) := by
  cases h with
  | @all _ frames y accepted =>
    refine ⟨ps.length, frames, y, [], (List.append_nil _).symm, ?_, .inl ⟨rfl, rfl, rfl⟩⟩
    rw [List.take_length]
    exact accepted
  | @stopped first rest p frames y vain accepted refused tried =>
    refine ⟨first.length, frames, y, vain, rfl, ?_, .inr ⟨rfl, p, ?_, refused, tried⟩⟩
    · rw [List.take_left]
      exact accepted
    · rw [List.getElem?_append_right (Nat.le_refl _), Nat.sub_self]
      rfl

/-- The services are subscribed to up to the first one that cannot be
sent. -/
theorem calls_subscribeAll (hx : c.transports[t]? = some x)
    (services : List (Service ClientAction)) :
    ∃ calls, Calls t calls c (c.carryOut (some t) (subscribeAll services)).2 ∧
      Outcome t x (services.map Service.subscribePacket)
        (c.carryOut (some t) (subscribeAll services)).1 calls := by
  induction services generalizing c x with
  | nil => exact ⟨[], .refl t c, .all (.nil x)⟩
  | cons s services ih =>
    rw [subscribeAll, carryOut]
    obtain ⟨frame, y, haccepts, hyes, hcalls, hy⟩ | ⟨hrefuses, hno, vain, hvain, hcalls⟩ :=
      sendOn_packet_cases hx s.subscribePacket
    · obtain ⟨more, hmore, houtcome⟩ := ih hy
      simp only [hyes, if_true]
      exact ⟨.sent t frame true :: more, hcalls.trans hmore, .cons haccepts houtcome⟩
    · simp only [hno, Bool.false_eq_true, if_false]
      exact ⟨vain, hcalls, .stopped (.nil x) hrefuses hvain⟩

end Subscribing

/-! ## The opening of a connection -/

section Opening

variable {γ τ η : Type} [Transport τ] {c : Connection γ τ η ClientListener} {t : Nat} {x : τ}

/-- The listener of a client copes with any state. -/
theorem tellState_of_current (hown : c.own = some t) :
    c.tellState t = (true, c.note (.told t (.state (c.stateOn (some t))) c.standing)) := by
  rw [tellState, if_pos hown]
  rfl

/-- The listener of a client that is told of an opening subscribes to its
services, until a packet is not accepted. -/
theorem calls_tell_opened (hx : c.transports[t]? = some x) :
    ∃ calls, Calls t calls c (c.tell t (some t) .opened).2 ∧
      Outcome t x (c.listener.services.map Service.subscribePacket)
        (c.tell t (some t) .opened).1 calls := by
  let greeted := (c.note (.told t .opened c.standing)).note (.printed (.text "* connected"))
  have hx' : greeted.transports[t]? = some x := hx
  obtain ⟨calls, hcalls, houtcome⟩ := calls_subscribeAll hx' c.listener.services
  have hgreeted : Calls t [] (c.note (.told t .opened c.standing)) greeted :=
    calls_note _ t fun _ => rfl
  have hreact : (c.note (.told t .opened c.standing)).carryOut (some t)
      (Listener.notify .opened c.listener) =
      (((greeted.carryOut (some t) (subscribeAll c.listener.services)).1, c.listener),
        (greeted.carryOut (some t) (subscribeAll c.listener.services)).2) :=
    carryOut_map greeted (some t) (subscribeAll c.listener.services) _
  refine ⟨calls, .tell ?_, ?_⟩
  · rw [hreact]
    exact hgreeted.trans hcalls
  · have hok : (c.tell t (some t) .opened).1 =
        (greeted.carryOut (some t) (subscribeAll c.listener.services)).1 :=
      congrArg (fun result => result.1.1) hreact
    rw [hok]
    exact houtcome

/-- The transport is asked to close after the calls of the listener, unless
all its services were subscribed to. -/
theorem calls_handleOpened (hown : c.own = some t) (hx : c.transports[t]? = some x) :
    ∃ ok calls, Outcome t x (c.listener.services.map Service.subscribePacket) ok calls ∧
      Calls t (calls ++ if ok then [] else [.closed t]) c (c.handleOpened t) := by
  let told := c.note (.told t (.state (c.stateOn (some t))) c.standing)
  have hx' : told.transports[t]? = some x := hx
  have hthen : c.tellThen t (some t) .opened = told.tell t (some t) .opened := by
    rw [tellThen, tellState_of_current hown, if_pos rfl]
  obtain ⟨calls, hcalls, houtcome⟩ := calls_tell_opened hx'
  have htold : Calls t calls c (told.tell t (some t) .opened).2 :=
    (calls_note c t fun _ => rfl).trans hcalls
  refine ⟨_, calls, houtcome, ?_⟩
  rw [handleOpened_eq hown, hthen]
  split
  · rw [List.append_nil]
    exact htold
  · exact htold.trans (calls_closeTransport _ t)

variable [Connector γ τ] [MessageHandler η]

/-- In every run, the handling of an opening does not fail, and it makes
calls of the transport that opened and of no other one.  The frames that
are accepted are those of the first `j` services, one each and in order.  On
a superseded transport `j` is 0, and it is asked to close.  On the current
one either all services are subscribed to and the transport is left open,
or the next service could not be sent; then nothing is sent any more, and
the transport is asked to close once. -/
theorem startUp_after {url : String} {k : γ} {h : η} {l : ClientListener}
    {c₀ c : Connection γ τ η ClientListener} (hstart : ofUrl url k h l = .ok c₀)
    {acts : List (Action γ τ η ClientListener)} {a : Action γ τ η ClientListener}
    (hmem : (c, a) ∈ c₀.history acts) {t : Nat} {d : Connection γ τ η ClientListener}
    (hopening : c.handling? a = some (⟨t, .opened⟩, d)) :
    ∃ j frames ending, (c.act a).1 = .ok () ∧
      Calls t (frames.map (.sent t · true) ++ ending) c (c.act a).2 ∧
      ((c.listener.services.take j).map fun s => s.subscribePacket.encode) = frames.map .ok ∧
      (c.own ≠ some t → j = 0 ∧ ending = [.closed t]) ∧
      (c.own = some t → ∃ x y, c.transports[t]? = some x ∧
        Transport.AcceptsAll x ((c.listener.services.take j).map Service.subscribePacket) frames y ∧
        (j = c.listener.services.length ∧ ending = [] ∨
          ∃ s vain, c.listener.services[j]? = some s ∧ Transport.Refuses y s.subscribePacket ∧
            VainCalls t s.subscribePacket vain ∧ ending = vain ++ [.closed t])) := by
  obtain ⟨before, rest, -, rfl⟩ := exists_after_of_mem_history hmem
  have hnewest : (c₀.after before).Newest :=
    after_invariant (fun _ _ => newest_step) (fun _ t f _ hd => hd.move t f)
      (newest_of_ofUrl hstart)
  obtain ⟨queue, rfl⟩ := eq_of_handling hopening
  generalize c₀.after before = c at *
  have htaken : Calls t [] c { c with queue := queue } := (Calls.refl t c).congr rfl rfl
  have hact : c.act a = (.ok (), handleOpened { c with queue := queue } t) :=
    act_of_handling hopening
  rw [hact]
  by_cases hown : c.own = some t
  · obtain ⟨x, hx⟩ := hnewest.exists_transport hown
    obtain ⟨ok, calls, houtcome, hcalls⟩ :=
      calls_handleOpened (c := { c with queue := queue }) hown hx
    obtain ⟨j, frames, y, vain, rfl, haccepts, hend⟩ := houtcome.cut
    have hall := htaken.trans hcalls
    rw [List.append_assoc] at hall
    rw [← List.map_take] at haccepts
    have hframes : ((c.listener.services.take j).map fun s => s.subscribePacket.encode) =
        frames.map .ok := by
      rw [← haccepts.encode, List.map_map, Function.comp_def]
    refine ⟨j, frames, _, rfl, hall, hframes, fun hstale => absurd hown hstale, fun _ =>
      ⟨x, y, hx, haccepts, ?_⟩⟩
    obtain ⟨rfl, rfl, rfl⟩ | ⟨rfl, p, hp, hrefuses, hvain⟩ := hend
    · exact .inl ⟨List.length_map _, rfl⟩
    · rw [List.getElem?_map, Option.map_eq_some_iff] at hp
      obtain ⟨s, hs, rfl⟩ := hp
      exact .inr ⟨s, vain, hs, hrefuses, hvain, rfl⟩
  · have hlate : handleOpened { c with queue := queue } t =
        closeTransport { c with queue := queue } t := if_pos hown
    have hcalls : Calls t [.closed t] c (closeTransport { c with queue := queue } t) :=
      htaken.trans (calls_closeTransport _ t)
    rw [hlate]
    exact ⟨0, [], [.closed t], rfl, hcalls, rfl, fun _ => ⟨rfl, rfl⟩,
      fun hcurrent => absurd hcurrent hown⟩

end Opening

/-- The frame for the second service is longer than the transport accepts,
so the third one is not subscribed to either. -/
theorem startUp_after_too_long :
    let service (name : String) : Service ClientAction :=
      ⟨name, ⟨subscribeName, by decide⟩, ⟨unsubscribeName, by decide⟩, ∅⟩
    let services := [service "clock", service "weather-at-the-coast", service "news"]
    let c₀ : Connection SocketConfig Socket (Dispatcher ClientAction) ClientListener :=
      { url := "ws://relay", connector := { maxFrame := 60 }
        handler := ⟨.net, ∅⟩, listener := ⟨services⟩ }
    let c := c₀.after [.connect, .move 0 fun s => s.tryOpen.2]
    let opening : Event := ⟨0, .opened⟩
    let d := (c.act (.handleEvent opening)).2
    ofUrl c₀.url c₀.connector c₀.handler c₀.listener = .ok c₀ ∧
      (c, .handleEvent opening) ∈ c₀.history
        [.connect, .move 0 fun s => s.tryOpen.2, .handleEvent opening] ∧
      c.handling? (.handleEvent opening) = some (opening, c) ∧
      callsOf d.journal 0 =
        [.sent 0 (service "clock").subscribePacket.text true,
          .sent 0 (service "weather-at-the-coast").subscribePacket.text false, .closed 0] ∧
      (c.act (.handleEvent opening)).1 = .ok () ∧ ∀ u, u ≠ 0 → callsOf d.journal u = [] := by
  intro service services c₀ c opening d
  have hstart : ofUrl c₀.url c₀.connector c₀.handler c₀.listener = .ok c₀ := rfl
  have hmem : (c, .handleEvent opening) ∈ c₀.history
      [.connect, .move 0 fun s => s.tryOpen.2, .handleEvent opening] :=
    mem_history_append c₀ [.connect, .move 0 fun s => s.tryOpen.2] (.handleEvent opening) []
  have hopening : c.handling? (.handleEvent opening) = some (opening, c) := rfl
  have hjournal : c.journal =
      [.created 0, .told 0 (.state .connecting) ⟨some 0, [.connecting]⟩] := by decide +kernel
  obtain ⟨j, frames, ending, hok, hcalls, -⟩ := startUp_after hstart hmem hopening
  refine ⟨hstart, hmem, hopening, by decide +kernel, hok, fun u hu => ?_⟩
  rw [hcalls.journal, if_neg hu, List.append_nil, hjournal]
  rfl

end Connection

end PushRelay
