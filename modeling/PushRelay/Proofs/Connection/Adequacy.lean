import Mathlib.Data.List.ModifyLast
import Mathlib.Data.List.TakeWhile
import PushRelay.Proofs.Connection.Accounting
import PushRelay.Proofs.Connection.Watching

/-!
# PushRelay.Proofs.Connection.Adequacy

The journal of a connection says what was really done.

The journal is written by the connection itself.  The logs of what is
watched are not, and they agree with it.

1. The log of a transport holds the calls that the journal says were made of
   it since it was made (`callsSince`).  The frames among them that it
   accepted are those of `framesOn`, and if events come of transports that
   were made, the requests to close are as many as `.closed` stands in the
   journal.
2. The log of the listener gains what the journal says it was told
   (`heardIn`), with the state that it could see at that moment and whether
   it coped.

`Connection.journal_adequate` says so of the run of any connection, put next
to the same run over what is watched.
-/

namespace PushRelay

/-! ## What the journal says -/

/-- The call of transport `t` that an entry of a journal speaks of. -/
def Entry.call? (t : Nat) : Entry → Option TransportCall
  | .sent u frame accepted => if u = t then some (.send frame accepted) else none
  | .closed u => if u = t then some .close else none
  | _ => none

/-- A frame that was accepted was handed over in a call. -/
theorem Entry.frame?_eq_bind (t : Nat) (e : Entry) :
    e.frame? t = (e.call? t).bind TransportCall.frame? := by
  cases e with
  | sent u frame accepted =>
    cases accepted with
    | true =>
      simp only [Entry.frame?, Entry.call?]
      split <;> rfl
    | false =>
      simp only [Entry.frame?, Entry.call?]
      split <;> rfl
  | closed u =>
    simp only [Entry.call?]
    split <;> rfl
  | created | told | unheard | printed => rfl

/-- The calls of transport `t` since it was made, in order. -/
def callsSince (journal : List Entry) (t : Nat) : List TransportCall :=
  (journal.dropWhile (· ≠ .created t)).filterMap (Entry.call? t)

/-- The state of a connection that stands so. -/
def Standing.state (standing : Standing) : ReadyState :=
  (standing.current.bind (standing.states[·]?)).getD .closed

/-- What the listener has heard when an entry was made. -/
def Entry.hear (heard : List Heard) : Entry → List Heard
  | .told _ news standing => heard ++ [⟨news, standing.state, true⟩]
  | .unheard _ _ => heard.modifyLast fun h => { h with coped := false }
  | _ => heard

/-- What the listener has heard, in order. -/
def heardIn (journal : List Entry) : List Heard := journal.foldl Entry.hear []

/-- What is heard of a journal is heard entry by entry. -/
theorem heardIn_append (j : List Entry) (e : Entry) : heardIn (j ++ [e]) = e.hear (heardIn j) := by
  simp [heardIn]

section

variable {j : List Entry} {t : Nat}

/-- An entry adds the call that it speaks of to those of a transport that was
made before. -/
theorem callsSince_append (h : .created t ∈ j) (e : Entry) :
    callsSince (j ++ [e]) t = callsSince j t ++ (e.call? t).toList := by
  have hmade : (j.dropWhile (· ≠ .created t)).isEmpty = false := by
    rw [Bool.eq_false_iff, ne_eq, List.isEmpty_iff, List.dropWhile_eq_nil_iff]
    intro hall
    simpa using hall _ h
  rw [callsSince, List.dropWhile_append, hmade, callsSince]
  cases he : e.call? t with
  | none => simp [List.filterMap_append, he]
  | some call => simp [List.filterMap_append, he]

/-- A transport that was just made had no calls. -/
theorem callsSince_append_created (h : .created t ∉ j) :
    callsSince (j ++ [.created t]) t = [] := by
  have hnone : j.dropWhile (· ≠ .created t) = [] := by
    rw [List.dropWhile_eq_nil_iff]
    intro e he
    rw [decide_eq_true_eq]
    rintro rfl
    exact h he
  rw [callsSince, List.dropWhile_append, hnone]
  simp [Entry.call?]

/-- Of the calls that a journal speaks of, those to close are its entries of
that kind. -/
theorem count_close_filterMap (j : List Entry) (t : Nat) :
    (j.filterMap (Entry.call? t)).count .close = j.count (.closed t) := by
  induction j with
  | nil => rfl
  | cons e j ih =>
    rw [List.count_cons, ← ih]
    cases e with
    | closed u =>
      by_cases hu : u = t
      · simp [Entry.call?, hu]
      · simp [Entry.call?, hu]
    | sent u frame accepted =>
      by_cases hu : u = t
      · simp [Entry.call?, hu]
      · simp [Entry.call?, hu]
    | created | told | unheard | printed => rfl

/-- Transports are asked to close only after they were made. -/
def ClosesMade (journal : List Entry) : Prop :=
  ∀ t before rest, journal = before ++ .closed t :: rest → .created t ∈ before

/-- A transport that was asked to close was made. -/
theorem ClosesMade.created_mem (hj : ClosesMade j) (h : .closed t ∈ j) : .created t ∈ j := by
  obtain ⟨before, rest, rfl⟩ := List.append_of_mem h
  exact List.mem_append_left _ (hj t before rest rfl)

/-- The calls of a transport tell how often it was asked to close. -/
theorem ClosesMade.count_close (hj : ClosesMade j) (t : Nat) :
    (callsSince j t).count .close = j.count (.closed t) := by
  have hsplit := List.takeWhile_append_dropWhile (p := (· ≠ .created t)) (l := j)
  have hbefore : (j.takeWhile (· ≠ .created t)).count (.closed t) = 0 := by
    rw [List.count_eq_zero]
    intro hmem
    obtain ⟨before, rest, htake⟩ := List.append_of_mem hmem
    rw [htake, List.append_assoc, List.cons_append] at hsplit
    have hmade := hj t before _ hsplit.symm
    have hne := List.mem_takeWhile_imp (htake ▸ List.mem_append_left _ hmade)
    simp at hne
  calc
    (callsSince j t).count .close = (j.dropWhile (· ≠ .created t)).count (.closed t) :=
      count_close_filterMap _ t
    _ = (j.takeWhile (· ≠ .created t)).count (.closed t) +
        (j.dropWhile (· ≠ .created t)).count (.closed t) := by rw [hbefore, Nat.zero_add]
    _ = j.count (.closed t) := by rw [← List.count_append, List.takeWhile_append_dropWhile]

/-- What is added to a journal may ask transports to close that were made by
then. -/
theorem ClosesMade.of_prefix {j' : List Entry} (hj : ClosesMade j) (hbegins : j <+: j')
    (hadded : ∀ t before rest, j' = before ++ .closed t :: rest → j <+: before →
      .created t ∈ before) : ClosesMade j' := by
  intro t before rest hsplit
  have hbefore : before <+: j' := ⟨_, hsplit.symm⟩
  obtain hold | ⟨more, rfl⟩ := List.prefix_or_prefix_of_prefix hbegins hbefore
  · exact hadded t before rest hsplit hold
  · rw [hsplit] at hbegins
    cases more with
    | nil =>
      rw [List.append_nil] at hadded
      exact hadded t before rest hsplit List.prefix_rfl
    | cons e more =>
      obtain ⟨rfl, -⟩ :=
        List.cons_prefix_cons.mp ((List.prefix_append_right_inj before).mp hbegins)
      exact hj t before more rfl

end

namespace Connection

variable {γ τ η ℓ : Type}

/-! ## Numbers of transports -/

section

variable {c d : Connection γ τ η ℓ}

/-- The numbers that the journal gives out are those of the transports. -/
def Numbered (c : Connection γ τ η ℓ) : Prop :=
  ∀ t, .created t ∈ c.journal ↔ t < c.transports.length

/-- Entries that make no transport leave the numbers as they are. -/
theorem Numbered.append {e : Entry} (hc : c.Numbered) (hjournal : d.journal = c.journal ++ [e])
    (hcreated : ∀ t, e ≠ .created t) (hlength : d.transports.length = c.transports.length) :
    d.Numbered := by
  intro t
  rw [hjournal, List.mem_append, hc t, hlength, List.mem_singleton]
  exact or_iff_left (hcreated t).symm

/-- A new transport gets the next number. -/
theorem Numbered.install (hc : c.Numbered) (x : τ) (k : γ) : (c.install x k).Numbered := by
  intro t
  have hlength : (c.install x k).transports.length = c.transports.length + 1 :=
    List.length_append
  rw [hlength, Connection.install, note, List.mem_append, hc t, List.mem_singleton,
    Entry.created.injEq]
  omega

/-- Transports keep their numbers when they change by themselves. -/
theorem Numbered.move (hc : c.Numbered) (t : Nat) (f : τ → τ) : (c.move t f).Numbered := by
  intro u
  rw [Connection.move, List.length_modify]
  exact hc u

/-- Nothing is numbered where nothing was made. -/
theorem numbered_of_new (hjournal : c.journal = []) (htransports : c.transports = []) :
    c.Numbered := by
  intro t
  simp [hjournal, htransports]

variable [Transport τ] [Connector γ τ]

/-- The numbers go with the transports in every step. -/
theorem numbered_step (h : Step c d) (hc : c.Numbered) : d.Numbered := by
  cases h with
  | created => exact hc.install _ _
  | told | unheard | printed => exact hc.append rfl (fun _ => Entry.noConfusion) rfl
  | sent => exact hc.append rfl (fun _ => Entry.noConfusion) List.length_set
  | closed => exact hc.append rfl (fun _ => Entry.noConfusion) (List.length_modify ..)
  | connector | handler | listener | queue | dropped => exact hc

/-- The numbers go with the transports in every action. -/
theorem numbered_act [Listener ℓ] [MessageHandler η] (hc : c.Numbered) (a : Action γ τ η ℓ) :
    (c.act a).2.Numbered := by
  have hafter : (c.after [a]).Numbered :=
    after_invariant (fun _ _ => numbered_step) (fun _ t f _ hd => hd.move t f) hc
  exact hafter

end

/-! ## The logs of the transports -/

section

variable {c d : Connection (Watching γ) (Watched τ TransportCall) η ℓ}

/-- The logs of the transports hold what the journal says. -/
structure Logged (c : Connection (Watching γ) (Watched τ TransportCall) η ℓ) : Prop where
  numbered : c.Numbered
  log_eq : ∀ t x, c.transports[t]? = some x → x.log = callsSince c.journal t
  framesOn_eq : ∀ t x, c.transports[t]? = some x →
    framesOn c.journal t = x.log.filterMap TransportCall.frame?
  /-- a transport that was not made yet has accepted nothing -/
  unsent : ∀ t, c.transports.length ≤ t → framesOn c.journal t = []

/-- What is entered in the journal happens to the transport that the entry
speaks of, which was made before. -/
theorem Logged.append {e : Entry} (hc : c.Logged) (hjournal : d.journal = c.journal ++ [e])
    (hcreated : ∀ t, e ≠ .created t) (hlength : d.transports.length = c.transports.length)
    (hlog : ∀ t y, d.transports[t]? = some y →
      ∃ x, c.transports[t]? = some x ∧ y.log = x.log ++ (e.call? t).toList)
    (hframe : ∀ t, c.transports.length ≤ t → e.frame? t = none) : d.Logged where
  numbered := hc.numbered.append hjournal hcreated hlength
  log_eq t y hy := by
    obtain ⟨x, hx, hxy⟩ := hlog t y hy
    have hmade := (hc.numbered t).mpr (List.getElem?_eq_some_iff.mp hx).1
    rw [hjournal, callsSince_append hmade, hxy, hc.log_eq t x hx]
  framesOn_eq t y hy := by
    obtain ⟨x, hx, hxy⟩ := hlog t y hy
    rw [hjournal, framesOn_append, hc.framesOn_eq t x hx, hxy, List.filterMap_append,
      Entry.frame?_eq_bind]
    cases e.call? t with
    | none => rfl
    | some call => cases hcall : call.frame? <;> simp [hcall]
  unsent t ht := by
    rw [hlength] at ht
    rw [hjournal, framesOn_append, hc.unsent t ht, hframe t ht]
    rfl

/-- An entry that speaks of no call changes no log. -/
theorem Logged.note {e : Entry} (hc : c.Logged) (hcall : ∀ t, e.call? t = none)
    (hcreated : ∀ t, e ≠ .created t) : (c.note e).Logged := by
  refine hc.append rfl hcreated rfl (fun t x hx => ⟨x, hx, ?_⟩) fun t _ => ?_
  · rw [hcall, Option.toList_none, List.append_nil]
  · rw [Entry.frame?_eq_bind, hcall, Option.bind_none]

/-- A transport that was just made has no calls in its log. -/
theorem Logged.install (hc : c.Logged) {x : Watched τ TransportCall} (hx : x.log = [])
    (k : Watching γ) : (c.install x k).Logged := by
  have hnew : .created c.transports.length ∉ c.journal := by
    rw [hc.numbered]
    exact Nat.lt_irrefl _
  have hframes : ∀ t, framesOn (c.install x k).journal t = framesOn c.journal t := fun t =>
    framesOn_append_of_none rfl c.journal
  have hlength : (c.install x k).transports.length = c.transports.length + 1 :=
    List.length_append
  constructor
  case numbered => exact hc.numbered.install x k
  case log_eq =>
    intro t y hy
    obtain hold | ⟨rfl, rfl⟩ := getElem?_install_cases hy
    · have hmade := (hc.numbered t).mpr (List.getElem?_eq_some_iff.mp hold).1
      rw [hc.log_eq t y hold, Connection.install, Connection.note, callsSince_append hmade]
      exact (List.append_nil _).symm
    · rw [hx]
      exact (callsSince_append_created hnew).symm
  case framesOn_eq =>
    intro t y hy
    rw [hframes]
    obtain hold | ⟨rfl, rfl⟩ := getElem?_install_cases hy
    · exact hc.framesOn_eq t y hold
    · rw [hx, hc.unsent _ (Nat.le_refl _)]
      rfl
  case unsent =>
    intro t ht
    rw [hframes]
    exact hc.unsent t (by omega)

/-- A transport that changes by itself was not called for that. -/
theorem Logged.move (hc : c.Logged) (t : Nat)
    {f : Watched τ TransportCall → Watched τ TransportCall} (hf : ∀ x, (f x).log = x.log) :
    (c.move t f).Logged := by
  have hget : ∀ (i : Nat) (y : Watched τ TransportCall), (c.move t f).transports[i]? = some y →
      ∃ x : Watched τ TransportCall, c.transports[i]? = some x ∧ y.log = x.log := by
    intro i y hy
    obtain ⟨x, hx, rfl⟩ := exists_of_getElem?_move hy
    refine ⟨x, hx, ?_⟩
    split
    · exact hf x
    · rfl
  constructor
  case numbered => exact hc.numbered.move t f
  case log_eq =>
    intro i y hy
    obtain ⟨x, hx, hlog⟩ := hget i y hy
    exact hlog.trans (hc.log_eq i x hx)
  case framesOn_eq =>
    intro i y hy
    obtain ⟨x, hx, hlog⟩ := hget i y hy
    rw [hlog]
    exact hc.framesOn_eq i x hx
  case unsent =>
    rw [Connection.move, List.length_modify]
    exact hc.unsent

/-- Where nothing was made, the logs agree with the journal. -/
theorem logged_of_new (hjournal : c.journal = []) (htransports : c.transports = []) :
    c.Logged := by
  have hnone : ∀ (t : Nat) (x : Watched τ TransportCall), c.transports[t]? ≠ some x := by
    intro t x
    simp [htransports]
  constructor
  case numbered => exact numbered_of_new hjournal htransports
  case log_eq => exact fun t x hx => absurd hx (hnone t x)
  case framesOn_eq => exact fun t x hx => absurd hx (hnone t x)
  case unsent =>
    intro t _
    rw [hjournal]
    rfl

section

variable [Connector γ τ]

/-- A transport that is watched starts with an empty log. -/
theorem log_of_connect {url : String} {k k' : Watching γ} {x : Watched τ TransportCall}
    (h : Connector.connect url k = (.ok x, k')) : x.log = [] := by
  cases hmade : Connector.connect url k.inner with
  | mk result inner =>
    simp only [Connector.connect, hmade, Prod.mk.injEq] at h
    cases result with
    | error e => cases h.1
    | ok y =>
      cases h.1
      rfl

variable [Transport τ]

/-- In every step the transport that is called writes down what the journal
says. -/
theorem logged_step (h : Step c d) (hc : c.Logged) : d.Logged := by
  cases h with
  | created closed made => exact hc.install (log_of_connect made) _
  | told | unheard | printed => exact hc.note (fun _ => rfl) (fun _ => Entry.noConfusion)
  | @sent i x frame there opened =>
    refine hc.append (d := Connection.note _ _) rfl (fun _ => Entry.noConfusion) List.length_set
      (fun t y hy => ?_) fun t ht => ?_
    · rw [Connection.note, List.getElem?_set] at hy
      split at hy
      · next hit =>
        subst hit
        rw [if_pos (List.getElem?_eq_some_iff.mp there).1] at hy
        refine ⟨x, there, ?_⟩
        rw [← Option.some.inj hy, Entry.call?, if_pos rfl]
        rfl
      · next hmiss =>
        refine ⟨y, hy, ?_⟩
        rw [Entry.call?, if_neg hmiss]
        exact (List.append_nil _).symm
    · have hi : i < c.transports.length := (List.getElem?_eq_some_iff.mp there).1
      have hmiss : i ≠ t := by omega
      rw [Entry.frame?_eq_bind, Entry.call?, if_neg hmiss, Option.bind_none]
  | closed i =>
    refine hc.append rfl (fun _ => Entry.noConfusion) (List.length_modify ..) (fun t y hy => ?_)
      fun t _ => rfl
    obtain ⟨x, hx, rfl⟩ := exists_of_getElem?_move hy
    refine ⟨x, hx, ?_⟩
    rw [Entry.call?]
    split
    · rfl
    · exact (List.append_nil _).symm
  | connector | handler | listener | queue | dropped =>
    exact ⟨hc.numbered, hc.log_eq, hc.framesOn_eq, hc.unsent⟩

/-- The logs of the transports hold what the journal says, in every run. -/
theorem logged_after [Listener ℓ] [MessageHandler η] (hc : c.Logged)
    {acts : List (Action (Watching γ) (Watched τ TransportCall) η ℓ)}
    (hmove : ∀ t f, .move t f ∈ acts → ∀ x, (f x).log = x.log) : (c.after acts).Logged :=
  after_invariant (fun _ _ => logged_step) (fun _ t f h hd => hd.move t (hmove t f h)) hc

end

end

/-! ## Requests to close -/

section

variable [Transport τ] [Connector γ τ] [Listener ℓ] [MessageHandler η]
  {c c₀ : Connection γ τ η ℓ} {acts : List (Action γ τ η ℓ)}

omit [MessageHandler η] in
/-- An action asks those transports to close that were made, if an event
that it handles comes of such a transport. -/
theorem lt_of_requests (hnew : c.Newest) {t : Nat} {a : Action γ τ η ℓ}
    (hevent : ∀ e d, c.handling? a = some (e, d) → e.transport < c.transports.length)
    (h : c.requests t a ≠ 0) :
    t < c.transports.length ∨ a = .connect ∧ c.refusesFirst t a = true := by
  cases hhandling : c.handling? a with
  | some x =>
    obtain ⟨e, d⟩ := x
    rw [requests_of_handling hhandling] at h
    have he : e.transport = t := by
      by_contra hne
      exact h (requestsOf_of_ne hne)
    exact .inl (he ▸ hevent e d hhandling)
  | none =>
    rw [requests_of_no_event hhandling] at h
    cases a with
    | connect =>
      refine .inr ⟨rfl, ?_⟩
      cases hfirst : c.refusesFirst t (.connect : Action γ τ η ℓ) with
      | true => rfl
      | false => simp [hfirst, givesUp] at h
    | disconnect =>
      have hown : c.own = some t := by simpa [givesUp, refusesFirst] using h
      have hlength := hnew.length_of_own hown
      exact .inl (by omega)
    | drop =>
      have hown : c.dropped = false ∧ c.own = some t := by simpa [givesUp, refusesFirst] using h
      have hlength := hnew.length_of_own hown.2
      exact .inl (by omega)
    | _ => simp [givesUp, refusesFirst] at h

omit [MessageHandler η] in
/-- In an attempt to connect the new transport is made first. -/
theorem created_prefix_of_refusesFirst {t : Nat}
    (h : c.refusesFirst t (.connect : Action γ τ η ℓ) = true) :
    c.journal ++ [.created t] <+: c.connect.2.journal := by
  cases hk : Connector.connect c.url c.connector with
  | mk result k =>
    cases result with
    | error e => simp [refusesFirst, hk] at h
    | ok x =>
      have hclosed : (c.state = .closed ∧ c.transports.length = t) ∧
          (c.install x k).failsAtState t = true := by
        simpa [refusesFirst, hk] using h
      obtain ⟨⟨hc, rfl⟩, -⟩ := hclosed
      have htold : (c.install x k).journal <+:
          ((c.install x k).tellState c.transports.length).2.journal :=
        journal_prefix_steps (steps_tellState _ _)
      rw [connect_of_closed hc hk]
      dsimp only
      split
      · exact htold
      · exact htold.trans (List.prefix_append ..)

/-- No action asks a transport to close that was not made, if its event is of
one that was. -/
theorem closesMade_act (hc : ClosesMade c.journal) (hnew : c.Newest) (hnumbered : c.Numbered)
    {a : Action γ τ η ℓ}
    (hevent : ∀ e d, c.handling? a = some (e, d) → e.transport < c.transports.length) :
    ClosesMade (c.act a).2.journal := by
  apply hc.of_prefix (journal_prefix_act c a)
  intro t before rest hsplit hbegins
  by_cases ht : t < c.transports.length
  · exact hbegins.subset ((hnumbered t).mpr ht)
  · have hrequests : c.requests t a ≠ 0 := by
      intro hnone
      have htally := tally_act c a t
      have hold : .closed t ∉ c.journal := fun hmem => ht ((hnumbered t).mp (hc.created_mem hmem))
      rw [Tally, hnone, hsplit, List.count_eq_zero.mpr hold] at htally
      simp at htally
    -- so the transport is made by the action itself, before it is asked
    obtain hlt | ⟨rfl, hfirst⟩ := lt_of_requests hnew hevent hrequests
    · exact absurd hlt ht
    · have hcreated := created_prefix_of_refusesFirst hfirst
      obtain ⟨more, rfl⟩ := hbegins
      have hconnect : c.connect.2.journal = c.journal ++ more ++ .closed t :: rest := hsplit
      rw [hconnect, List.append_assoc, List.prefix_append_right_inj] at hcreated
      cases more with
      | nil => simp at hcreated
      | cons e more =>
        obtain ⟨rfl, -⟩ := List.cons_prefix_cons.mp hcreated
        simp

/-- If events come of transports that were made, only such transports are
asked to close. -/
theorem closesMade_after (hc : ClosesMade c.journal) (hnew : c.Newest) (hnumbered : c.Numbered)
    (hevents : ∀ d a, (d, a) ∈ c.history acts →
      ∀ e d', d.handling? a = some (e, d') → e.transport < d.transports.length) :
    ClosesMade (c.after acts).journal := by
  induction acts generalizing c with
  | nil => exact hc
  | cons a acts ih =>
    have hact := closesMade_act hc hnew hnumbered (hevents c a List.mem_cons_self)
    exact ih hact (newest_act hnew a) (numbered_act hnumbered a) fun d b hb =>
      hevents d b (List.mem_cons_of_mem _ hb)

end

/-! ## The log of the listener -/

section

/-- From `c` to `d` the listener heard what the journal says. -/
def Hears (c d : Watch γ τ η ℓ) : Prop :=
  ∃ heard, d.listener.log = c.listener.log ++ heard ∧
    heardIn d.journal = heardIn c.journal ++ heard

variable {c d e : Watch γ τ η ℓ}

theorem Hears.refl (c : Watch γ τ η ℓ) : Hears c c :=
  ⟨[], (List.append_nil _).symm, (List.append_nil _).symm⟩

/-- What is heard adds up along a run. -/
theorem Hears.trans (hcd : Hears c d) (hde : Hears d e) : Hears c e := by
  obtain ⟨first, hlog, hjournal⟩ := hcd
  obtain ⟨second, hlog', hjournal'⟩ := hde
  refine ⟨first ++ second, ?_, ?_⟩
  · rw [hlog', hlog, List.append_assoc]
  · rw [hjournal', hjournal, List.append_assoc]

/-- A listener that is the same was told nothing. -/
theorem Hears.of_eq (hlistener : d.listener = c.listener)
    (hjournal : heardIn d.journal = heardIn c.journal) : Hears c d := by
  refine ⟨[], ?_, ?_⟩
  · rw [hlistener, List.append_nil]
  · rw [hjournal, List.append_nil]

variable [Transport τ]

/-- How a connection stands includes its state. -/
theorem standing_state (c : Connection γ τ η ℓ) : c.standing.state = c.state := by
  cases hown : c.own with
  | none => simp only [standing, Standing.state, state, stateOn, hown, Option.bind_none,
      Option.getD_none]
  | some t =>
    simp only [standing, Standing.state, state, stateOn, hown, Option.bind_some,
      List.getElem?_map]
    cases c.transports[t]? <;> rfl

/-- To send tells the listener nothing. -/
theorem heardIn_sendOn (c : Connection γ τ η ℓ) (on : Option Nat) (payload : Outbound) :
    heardIn (c.sendOn on payload).2.journal = heardIn c.journal := by
  cases sendOn_cases c on payload with
  | inl hfits =>
    obtain ⟨t, x, frame, rfl, hx, hopened, hframe⟩ := hfits
    rw [sendOn_of_frame hx hopened hframe]
    exact heardIn_append _ _
  | inr hrefused => rw [hrefused]

/-- A reaction tells the listener nothing. -/
theorem heardIn_carryOut {α : Type} (c : Connection γ τ η ℓ) (on : Option Nat) (r : Reaction α) :
    heardIn (c.carryOut on r).2.journal = heardIn c.journal := by
  induction r generalizing c with
  | done a => rfl
  | print line next ih => exact (ih _).trans (heardIn_append _ _)
  | state next ih => exact ih _ c
  | send payload next ih => exact (ih _ _).trans (heardIn_sendOn c on payload)

/-- To close a transport tells the listener nothing. -/
theorem hears_closeTransport (c : Watch γ τ η ℓ) (t : Nat) : Hears c (c.closeTransport t) :=
  .of_eq rfl (heardIn_append _ _)

/-- To disconnect tells the listener nothing. -/
theorem hears_disconnect (c : Watch γ τ η ℓ) : Hears c c.disconnect := by
  unfold disconnect
  split
  · exact hears_closeTransport c _
  · exact .refl c

variable [Listener ℓ]

/-- What the listener is told goes to its log, with the state that it can
see. -/
theorem hears_tell {c : Watch γ τ η ℓ} {on : Option Nat} (hon : c.stateOn on = c.state) (t : Nat)
    (news : News) : Hears c (c.tell t on news).2 := by
  have htell := tell_watched c t on news
  extract_lets told carried heard left at htell
  have hstate : told.stateOn on = c.state := hon
  have hcarried : heardIn carried.2.journal = heardIn c.journal ++ [⟨news, c.state, true⟩] := by
    rw [heardIn_carryOut, ← standing_state]
    exact heardIn_append _ _
  rw [htell]
  refine ⟨[⟨news, c.state, carried.1.1⟩], ?_, ?_⟩
  · rw [← hstate]
    dsimp only
    split <;> rfl
  · cases hok : carried.1.1 with
    | true => exact hcarried
    | false =>
      have hunheard := heardIn_append carried.2.journal (.unheard t news)
      rw [hcarried, Entry.hear, List.modifyLast_concat] at hunheard
      exact hunheard

/-- A state is heard as the journal says, since a sender sees the state of the
connection. -/
theorem hears_tellState {c : Watch γ τ η ℓ} (hc : c.shared = c.own) (t : Nat) :
    Hears c (c.tellState t).2 := by
  unfold tellState
  split
  · have hon : c.stateOn c.shared = c.state := congrArg c.stateOn hc
    exact hears_tell hon t _
  · exact .refl c

/-- The listener hears a state, and what comes after it, as the journal
says. -/
theorem hears_tellThen {c : Watch γ τ η ℓ} (hc : c.shared = c.own) (t : Nat) {on : Option Nat}
    (hon : on = c.own) (news : News) : Hears c (c.tellThen t on news).2 := by
  have hstate := hears_tellState hc t
  unfold tellThen
  split
  · have hquiet := quiet_tellState c t
    have hon' : (c.tellState t).2.stateOn on = (c.tellState t).2.state := by
      rw [hon, ← hquiet.own]
      rfl
    exact hstate.trans (hears_tell hon' t news)
  · exact hstate

/-- Of a new transport the listener hears what the journal says. -/
theorem hears_connect [Connector γ τ] (c : Watch γ τ η ℓ) : Hears c c.connect.2 := by
  by_cases hc : c.state = .closed
  · cases hk : Connector.connect c.url c.connector with
    | mk result k =>
      cases result with
      | error e =>
        rw [connect_of_error hc hk]
        exact .of_eq rfl rfl
      | ok x =>
        have hmade : Hears c (c.install x k) := .of_eq rfl (heardIn_append _ _)
        have htold := hmade.trans (hears_tellState rfl c.transports.length)
        rw [connect_of_closed hc hk]
        dsimp only
        split
        · exact htold
        · exact htold.trans (hears_closeTransport _ _)
  · rw [connect_of_not_closed hc]
    exact .refl c

/-- Of an opening the listener hears what the journal says. -/
theorem hears_handleOpened {c : Watch γ τ η ℓ} (hc : c.shared = c.own) (t : Nat) :
    Hears c (c.handleOpened t) := by
  by_cases hown : c.own = some t
  · have htold := hears_tellThen hc t hown.symm .opened
    rw [handleOpened_eq hown]
    split
    · exact htold
    · exact htold.trans (hears_closeTransport _ t)
  · rw [handleOpened, if_pos hown]
    exact hears_closeTransport c t

variable [MessageHandler η]

omit [Listener ℓ] in
/-- Of a message the listener hears nothing. -/
theorem hears_handleMessage (c : Watch γ τ η ℓ) (text : String) :
    Hears c (c.handleMessage text).2 := by
  unfold handleMessage
  split
  · exact .refl c
  · next message _ =>
    have hsteady := steady_carryOut c c.shared (MessageHandler.handle message c.handler)
    exact .of_eq hsteady.listener (heardIn_carryOut c c.shared _)

/-- Of an event the listener hears what the journal says. -/
theorem hears_handleEvent {c : Watch γ τ η ℓ} (hc : c.shared = c.own) (e : Event) :
    Hears c (c.handleEvent e).2 := by
  unfold handleEvent
  split
  · exact hears_handleOpened hc _
  · exact hears_handleMessage c _
  · rw [handleClosed_eq]
    exact hears_tellThen hc _ hc _
  · rw [handleFailed_eq]
    exact (hears_tellThen hc _ hc _).trans (hears_closeTransport _ _)

variable [Connector γ τ]

/-- Over any action but a change of the listener, its log gains what the
journal says. -/
theorem hears_act {c : Watch γ τ η ℓ} (hc : c.shared = c.own)
    {a : Action (Watching γ) (Watched τ TransportCall) η (Watched ℓ Heard)}
    (ha : ∀ l, a ≠ .setListener l) : Hears c (c.act a).2 := by
  cases a with
  | connect => exact hears_connect c
  | disconnect => exact hears_disconnect c
  | drop =>
    simp only [act, drop]
    split
    · exact .refl c
    · exact hears_disconnect c
  | send payload => exact .of_eq (steady_sendOn c _ payload).listener (heardIn_sendOn c _ payload)
  | senderSend payload =>
    exact .of_eq (steady_sendOn c _ payload).listener (heardIn_sendOn c _ payload)
  | setListener l => exact absurd rfl (ha l)
  | handleEvent e => exact hears_handleEvent hc e
  | emit e =>
    simp only [act, emit]
    split <;> exact .of_eq rfl rfl
  | processNext =>
    simp only [act, processNext?, nextEvent?]
    split
    · exact .refl c
    · next e queue hq => exact hears_handleEvent (c := { c with queue := queue }) hc e
  | move | arrange | instruct => exact .of_eq rfl rfl

/-- As long as it is not replaced, the log of the listener gains in a run
what the journal says. -/
theorem hears_after {c : Watch γ τ η ℓ} (hc : c.Newest)
    {acts : List (Action (Watching γ) (Watched τ TransportCall) η (Watched ℓ Heard))}
    (hacts : ∀ l, .setListener l ∉ acts) : Hears c (c.after acts) := by
  induction acts generalizing c with
  | nil => exact .refl c
  | cons a acts ih =>
    have ha : ∀ l, a ≠ .setListener l := by
      rintro l rfl
      exact hacts l List.mem_cons_self
    have hrest : ∀ l, .setListener l ∉ acts := fun l h => hacts l (List.mem_cons_of_mem _ h)
    exact (hears_act hc.shared_eq_own ha).trans (ih (newest_act hc a) hrest)

end

/-! ## The journal -/

section

variable [Transport τ] [Connector γ τ] [Listener ℓ] [MessageHandler η]

omit [Transport τ] [Connector γ τ] [Listener ℓ] [MessageHandler η] in
/-- A transport that is watched changes by itself as the one inside, and
was not called for that. -/
theorem Action.log_of_watch {a : Action γ τ η ℓ} {t : Nat}
    {f : Watched τ TransportCall → Watched τ TransportCall} (h : a.watch = .move t f)
    (x : Watched τ TransportCall) : (f x).log = x.log := by
  cases a with
  | move u g =>
    cases h
    rfl
  | _ => contradiction

omit [Transport τ] [Connector γ τ] [Listener ℓ] [MessageHandler η] in
/-- Under observation only a change of listeners is one. -/
theorem Action.setListener_of_watch {a : Action γ τ η ℓ} {l : Watched ℓ Heard}
    (h : a.watch = .setListener l) : a = .setListener l.inner := by
  cases a with
  | setListener l' =>
    cases h
    rfl
  | _ => contradiction

/-- The journal tells the truth.  Put watched transports and a watched
listener in place of those of a connection:

1. the same run comes to the same connection, but for the logs;
2. the log of a transport holds the calls that the journal says were made of
   it; the frames that it accepted are those of `framesOn`, and if events
   come of transports that were made, it was asked to close as often as the
   journal says;
3. as long as the listener is not replaced, its log gains what the journal
   says it was told. -/
theorem journal_adequate {url : String} {k : γ} {h : η} {l : ℓ} {c₀ : Connection γ τ η ℓ}
    (hstart : ofUrl url k h l = .ok c₀) (acts : List (Action γ τ η ℓ)) :
    ∃ w₀ : Watch γ τ η ℓ, ofUrl url ⟨k⟩ h ⟨l, []⟩ = .ok w₀ ∧
      (w₀.after (acts.map Action.watch)).unwatched = c₀.after acts ∧
      (∀ t x, (w₀.after (acts.map Action.watch)).transports[t]? = some x →
        x.log = callsSince (c₀.after acts).journal t ∧
        x.log.filterMap TransportCall.frame? = framesOn (c₀.after acts).journal t ∧
        ((∀ c a, (c, a) ∈ c₀.history acts → ∀ e d, c.handling? a = some (e, d) →
            e.transport < c.transports.length) →
          x.log.count .close = (c₀.after acts).journal.count (.closed t))) ∧
      ∀ before later, acts = before ++ later → (∀ l, .setListener l ∉ later) →
        Hears (w₀.after (before.map Action.watch)) (w₀.after (acts.map Action.watch)) := by
  obtain ⟨hurl, hc₀⟩ := ofUrl_eq_ok_iff.mp hstart
  let w₀ : Watch γ τ η ℓ := { url := url, connector := ⟨k⟩, handler := h, listener := ⟨l, []⟩ }
  have hstart' : ofUrl url ⟨k⟩ h ⟨l, []⟩ = .ok w₀ := ofUrl_eq_ok_iff.mpr ⟨hurl, rfl⟩
  have hafter : (w₀.after (acts.map Action.watch)).unwatched = c₀.after acts := by
    rw [unwatched_after, hc₀]
    rfl
  have hjournal : (w₀.after (acts.map Action.watch)).journal = (c₀.after acts).journal :=
    congrArg journal hafter
  refine ⟨w₀, hstart', hafter, ?logs, ?listener⟩
  case logs =>
    have hmove : ∀ t f, .move t f ∈ acts.map (Action.watch (γ := γ) (η := η) (ℓ := ℓ)) →
        ∀ x, (f x).log = x.log := by
      intro t f hmem
      obtain ⟨a, -, ha⟩ := List.mem_map.mp hmem
      exact Action.log_of_watch ha
    have hlogged := logged_after (c := w₀) (logged_of_new rfl rfl) hmove
    intro t x hx
    have hlog := hlogged.log_eq t x hx
    have hframes := hlogged.framesOn_eq t x hx
    rw [hjournal] at hlog hframes
    refine ⟨hlog, hframes.symm, fun hevents => ?_⟩
    have hnone : c₀.journal = [] := by rw [hc₀]
    have hnumbered : c₀.Numbered := numbered_of_new hnone (by rw [hc₀])
    have hcloses : ClosesMade c₀.journal := by
      rw [hnone]
      exact fun t before rest hsplit => absurd hsplit (by simp)
    rw [hlog]
    exact (closesMade_after hcloses (newest_of_ofUrl hstart) hnumbered hevents).count_close t
  case listener =>
    rintro before later rfl hlater
    have hnone : ∀ l, .setListener l ∉ later.map (Action.watch (γ := γ) (τ := τ) (η := η)) := by
      intro l hmem
      obtain ⟨a, ha, hwatch⟩ := List.mem_map.mp hmem
      exact hlater l.inner (Action.setListener_of_watch hwatch ▸ ha)
    have hnew : (w₀.after (before.map Action.watch)).Newest :=
      after_invariant (fun _ _ => newest_step) (fun _ t f _ hd => hd.move t f)
        (newest_of_ofUrl hstart')
    rw [List.map_append, after_append]
    exact hears_after hnew hnone

end

end Connection

end PushRelay
