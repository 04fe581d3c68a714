import Mathlib.Data.List.Induction
import PushRelay.Connection.Recorder
import PushRelay.Proofs.Connection.Announcements
import PushRelay.Proofs.Connection.Staleness
import PushRelay.Transport.Socket

/-!
# PushRelay.Proofs.Connection.Opening

How a transport stands when the listener is told that it has opened.

1. The listener is told of an opening only as its report is handled, after
   the state of the transport (`opened_of_mem_entries`).
2. Reports wait in a queue.  If a transport is open whenever its opening is
   reported, then one whose report waits was open at an earlier moment of
   the run (`wasOpen_of_mem_queue`), and as transports only go forward it is
   not connecting any more.
3. It need not be open any more either.  A transport that was asked to close
   since is closing or closed when the listener is told that it has opened
   (`openings_after`).
-/

namespace PushRelay

/-- A transport that is asked to close while it connects or is open is
closing then. -/
def Transport.Closes (τ : Type) [Transport τ] : Prop :=
  ∀ x : τ, Transport.state x = .connecting ∨ Transport.state x = .opened →
    Transport.state (Transport.close x) = .closing

namespace Connection

variable {γ τ η ℓ : Type} [Transport τ] {c d : Connection γ τ η ℓ} {t : Nat}

/-! ## States that only go forward -/

/-- The state of a transport that was made does not go back. -/
theorem Onward.stateOn (h : c.Onward d) (ht : t < c.transports.length) :
    (c.stateOn (some t)).code ≤ (d.stateOn (some t)).code := by
  obtain ⟨y, hy, hle⟩ := h t _ (List.getElem?_eq_getElem ht)
  rw [stateOn_of_getElem? (List.getElem?_eq_getElem ht), stateOn_of_getElem? hy]
  exact hle

/-- After it was asked to close, the current transport is closing or
closed. -/
theorem code_of_disconnect (law : Transport.Forward τ) (closes : Transport.Closes τ)
    (hown : c.own = some t) (ht : t < c.transports.length) :
    ReadyState.closing.code ≤ (c.disconnect.stateOn (some t)).code := by
  have hx := List.getElem?_eq_getElem ht
  have hclosed : c.disconnect.transports[t]? = some (Transport.close c.transports[t]) := by
    simp [disconnect, hown, closeTransport, note, move, hx]
  rw [stateOn_of_getElem? hclosed]
  have hforward := law.close c.transports[t]
  have hcloses := closes c.transports[t]
  cases hstate : Transport.state c.transports[t] with
  | connecting => exact Nat.le_of_eq (congrArg ReadyState.code (hcloses (.inl hstate)).symm)
  | opened => exact Nat.le_of_eq (congrArg ReadyState.code (hcloses (.inr hstate)).symm)
  | closing => exact hstate ▸ hforward
  | closed =>
    rw [hstate] at hforward
    exact Nat.le_of_succ_le hforward

variable [Connector γ τ] [Listener ℓ] [MessageHandler η] {c₀ : Connection γ τ η ℓ}
  {acts before : List (Action γ τ η ℓ)} {a : Action γ τ η ℓ}

/-- In every action transports go onward. -/
theorem onward_act (law : Transport.Forward τ) (c : Connection γ τ η ℓ) (ha : a.Forward) :
    c.Onward (c.act a).2 := by
  by_cases hm : ∃ t f, a = .move t f
  · obtain ⟨t, f, rfl⟩ := hm
    exact onward_move c t ha
  · exact onward_steps law (steps_act c a fun t f h => hm ⟨t, f, h⟩)

/-- In every run transports go onward. -/
theorem onward_after (law : Transport.Forward τ) (c : Connection γ τ η ℓ)
    (hacts : ∀ a ∈ acts, a.Forward) : c.Onward (c.after acts) :=
  after_induction (I := c.Onward) (.of_transports rfl)
    fun d a ha hd => hd.trans (onward_act law d (hacts a ha))

/-! ## Reports of openings -/

/-- At some moment of a run the transport was open. -/
def WasOpen (c₀ : Connection γ τ η ℓ) (acts : List (Action γ τ η ℓ)) (t : Nat) : Prop :=
  ∃ moment, moment <+: acts ∧ (c₀.after moment).stateOn (some t) = .opened

/-- What was open at a moment of a run was so in every longer one. -/
theorem WasOpen.mono (h : c₀.WasOpen before t) (hbefore : before <+: acts) : c₀.WasOpen acts t := by
  obtain ⟨moment, hmoment, hopened⟩ := h
  exact ⟨moment, hmoment.trans hbefore, hopened⟩

/-- In a run the opening of a transport is reported only while it is open.
A report is handled when it is handed over, then or later. -/
structure ReportsOpenings (c₀ : Connection γ τ η ℓ) (acts : List (Action γ τ η ℓ)) : Prop where
  emitted : ∀ before later t, acts = before ++ .emit ⟨t, .opened⟩ :: later →
    (c₀.after before).stateOn (some t) = .opened
  handled : ∀ before later t, acts = before ++ .handleEvent ⟨t, .opened⟩ :: later →
    c₀.WasOpen before t

/-- A run whose reports of openings are true had true ones from the
beginning. -/
theorem ReportsOpenings.of_prefix (h : c₀.ReportsOpenings acts) (hbefore : before <+: acts) :
    c₀.ReportsOpenings before := by
  obtain ⟨rest, rfl⟩ := hbefore
  constructor
  · intro earlier later t hsplit
    exact h.emitted earlier (later ++ rest) t (by simp [hsplit])
  · intro earlier later t hsplit
    exact h.handled earlier (later ++ rest) t (by simp [hsplit])

/-- A transport whose opening waits to be handled was open. -/
theorem wasOpen_of_mem_queue (hqueue : c₀.queue = []) (honest : c₀.ReportsOpenings acts)
    (h : ⟨t, .opened⟩ ∈ (c₀.after acts).queue) : c₀.WasOpen acts t := by
  induction acts using List.reverseRecOn with
  | nil =>
    rw [after_nil, hqueue] at h
    contradiction
  | append_singleton before a ih =>
    have hbefore : before <+: before ++ [a] := List.prefix_append ..
    rw [after_append] at h
    cases mem_queue_act h with
    | inl h => exact (ih (honest.of_prefix hbefore) h).mono hbefore
    | inr ha =>
      subst ha
      exact ⟨before, hbefore, honest.emitted before [] t rfl⟩

/-- A transport whose opening is handled was open before. -/
theorem wasOpen_of_handling (hqueue : c₀.queue = []) (honest : c₀.ReportsOpenings acts)
    {rest : List (Action γ τ η ℓ)} (hrun : acts = before ++ a :: rest)
    (h : (c₀.after before).handling? a = some (⟨t, .opened⟩, d)) : c₀.WasOpen before t := by
  obtain ⟨rfl, -⟩ | ⟨queue, hwaits, -⟩ := handling_cases h
  · exact honest.handled before rest t hrun
  · refine wasOpen_of_mem_queue hqueue (honest.of_prefix ⟨a :: rest, hrun.symm⟩) ?_
    rw [hwaits]
    exact List.mem_cons_self

/-! ## Openings that are told -/

/-- The entries that an action makes in the journal. -/
def entries (c : Connection γ τ η ℓ) (a : Action γ τ η ℓ) : List Entry :=
  (c.act a).2.journal.drop c.journal.length

/-- An action adds its entries to the journal and takes none back. -/
theorem journal_act (c : Connection γ τ η ℓ) (a : Action γ τ η ℓ) :
    (c.act a).2.journal = c.journal ++ c.entries a := by
  obtain ⟨entries, hentries⟩ := journal_prefix_act c a
  rw [Connection.entries, ← hentries, List.drop_left]

omit [Connector γ τ] [MessageHandler η] in
/-- What is told after a state is told as the connection stands then. -/
theorem mem_toldAfterState {x : Entry} {news : News} (h : x ∈ c.toldAfterState t news) :
    (c.tellState t).1 = true ∧ x = .told t news (c.tellState t).2.standing := by
  unfold toldAfterState at h
  split at h
  · next hcopes => exact ⟨hcopes, List.mem_singleton.mp (List.mem_filter.mp h).1⟩
  · contradiction

/-- The opening of a transport is told as its report is handled, if it is
the current one and the listener copes with its state. -/
theorem opened_of_mem_entries {standing : Standing} (h : .told t .opened standing ∈ c.entries a) :
    ∃ d, c.handling? a = some (⟨t, .opened⟩, d) ∧ d.own = some t ∧ (d.tellState t).1 = true ∧
      standing = (d.tellState t).2.standing := by
  have hentries : announcements (c.entries a) =
      ((c.handling? a).map fun x => x.2.announced x.1).getD [] := by
    have hact := announcements_act c a
    rw [journal_act, announcements, List.filter_append] at hact
    exact List.append_cancel_left hact
  have hmem : .told t .opened standing ∈ announcements (c.entries a) :=
    List.mem_filter.mpr ⟨h, rfl⟩
  rw [hentries] at hmem
  cases hhandling : c.handling? a with
  | none =>
    rw [hhandling] at hmem
    contradiction
  | some x =>
    obtain ⟨⟨u, kind⟩, d⟩ := x
    rw [hhandling, Option.map_some, Option.getD_some] at hmem
    cases kind with
    | opened =>
      simp only [announced] at hmem
      split at hmem
      · next hown =>
        obtain ⟨hcopes, htold⟩ := mem_toldAfterState hmem
        cases htold
        exact ⟨d, rfl, hown, hcopes, rfl⟩
      · contradiction
    | message text => contradiction
    | closed code reason =>
      obtain ⟨-, htold⟩ := mem_toldAfterState hmem
      cases htold
    | failed message =>
      obtain ⟨-, htold⟩ := mem_toldAfterState hmem
      cases htold

omit [MessageHandler η] in
/-- News are in the journal before the listener reacts to them. -/
theorem prefix_tell (c : Connection γ τ η ℓ) (t : Nat) (on : Option Nat) (news : News) :
    c.journal ++ [.told t news c.standing] <+: (c.tell t on news).2.journal :=
  journal_prefix_steps (steps_react c t on news)

omit [MessageHandler η] in
/-- The first thing that the listener is told of an opening is the state of
the transport. -/
theorem prefix_handleOpened (hown : c.own = some t) :
    c.journal ++ [.told t (.state (c.stateOn (some t))) c.standing] <+:
      (c.handleOpened t).journal := by
  have hstate : c.journal ++ [.told t (.state (c.stateOn (some t))) c.standing] <+:
      (c.tellState t).2.journal := by
    rw [tellState, if_pos hown]
    exact prefix_tell c t c.shared _
  have hthen : (c.tellState t).2.journal <+: (c.tellThen t (some t) .opened).2.journal := by
    unfold tellThen
    split
    · exact (List.prefix_append ..).trans (prefix_tell _ t (some t) .opened)
    · exact List.prefix_rfl
  rw [handleOpened_eq hown]
  split
  · exact hstate.trans hthen
  · exact (hstate.trans hthen).trans (List.prefix_append ..)

/-- What the listener is told first as the opening of the current transport
is handled. -/
theorem head?_entries (h : c.handling? a = some (⟨t, .opened⟩, d)) (hown : d.own = some t) :
    (c.entries a).head? = some (.told t (.state (c.stateOn (some t))) c.standing) := by
  obtain ⟨queue, rfl⟩ := eq_of_handling h
  obtain ⟨more, hmore⟩ := prefix_handleOpened hown
  have hact := journal_act c a
  rw [act_of_handling h] at hact
  have hentries := List.append_cancel_left
    (hact.symm.trans (hmore.symm.trans (List.append_assoc ..)))
  rw [hentries]
  rfl

/-! ## Runs -/

/-- A transport that was open at some moment of a run is not connecting at
its end. -/
theorem WasOpen.code_le (law : Transport.Forward τ) (hacts : ∀ a ∈ acts, a.Forward)
    (h : c₀.WasOpen acts t) :
    ReadyState.opened.code ≤ ((c₀.after acts).stateOn (some t)).code := by
  obtain ⟨moment, ⟨later, rfl⟩, hopened⟩ := h
  have honward := onward_after law (c₀.after moment)
    fun a ha => hacts a (List.mem_append_right moment ha)
  have ht : t < (c₀.after moment).transports.length := by
    by_contra hmissing
    have hnone := List.getElem?_eq_none (Nat.le_of_not_lt hmissing)
    simp only [stateOn, Option.bind_some, hnone] at hopened
    contradiction
  rw [after_append, ← hopened]
  exact honward.stateOn ht

/-- Once the connection was asked to close, the transport that was the
current one then is closing or closed. -/
theorem closing_of_disconnect (hnew : (c₀.after before).Newest) (law : Transport.Forward τ)
    (closes : Transport.Closes τ) {later : List (Action γ τ η ℓ)}
    (hlater : ∀ a ∈ later, a.Forward) (ht : t + 1 = (c₀.after before).transports.length) :
    ReadyState.closing.code ≤
      ((c₀.after (before ++ .disconnect :: later)).stateOn (some t)).code := by
  have hown := (hnew.own_eq_some_iff t).mpr ht
  have hclosing := code_of_disconnect law closes hown (by omega)
  have honward := onward_after law (c₀.after before).disconnect hlater
  rw [after_append, after_cons]
  refine Nat.le_trans hclosing (honward.stateOn ?_)
  rw [(quiet_disconnect _).length]
  omega

/-- A transport that was open at some moment of such a run was open before
the request. -/
theorem WasOpen.of_disconnect {later : List (Action γ τ η ℓ)}
    (h : c₀.WasOpen (before ++ .disconnect :: later) t) (hnew : (c₀.after before).Newest)
    (law : Transport.Forward τ) (closes : Transport.Closes τ) (hlater : ∀ a ∈ later, a.Forward)
    (ht : t + 1 = (c₀.after before).transports.length) : c₀.WasOpen before t := by
  obtain ⟨moment, hmoment, hopened⟩ := h
  obtain hbefore | ⟨more, rfl⟩ :=
    List.prefix_or_prefix_of_prefix hmoment (List.prefix_append before _)
  · exact ⟨moment, hbefore, hopened⟩
  · cases more with
    | nil => exact ⟨before, List.prefix_rfl, List.append_nil before ▸ hopened⟩
    | cons b more =>
      -- the moment is after the request
      obtain ⟨rfl, hmore⟩ :=
        List.cons_prefix_cons.mp ((List.prefix_append_right_inj before).mp hmoment)
      have hclosing := closing_of_disconnect hnew law closes
        (fun a ha => hlater a (hmore.subset ha)) ht
      rw [hopened] at hclosing
      contradiction

variable {url : String} {k : γ} {h : η} {l : ℓ}

/-- How a transport stands when the listener is told that it has opened.
Let the states of transports go forward, and openings be reported of open
transports.  Then in every run the listener is told so of the current
transport only, which was open at an earlier moment.  It is told the state
of the transport first, and both at that time and when it is told of the
opening the transport is open, closing or closed.  If the connection was
asked to close and no transport was made since, it is closing or closed, and
was open before. -/
theorem openings_after (hstart : ofUrl url k h l = .ok c₀) (law : Transport.Forward τ)
    (closes : Transport.Closes τ) (hacts : ∀ a ∈ acts, a.Forward)
    (honest : c₀.ReportsOpenings acts) {rest : List (Action γ τ η ℓ)}
    (hrun : acts = before ++ a :: rest) {standing : Standing}
    (hopened : .told t .opened standing ∈ (c₀.after before).entries a) :
    standing.current = some t ∧ c₀.WasOpen before t ∧
    ∃ s₀ s, (c₀.after before).stateOn (some t) = s₀ ∧ standing.states[t]? = some s ∧
      ReadyState.opened.code ≤ s₀.code ∧ s₀.code ≤ s.code ∧
      ((c₀.after before).entries a).head? =
        some (.told t (.state s₀) (c₀.after before).standing) ∧
      ∀ earlier later, before = earlier ++ .disconnect :: later →
        (c₀.after before).transports.length = (c₀.after earlier).transports.length →
        ReadyState.closing.code ≤ s₀.code ∧ c₀.WasOpen earlier t := by
  have hnewest : ∀ acts, (c₀.after acts).Newest := fun acts => (faithful_after hstart acts).1
  have hqueue : c₀.queue = [] := by
    obtain ⟨-, rfl⟩ := ofUrl_eq_ok_iff.mp hstart
    rfl
  have hforward : ∀ b ∈ before, b.Forward := fun b hb => hacts b (hrun ▸ List.mem_append_left _ hb)
  obtain ⟨d, hhandling, hown, hcopes, rfl⟩ := opened_of_mem_entries hopened
  have hwas := wasOpen_of_handling hqueue honest hrun hhandling
  have hcode := hwas.code_le law hforward
  obtain ⟨queue, hd⟩ := eq_of_handling hhandling
  have hown₀ : (c₀.after before).own = some t := by
    rw [hd] at hown
    exact hown
  have ht := (hnewest before).length_of_own hown₀
  obtain ⟨x, hx⟩ := (hnewest before).exists_transport hown₀
  -- it may go forward while the listener is told its state
  have honward : (c₀.after before).Onward (d.tellState t).2 := by
    have htold := onward_steps law (steps_tellState d t)
    rw [hd] at htold ⊢
    exact htold
  obtain ⟨y, hy, hxy⟩ := honward t x hx
  have hstate := stateOn_of_getElem? hx
  refine ⟨(quiet_tellState d t).own.trans hown, hwas, Transport.state x, Transport.state y, hstate,
    ?_, hstate ▸ hcode, hxy, ?_, ?_⟩
  · simp [Connection.standing, hy]
  · exact hstate ▸ head?_entries hhandling hown
  · intro earlier later hbefore hlength
    subst hbefore
    rw [hlength] at ht
    have hlater : ∀ b ∈ later, b.Forward := fun b hb => hforward b (by simp [hb])
    exact ⟨hstate ▸ closing_of_disconnect (hnewest earlier) law closes hlater ht,
      hwas.of_disconnect (hnewest earlier) law closes hlater ht⟩

/-- A socket that is asked to close is closing then. -/
theorem socket_closes : Transport.Closes Socket := by
  intro x hx
  have hactive : x.state = .connecting ∨ x.state = .opened := hx
  show x.close.state = .closing
  rw [Socket.close, if_pos hactive]

/-- A socket opens and reports it, and the report is handled only after the
connection was asked to close. -/
def lateOpening : List (Action SocketConfig Socket RecordingHandler Recorder) :=
  [.connect, .move 0 fun x => x.tryOpen.2, .emit ⟨0, .opened⟩, .disconnect, .processNext]

/-- No step of the late opening takes a socket back. -/
theorem lateOpening_forward : ∀ a ∈ lateOpening, a.Forward := by
  simp only [lateOpening, List.forall_mem_cons, Action.Forward, List.not_mem_nil, false_implies,
    implies_true, and_true, true_and]
  intro x
  show x.state.code ≤ x.tryOpen.2.state.code
  unfold Socket.tryOpen
  split
  · next hx => simp [hx, ReadyState.code]
  · exact Nat.le_refl _

/-- The late opening is reported while the socket is open. -/
theorem reportsOpenings_lateOpening :
    let c₀ : Connection SocketConfig Socket RecordingHandler Recorder :=
      { url := "ws://a", connector := {}, handler := ⟨.ofProtocol ∅, []⟩, listener := {} }
    c₀.ReportsOpenings lateOpening := by
  intro c₀
  constructor
  · intro before later t h
    simp only [lateOpening, List.cons_eq_append_iff, List.cons.injEq, reduceCtorEq, false_and,
      and_false, Action.emit.injEq, Event.mk.injEq, and_true, List.nil_eq, List.append_eq_nil_iff,
      exists_const, or_self, or_false, ↓existsAndEq, true_and, false_or] at h
    obtain ⟨rfl, rfl, -⟩ := h
    decide +kernel
  · intro before later t h
    simp [lateOpening, List.cons_eq_append_iff] at h

/-- The listener is told that a socket has opened after the connection was
asked to close it. -/
theorem openings_after_disconnect :
    let c₀ : Connection SocketConfig Socket RecordingHandler Recorder :=
      { url := "ws://a", connector := {}, handler := ⟨.ofProtocol ∅, []⟩, listener := {} }
    ofUrl c₀.url c₀.connector c₀.handler c₀.listener = .ok c₀ ∧
      Transport.Forward Socket ∧ Transport.Closes Socket ∧ (∀ a ∈ lateOpening, a.Forward) ∧
      c₀.ReportsOpenings lateOpening ∧
      .told 0 .opened ⟨some 0, [.closing]⟩ ∈
        (c₀.after (lateOpening.take 4)).entries .processNext ∧
      c₀.WasOpen (lateOpening.take 3) 0 := by
  intro c₀
  have hstart : ofUrl c₀.url c₀.connector c₀.handler c₀.listener = .ok c₀ := rfl
  have hopened : .told 0 .opened ⟨some 0, [.closing]⟩ ∈
      (c₀.after (lateOpening.take 4)).entries .processNext := by decide +kernel
  obtain ⟨-, -, s₀, s, -, -, -, -, -, hdisconnect⟩ := openings_after hstart socket_forward
    socket_closes lateOpening_forward reportsOpenings_lateOpening rfl hopened
  exact ⟨hstart, socket_forward, socket_closes, lateOpening_forward, reportsOpenings_lateOpening,
    hopened, (hdisconnect (lateOpening.take 3) [] rfl (by decide +kernel)).2⟩

/-- The socket is closing when the listener is told that it has opened. -/
theorem opening_told_while_closing :
    let c₀ : Connection SocketConfig Socket RecordingHandler Recorder :=
      { url := "ws://a", connector := {}, handler := ⟨.ofProtocol ∅, []⟩, listener := {} }
    ofUrl c₀.url c₀.connector c₀.handler c₀.listener = .ok c₀ ∧
      Transport.Forward Socket ∧ Transport.Closes Socket ∧ (∀ a ∈ lateOpening, a.Forward) ∧
      c₀.ReportsOpenings lateOpening ∧
      (c₀.after (lateOpening.take 4)).entries .processNext =
        [.told 0 (.state .closing) ⟨some 0, [.closing]⟩, .told 0 .opened ⟨some 0, [.closing]⟩] := by
  intro c₀
  have hentries : (c₀.after (lateOpening.take 4)).entries .processNext =
      [.told 0 (.state .closing) ⟨some 0, [.closing]⟩,
        .told 0 .opened ⟨some 0, [.closing]⟩] := by decide +kernel
  exact ⟨rfl, socket_forward, socket_closes, lateOpening_forward, reportsOpenings_lateOpening,
    hentries⟩

end Connection

end PushRelay
