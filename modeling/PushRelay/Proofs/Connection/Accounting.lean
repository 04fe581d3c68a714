import PushRelay.Proofs.Connection.Closing
import PushRelay.Proofs.Connection.Live

/-!
# PushRelay.Proofs.Connection.Accounting

How often a transport is asked to close, and why.

1. The connection is disconnected or dropped while the transport is the
   current one (`Connection.givesUp`).
2. The listener fails at the first state of the transport, in the attempt
   that made it (`Connection.refusesFirst`).
3. The transport opens when it has been superseded (`Connection.opensLate`).
4. It opens as the current one, and the listener fails at its state or at
   its opening (`Connection.refusesOpening`).
5. The transport fails (`Connection.breaks`).

Nothing else asks a transport to close (`Connection.tally_act`), so the
requests of a run are as many as these occasions in it.
-/

namespace PushRelay

theorem toNat_eq_ite (b : Bool) : b.toNat = if b = true then 1 else 0 := by
  cases b with
  | true => rfl
  | false => rfl

namespace Connection

variable {γ τ η ℓ : Type}

/-! ## Tallies -/

/-- From `c` to `d` transport `t` was asked so often to close. -/
def Tally (t requests : Nat) (c d : Connection γ τ η ℓ) : Prop :=
  d.journal.count (.closed t) = c.journal.count (.closed t) + requests

/-- Without a new entry no transport was asked anything. -/
theorem Tally.of_journal_eq {c d : Connection γ τ η ℓ} (h : d.journal = c.journal) (t : Nat) :
    Tally t 0 c d := by
  rw [Tally, h, Nat.add_zero]

/-- Requests add up along a run. -/
theorem Tally.trans {c d e : Connection γ τ η ℓ} {t m n : Nat} (hcd : Tally t m c d)
    (hde : Tally t n d e) : Tally t (m + n) c e := by
  rw [Tally, hde, hcd, Nat.add_assoc]

/-- An entry counts if it says that the transport was asked to close. -/
theorem tally_note (c : Connection γ τ η ℓ) (e : Entry) (t : Nat) :
    Tally t (if e = .closed t then 1 else 0) c (c.note e) := by
  simp only [Tally, note, List.count_append, List.count_singleton, beq_iff_eq]

/-- An entry that is not of a closing does not count. -/
theorem tally_note_other (c : Connection γ τ η ℓ) {e : Entry} {t : Nat} (he : e ≠ .closed t) :
    Tally t 0 c (c.note e) := by
  have hnote := tally_note c e t
  rw [if_neg he] at hnote
  exact hnote

variable [Transport τ]

/-- To send asks no transport to close. -/
theorem tally_sendOn (c : Connection γ τ η ℓ) (on : Option Nat) (payload : Outbound) (t : Nat) :
    Tally t 0 c (c.sendOn on payload).2 := by
  unfold sendOn
  split
  · exact .of_journal_eq rfl t
  · split
    · exact .of_journal_eq rfl t
    · split
      · exact .of_journal_eq rfl t
      · split
        · exact .of_journal_eq rfl t
        · exact tally_note_other _ Entry.noConfusion

/-- A reaction asks no transport to close. -/
theorem tally_carryOut {α : Type} (c : Connection γ τ η ℓ) (on : Option Nat) (r : Reaction α)
    (t : Nat) : Tally t 0 c (c.carryOut on r).2 := by
  induction r generalizing c with
  | done a => exact .of_journal_eq rfl t
  | print line next ih => exact (tally_note_other c Entry.noConfusion).trans (ih _)
  | state next ih => exact ih _ _
  | send payload next ih => exact (tally_sendOn c on payload t).trans (ih _ _)

/-- A request counts for the transport that it goes to. -/
theorem tally_closeTransport (c : Connection γ τ η ℓ) (t u : Nat) :
    Tally u (if t = u then 1 else 0) c (c.closeTransport t) := by
  have hnote := tally_note (c.move t Transport.close) (.closed t) u
  simp only [Entry.closed.injEq] at hnote
  exact hnote

/-- To disconnect asks the current transport to close, if there is one. -/
theorem tally_disconnect (c : Connection γ τ η ℓ) (t : Nat) :
    Tally t (if c.own = some t then 1 else 0) c c.disconnect := by
  cases hown : c.own with
  | some u =>
    simp only [disconnect, hown, Option.some.injEq]
    exact tally_closeTransport c u t
  | none =>
    simp only [disconnect, hown, reduceCtorEq, if_false]
    exact .of_journal_eq rfl t

/-- A transport is asked to close unless something went well. -/
theorem Tally.closeUnless {c d : Connection γ τ η ℓ} {u : Nat} (h : Tally u 0 c d) (t : Nat)
    (ok : Bool) :
    Tally u (if t = u then (!ok).toNat else 0) c (if ok then d else d.closeTransport t) := by
  cases ok with
  | true =>
    rw [Bool.not_true, Bool.toNat_false, ite_self]
    exact h
  | false =>
    have hclosed := h.trans (tally_closeTransport d t u)
    rw [Nat.zero_add] at hclosed
    exact hclosed

/-! ## The listener -/

variable [Listener ℓ]

/-- The listener fails at news of transport `t`, if its sends go to `on`. -/
def fails (c : Connection γ τ η ℓ) (t : Nat) (on : Option Nat) (news : News) : Bool :=
  !((c.note (.told t news c.standing)).carryOut on (Listener.notify news c.listener)).1.1

/-- The listener fails at the state of transport `t`. -/
def failsAtState (c : Connection γ τ η ℓ) (t : Nat) : Bool :=
  c.fails t c.shared (.state (c.stateOn (some t)))

/-- The listener fails at the state of transport `t`, or at its opening, of
which it is told after the state. -/
def failsAtOpening (c : Connection γ τ η ℓ) (t : Nat) : Bool :=
  c.failsAtState t || (c.tellState t).2.fails t (some t) .opened

/-- The listener copes with what it is told unless it fails there. -/
theorem fst_tell (c : Connection γ τ η ℓ) (t : Nat) (on : Option Nat) (news : News) :
    (c.tell t on news).1 = !c.fails t on news := by
  rw [fails, Bool.not_not]
  rfl

/-- Told the state of the current transport, the listener copes unless it
fails there. -/
theorem fst_tellState {c : Connection γ τ η ℓ} {t : Nat} (hown : c.own = some t) :
    (c.tellState t).1 = !c.failsAtState t := by
  rw [tellState, if_pos hown, fst_tell, failsAtState]

/-- Told of an opening, the listener copes unless it fails at the state or at
the opening. -/
theorem fst_tellThen_opened {c : Connection γ τ η ℓ} {t : Nat} (hown : c.own = some t) :
    (c.tellThen t (some t) .opened).1 = !c.failsAtOpening t := by
  rw [tellThen, failsAtOpening, fst_tellState hown]
  cases c.failsAtState t with
  | true => rfl
  | false => exact fst_tell ..

/-- Telling the listener asks no transport to close. -/
theorem tally_tell (c : Connection γ τ η ℓ) (t : Nat) (on : Option Nat) (news : News) (u : Nat) :
    Tally u 0 c (c.tell t on news).2 := by
  have htold : Tally u 0 c ((c.note (.told t news c.standing)).carryOut on
      (Listener.notify news c.listener)).2 :=
    (tally_note_other c Entry.noConfusion).trans (tally_carryOut _ on _ u)
  simp only [tell]
  split
  · exact htold
  · exact htold.trans (tally_note_other _ Entry.noConfusion)

/-- To tell a state asks no transport to close. -/
theorem tally_tellState (c : Connection γ τ η ℓ) (t u : Nat) : Tally u 0 c (c.tellState t).2 := by
  unfold tellState
  split
  · exact tally_tell c t _ _ u
  · exact .of_journal_eq rfl u

/-- To tell the state and then more asks no transport to close. -/
theorem tally_tellThen (c : Connection γ τ η ℓ) (t : Nat) (on : Option Nat) (news : News)
    (u : Nat) : Tally u 0 c (c.tellThen t on news).2 := by
  unfold tellThen
  split
  · exact (tally_tellState c t u).trans (tally_tell _ t on news u)
  · exact tally_tellState c t u

/-! ## Events -/

/-- The opening of the current transport asks it to close if the listener
fails at one of the two things that it is told. -/
theorem tally_handleOpened {c : Connection γ τ η ℓ} {t : Nat} (hown : c.own = some t) (u : Nat) :
    Tally u (if t = u then (c.failsAtOpening t).toNat else 0) c (c.handleOpened t) := by
  have htally := (tally_tellThen c t (some t) .opened u).closeUnless t
    (c.tellThen t (some t) .opened).1
  have hfails : (!(c.tellThen t (some t) .opened).1) = c.failsAtOpening t := by
    rw [fst_tellThen_opened hown, Bool.not_not]
  rw [hfails] at htally
  rw [handleOpened_eq hown]
  exact htally

variable [MessageHandler η]

/-- What the handling of an event asks of transport `t`, in the connection
that the event finds. -/
def requestsOf (c : Connection γ τ η ℓ) (t : Nat) (e : Event) : Nat :=
  match e.kind with
  | .opened =>
    if e.transport = t then if c.own = some t then (c.failsAtOpening t).toNat else 1 else 0
  | .failed _ => if e.transport = t then 1 else 0
  | .message _ | .closed _ _ => 0

omit [MessageHandler η] in
/-- Events of other transports ask nothing of a transport. -/
theorem requestsOf_of_ne {c : Connection γ τ η ℓ} {t : Nat} {e : Event} (he : e.transport ≠ t) :
    c.requestsOf t e = 0 := by
  unfold requestsOf
  split
  · rw [if_neg he]
  · rw [if_neg he]
  · rfl
  · rfl

/-- An event asks a transport to close as often as `requestsOf` says. -/
theorem tally_handleEvent (c : Connection γ τ η ℓ) (e : Event) (t : Nat) :
    Tally t (c.requestsOf t e) c (c.handleEvent e).2 := by
  obtain ⟨u, kind⟩ := e
  cases kind with
  | opened =>
    simp only [requestsOf, handleEvent]
    by_cases hown : c.own = some u
    · have hopened := tally_handleOpened hown t
      by_cases hu : u = t
      · subst hu
        rw [if_pos rfl] at hopened ⊢
        rw [if_pos hown]
        exact hopened
      · rw [if_neg hu] at hopened ⊢
        exact hopened
    · have hlate := tally_closeTransport c u t
      rw [handleOpened, if_pos hown]
      by_cases hu : u = t
      · subst hu
        rw [if_pos rfl] at hlate ⊢
        rw [if_neg hown]
        exact hlate
      · rw [if_neg hu] at hlate ⊢
        exact hlate
  | message text =>
    simp only [handleEvent, handleMessage]
    split
    · exact .of_journal_eq rfl t
    · exact tally_carryOut c _ _ t
  | closed code reason =>
    simp only [handleEvent, handleClosed_eq]
    exact tally_tellThen c u _ _ t
  | failed message =>
    have hclosed := (tally_tellThen c u c.shared (.failed message) t).trans
      (tally_closeTransport _ u t)
    rw [Nat.zero_add] at hclosed
    simp only [handleEvent, handleFailed_eq]
    exact hclosed

/-! ## Occasions -/

/-- The connection is given up while transport `t` is the current one. -/
def givesUp (c : Connection γ τ η ℓ) (t : Nat) : Action γ τ η ℓ → Bool
  | .disconnect => c.own = some t
  | .drop => !c.dropped && c.own = some t
  | _ => false

/-- Transport `t` opens when it is not the current one. -/
def opensLate (c : Connection γ τ η ℓ) (t : Nat) (a : Action γ τ η ℓ) : Bool :=
  match c.handling? a with
  | some (⟨u, .opened⟩, d) => u = t && d.own ≠ some t
  | _ => false

/-- Transport `t` opens as the current one, and the listener fails. -/
def refusesOpening (c : Connection γ τ η ℓ) (t : Nat) (a : Action γ τ η ℓ) : Bool :=
  match c.handling? a with
  | some (⟨u, .opened⟩, d) => u = t && d.own = some t && d.failsAtOpening t
  | _ => false

/-- Transport `t` fails. -/
def breaks (c : Connection γ τ η ℓ) (t : Nat) (a : Action γ τ η ℓ) : Bool :=
  match c.handling? a with
  | some (⟨u, .failed _⟩, _) => u = t
  | _ => false

variable [Connector γ τ]

/-- Transport `t` is made, and the listener fails at its first state. -/
def refusesFirst (c : Connection γ τ η ℓ) (t : Nat) : Action γ τ η ℓ → Bool
  | .connect =>
    match Connector.connect c.url c.connector with
    | (.ok x, k) =>
      c.state = .closed && c.transports.length = t && (c.install x k).failsAtState t
    | (.error _, _) => false
  | _ => false

/-- How often an action should ask transport `t` to close. -/
def requests (c : Connection γ τ η ℓ) (t : Nat) (a : Action γ τ η ℓ) : Nat :=
  (c.givesUp t a).toNat + (c.refusesFirst t a).toNat + (c.opensLate t a).toNat +
    (c.refusesOpening t a).toNat + (c.breaks t a).toNat

omit [MessageHandler η] in
/-- The handling of an event is no other occasion than the event. -/
theorem requests_of_handling {c d : Connection γ τ η ℓ} {a : Action γ τ η ℓ} {e : Event}
    (h : c.handling? a = some (e, d)) (t : Nat) : c.requests t a = d.requestsOf t e := by
  have hgives : c.givesUp t a = false := by
    cases a with
    | handleEvent e => rfl
    | processNext => rfl
    | _ => contradiction
  have hfirst : c.refusesFirst t a = false := by
    cases a with
    | connect => contradiction
    | _ => rfl
  obtain ⟨u, kind⟩ := e
  simp only [requests, requestsOf, hgives, hfirst, opensLate, refusesOpening, breaks, h]
  cases kind with
  | opened =>
    by_cases ht : u = t
    · by_cases hown : d.own = some t
      · simp [ht, hown]
      · simp [ht, hown]
    · simp [ht]
  | message text => rfl
  | closed code reason => rfl
  | failed message =>
    by_cases ht : u = t
    · simp [ht]
    · simp [ht]

omit [MessageHandler η] in
/-- An action that has no event handled asks only by giving up a transport or
by refusing a first state. -/
theorem requests_of_no_event {c : Connection γ τ η ℓ} {a : Action γ τ η ℓ}
    (h : c.handling? a = none) (t : Nat) :
    c.requests t a = (c.givesUp t a).toNat + (c.refusesFirst t a).toNat := by
  simp only [requests, opensLate, refusesOpening, breaks, h]
  rfl

/-! ## Actions -/

omit [MessageHandler η] in
/-- An attempt to connect asks a transport to close if it has made it and
the listener fails at its state. -/
theorem tally_connect (c : Connection γ τ η ℓ) (t : Nat) :
    Tally t (c.refusesFirst t (.connect : Action γ τ η ℓ)).toNat c c.connect.2 := by
  cases hk : Connector.connect c.url c.connector with
  | mk result k =>
    by_cases hc : c.state = .closed
    · cases result with
      | error e =>
        rw [connect_of_error hc hk, refusesFirst, hk]
        exact .of_journal_eq rfl t
      | ok x =>
        have hown : (c.install x k).own = some c.transports.length := rfl
        have hmade : Tally t 0 c (c.install x k) := tally_note_other _ Entry.noConfusion
        have htold := hmade.trans (tally_tellState (c.install x k) c.transports.length t)
        have htally := htold.closeUnless c.transports.length
          ((c.install x k).tellState c.transports.length).1
        rw [connect_of_closed hc hk, refusesFirst, hk]
        by_cases ht : c.transports.length = t
        · subst ht
          simpa [fst_tellState hown, hc] using htally
        · simpa [ht] using htally
    · rw [connect_of_not_closed hc, refusesFirst, hk]
      cases result with
      | error e => exact .of_journal_eq rfl t
      | ok x =>
        simp only [hc, decide_false, Bool.false_and, Bool.toNat_false]
        exact .of_journal_eq rfl t

/-- An action asks a transport to close as often as it is an occasion to. -/
theorem tally_act (c : Connection γ τ η ℓ) (a : Action γ τ η ℓ) (t : Nat) :
    Tally t (c.requests t a) c (c.act a).2 := by
  cases hhandling : c.handling? a with
  | some x =>
    obtain ⟨e, d⟩ := x
    have htaken : Tally t 0 c d := by
      obtain ⟨queue, rfl⟩ := eq_of_handling hhandling
      exact .of_journal_eq rfl t
    have hhandled := htaken.trans (tally_handleEvent d e t)
    rw [Nat.zero_add] at hhandled
    rw [requests_of_handling hhandling, act_of_handling hhandling]
    exact hhandled
  | none =>
    rw [requests_of_no_event hhandling]
    cases a with
    | connect =>
      have hgives : c.givesUp t (.connect : Action γ τ η ℓ) = false := rfl
      rw [hgives, Bool.toNat_false, Nat.zero_add]
      exact tally_connect c t
    | disconnect =>
      have htally := tally_disconnect c t
      simpa [givesUp, refusesFirst, act, toNat_eq_ite] using htally
    | drop =>
      by_cases hdropped : c.dropped = true
      · have hkept : Tally t 0 c c.drop := .of_journal_eq (by rw [drop, if_pos hdropped]) t
        simpa [givesUp, refusesFirst, act, hdropped] using hkept
      · have hdrop : c.drop.journal = c.disconnect.journal := by rw [drop, if_neg hdropped]
        have htally := (tally_disconnect c t).trans (.of_journal_eq hdrop t)
        simpa [givesUp, refusesFirst, act, hdropped, toNat_eq_ite] using htally
    | send payload => exact tally_sendOn c _ payload t
    | senderSend payload => exact tally_sendOn c _ payload t
    | setListener listener => exact .of_journal_eq rfl t
    | handleEvent e => contradiction
    | emit e =>
      simp only [act, emit]
      split
      · exact .of_journal_eq rfl t
      · exact .of_journal_eq rfl t
    | processNext =>
      have hnext : c.nextEvent? = none := hhandling
      rw [act, processNext?, hnext]
      exact .of_journal_eq rfl t
    | move i f => exact .of_journal_eq rfl t
    | arrange f => exact .of_journal_eq rfl t
    | instruct f => exact .of_journal_eq rfl t

/-! ## Runs -/

omit [MessageHandler η] in
/-- Only a transport that was just made is refused at its first state. -/
theorem opens_of_refusesFirst {c : Connection γ τ η ℓ} {a : Action γ τ η ℓ} {t : Nat}
    (h : c.refusesFirst t a = true) : c.opens a = true ∧ c.transports.length = t := by
  cases a with
  | connect =>
    cases hk : Connector.connect c.url c.connector with
    | mk result k =>
      cases result with
      | error e => simp [refusesFirst, hk] at h
      | ok x =>
        simp only [refusesFirst, hk, Bool.and_eq_true, decide_eq_true_eq] at h
        simp [opens, hk, h.1, Except.isOk, Except.toBool]
  | _ => contradiction

/-- A transport is made once: there is one attempt at most that made it. -/
theorem countP_refusesFirst_le (c : Connection γ τ η ℓ) (acts : List (Action γ τ η ℓ)) (t : Nat) :
    (c.history acts).countP (fun x => x.1.refusesFirst t x.2) ≤
      if c.transports.length ≤ t then 1 else 0 := by
  induction acts generalizing c with
  | nil => exact Nat.zero_le _
  | cons a acts ih =>
    have hnext := ih (c.act a).2
    have hlength := length_transports_act c a
    rw [history, List.countP_cons]
    dsimp only
    by_cases hfirst : c.refusesFirst t a = true
    · have hmade := opens_of_refusesFirst hfirst
      rw [hmade.1, if_pos rfl] at hlength
      rw [if_neg (by omega)] at hnext
      rw [if_pos hfirst, if_pos (Nat.le_of_eq hmade.2)]
      omega
    · have hmono : c.transports.length ≤ (c.act a).2.transports.length := by omega
      rw [if_neg hfirst]
      by_cases hlater : c.transports.length ≤ t
      · rw [if_pos hlater]
        split at hnext
        · exact hnext
        · omega
      · rw [if_neg (by omega)] at hnext
        rw [if_neg hlater]
        exact hnext

omit [MessageHandler η] in
/-- To connect fails only where the connector was asked and failed. -/
theorem connect_eq_error_iff {c : Connection γ τ η ℓ} {e : RelayError} :
    c.connect.1 = .error e ↔
      c.state = .closed ∧ (Connector.connect c.url c.connector).1 = .error e := by
  by_cases hc : c.state = .closed
  · cases hk : Connector.connect c.url c.connector with
    | mk result k =>
      cases result with
      | error e' => rw [connect_of_error hc hk]; simp [hc]
      | ok x => rw [connect_of_closed hc hk]; simp
  · rw [connect_of_not_closed hc]
    simp [hc]

/-- In every run the requests that a transport closes are accounted for: one
whenever the connection is given up while the transport is the current one,
one if the listener failed at its state in the attempt that made it, one
whenever it opens late, one whenever it opens and the listener fails, and
one whenever it fails itself.  No message, no closing and no event of
another transport makes one.  The errors of the listener go no further: an
attempt to connect fails only if the connector does, and of events only a
message can fail. -/
theorem closeRequests_after (c₀ : Connection γ τ η ℓ) (acts : List (Action γ τ η ℓ)) (t : Nat) :
    (c₀.after acts).journal.count (.closed t) = c₀.journal.count (.closed t) +
      ((c₀.history acts).countP (fun x => x.1.givesUp t x.2) +
        (c₀.history acts).countP (fun x => x.1.refusesFirst t x.2) +
        (c₀.history acts).countP (fun x => x.1.opensLate t x.2) +
        (c₀.history acts).countP (fun x => x.1.refusesOpening t x.2) +
        (c₀.history acts).countP (fun x => x.1.breaks t x.2)) ∧
    (c₀.history acts).countP (fun x => x.1.refusesFirst t x.2) ≤ 1 ∧
    (∀ c a e d, (c, a) ∈ c₀.history acts → c.handling? a = some (e, d) →
      (∃ text, e.kind = .message text) ∨ (∃ code reason, e.kind = .closed code reason) ∨
        e.transport ≠ t →
      (c.act a).2.journal.count (.closed t) = c.journal.count (.closed t)) ∧
    (∀ c e, (c, .connect) ∈ c₀.history acts → c.connect.1 = .error e →
      c.state = .closed ∧ (Connector.connect c.url c.connector).1 = .error e) ∧
    (∀ c a e d fault, (c, a) ∈ c₀.history acts → c.handling? a = some (e, d) →
      (c.act a).1 = .error fault → ∃ text, e.kind = .message text) := by
  refine ⟨?accounted, ?once, ?harmless, ?connecting, ?handled⟩
  case accounted =>
    induction acts generalizing c₀ with
    | nil => rfl
    | cons a acts ih =>
      rw [after_cons, ih, tally_act c₀ a t, history]
      simp only [List.countP_cons, requests, toNat_eq_ite]
      omega
  case once =>
    have hle := countP_refusesFirst_le c₀ acts t
    split at hle <;> omega
  case harmless =>
    intro c a e d _ h hharmless
    rw [tally_act c a t, requests_of_handling h]
    obtain ⟨text, hkind⟩ | ⟨code, reason, hkind⟩ | hother := hharmless
    · simp only [requestsOf, hkind, Nat.add_zero]
    · simp only [requestsOf, hkind, Nat.add_zero]
    · rw [requestsOf_of_ne hother, Nat.add_zero]
  case connecting =>
    intro c e _ herror
    exact connect_eq_error_iff.mp herror
  case handled =>
    intro c a e d fault _ h herror
    rw [act_of_handling h] at herror
    obtain ⟨u, kind⟩ := e
    cases kind with
    | message text => exact ⟨text, rfl⟩
    | _ => contradiction

/-- The listener fails at the state of the first transport and at the opening
of the second one, which then fails, is disconnected and dropped; the first
one opens late, and its closing, a broken message and an attempt that the
connector refuses close nothing. -/
theorem closeRequests_after_failures :
    let c₀ : Connection ScriptedConnector ScriptedTransport RecordingHandler Recorder :=
      { url := "ws://relay", connector := {}, handler := ⟨.ofProtocol .net, []⟩,
        listener := { failures := [(.state, 1), (.opened, 1)] } }
    let state (s : ReadyState) (t : ScriptedTransport) : ScriptedTransport := { t with state := s }
    let late : Event := ⟨0, .closed none "late"⟩
    let before := [.connect, .move 0 (state .closed), .arrange fun k => { k with failing := true },
      .connect, .connect, .handleEvent ⟨0, .opened⟩, .move 1 (state .opened),
      .handleEvent ⟨1, .opened⟩, .emit ⟨1, .failed "broken"⟩, .processNext]
    let acts := before ++ [.handleEvent late, .handleEvent ⟨1, .message "["⟩, .disconnect, .drop]
    let c := c₀.after before
    (c₀.after acts).journal.count (.closed 0) = 2 ∧
      (c₀.after acts).journal.count (.closed 1) = 4 ∧
      (c, .handleEvent late) ∈ c₀.history acts ∧ c.handling? (.handleEvent late) = some (late, c) ∧
      (∃ code reason, late.kind = .closed code reason) ∧
      (c.act (.handleEvent late)).2.journal.count (.closed 0) = c.journal.count (.closed 0) := by
  intro c₀ state late before acts c
  obtain ⟨hfirst, -, hharmless, -⟩ := closeRequests_after c₀ acts 0
  obtain ⟨hsecond, -⟩ := closeRequests_after c₀ acts 1
  have hmem : (c, .handleEvent late) ∈ c₀.history acts := mem_history_append ..
  have hhandling : c.handling? (.handleEvent late) = some (late, c) := rfl
  have hkind : ∃ code reason, late.kind = .closed code reason := ⟨none, "late", rfl⟩
  have hsame := hharmless c _ late c hmem hhandling (.inr (.inl hkind))
  have htwo : (c₀.after acts).journal.count (.closed 0) = 2 := by
    rw [hfirst]
    decide +kernel
  have hfour : (c₀.after acts).journal.count (.closed 1) = 4 := by
    rw [hsecond]
    decide +kernel
  exact ⟨htwo, hfour, hmem, hhandling, hkind, hsame⟩

end Connection

end PushRelay
