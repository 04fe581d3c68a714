import PushRelay.Connection.Recorder
import PushRelay.Proofs.Connection.Announcements
import PushRelay.Transport.Scripted

/-!
# PushRelay.Proofs.Connection.Closing

When a listener is told that a transport has closed.

A `closed` event of the current transport is told to the listener after
the state of the transport, and only if the listener coped with that
(`Connection.Copes`); one of a superseded transport is told in any case.
Nothing else that happens to a connection tells of a closing
(`closings_act`), so the closings that a listener was told in a run are
those of its `closed` events that found it coping, in order and once each
(`closings_after`).
-/

namespace PushRelay

/-- The closing of a transport, with the code and the reason given. -/
structure Closing where
  transport : Nat
  code : Option Nat
  reason : String
deriving DecidableEq

/-- The closing that news of transport `t` tell of. -/
def News.closing? (t : Nat) : News → Option Closing
  | .closed code reason => some ⟨t, code, reason⟩
  | _ => none

/-- The closing that an entry of a journal tells of. -/
def Entry.closing? : Entry → Option Closing
  | .told t news _ => news.closing? t
  | _ => none

/-- The closing that an event reports. -/
def Event.closing? (e : Event) : Option Closing :=
  match e.kind with
  | .closed code reason => some ⟨e.transport, code, reason⟩
  | _ => none

/-- The closings that the listener was told. -/
def closings (journal : List Entry) : List Closing := journal.filterMap Entry.closing?

/-- What tells of a closing tells of more than a state. -/
theorem closings_announcements (journal : List Entry) :
    closings (announcements journal) = closings journal := by
  have hnone : ∀ x : Entry, (if x.isAnnouncement then x.closing? else none) = x.closing? := by
    intro x
    cases x with
    | told t news standing => cases news <;> rfl
    | _ => rfl
  simp only [closings, announcements, List.filterMap_filter, hnone]

namespace Connection

variable {γ τ η ℓ : Type} [Transport τ] [Listener ℓ]

/-! ## Events -/

/-- The listener copes with the state of transport `t`, if it is told. -/
def Copes (c : Connection γ τ η ℓ) (t : Nat) : Prop :=
  c.own = some t → (c.tell t c.shared (.state (c.stateOn (some t)))).1 = true

instance (c : Connection γ τ η ℓ) (t : Nat) : Decidable (c.Copes t) :=
  inferInstanceAs (Decidable (c.own = some t → _ = true))

/-- To tell a state succeeds just where the listener copes with it. -/
theorem tellState_fst_iff {c : Connection γ τ η ℓ} {t : Nat} :
    (c.tellState t).1 = true ↔ c.Copes t := by
  unfold tellState Copes
  split
  · next hown => simp [hown]
  · next hown => simp [hown]

/-- The closings that the listener is told of an event. -/
def told (c : Connection γ τ η ℓ) (e : Event) : List Closing :=
  e.closing?.toList.filter fun k => c.Copes k.transport

/-- After its state, the closing of a transport is told. -/
theorem closings_toldAfterState (c : Connection γ τ η ℓ) (t : Nat) (news : News) :
    closings (c.toldAfterState t news) = if c.Copes t then (news.closing? t).toList else [] := by
  by_cases hcopes : c.Copes t
  · rw [toldAfterState, if_pos (tellState_fst_iff.mpr hcopes), if_pos hcopes]
    cases news <;> rfl
  · rw [toldAfterState, if_neg (mt tellState_fst_iff.mp hcopes), if_neg hcopes]
    rfl

/-- Of what is announced of an event, the closings are those that are told. -/
theorem closings_announced (c : Connection γ τ η ℓ) (e : Event) :
    closings (c.announced e) = c.told e := by
  obtain ⟨t, kind⟩ := e
  cases kind with
  | opened =>
    have hstate := closings_toldAfterState c t .opened
    simp only [News.closing?, Option.toList_none, ite_self] at hstate
    simp only [announced]
    split
    · exact hstate
    · rfl
  | message text => rfl
  | closed code reason =>
    refine (closings_toldAfterState c t (.closed code reason)).trans ?_
    by_cases hcopes : c.Copes t
    · simp [told, Event.closing?, News.closing?, hcopes]
    · simp [told, Event.closing?, hcopes]
  | failed message =>
    refine (closings_toldAfterState c t (.failed message)).trans ?_
    simp [told, Event.closing?, News.closing?]

/-! ## Runs -/

variable [MessageHandler η] [Connector γ τ]

/-- Only the handling of an event tells of a closing. -/
theorem closings_act (c : Connection γ τ η ℓ) (a : Action γ τ η ℓ) :
    closings (c.act a).2.journal =
      closings c.journal ++ ((c.handling? a).map fun x => x.2.told x.1).getD [] := by
  rw [← closings_announcements, announcements_act, ← closings_announcements c.journal]
  cases c.handling? a with
  | none => simp [closings]
  | some x =>
    rw [Option.map_some, Option.getD_some, Option.map_some, Option.getD_some, ← closings_announced]
    exact List.filterMap_append ..

/-- Handling the report of a closing does not fail, and tells the listener
of it once if it copes with the state before it. -/
theorem closing_of_handling {c d : Connection γ τ η ℓ} {a : Action γ τ η ℓ} {e : Event}
    {k : Closing} (h : c.handling? a = some (e, d)) (hk : e.closing? = some k) :
    (c.act a).1 = .ok () ∧ closings (c.act a).2.journal =
      closings c.journal ++ if d.Copes k.transport then [k] else [] := by
  constructor
  · obtain ⟨t, kind⟩ := e
    rw [act_of_handling h]
    cases kind with
    | closed code reason => rfl
    | _ => contradiction
  · rw [closings_act, h, Option.map_some, Option.getD_some, told, hk, Option.toList_some]
    by_cases hcopes : d.Copes k.transport
    · simp [hcopes]
    · simp [hcopes]

/-- In every run, handling the report of a closing does not fail, and the
listener is told of it once, with its code and reason, if the transport was
superseded or the listener copes with its state; if not, the listener is
not told of it.  And in the run as a whole the listener is told of no other
closings, and of these in order. -/
theorem closings_after (c₀ : Connection γ τ η ℓ) (acts : List (Action γ τ η ℓ)) :
    (∀ x ∈ c₀.history acts, ∀ e d k, x.1.handling? x.2 = some (e, d) → e.closing? = some k →
      (x.1.act x.2).1 = .ok () ∧ closings (x.1.act x.2).2.journal =
        closings x.1.journal ++ if d.Copes k.transport then [k] else []) ∧
    closings (c₀.after acts).journal = closings c₀.journal ++
      (c₀.history acts).flatMap fun x =>
        ((x.1.handling? x.2).map fun y => y.2.told y.1).getD [] := by
  constructor
  · intro x _ e d k h hk
    exact closing_of_handling h hk
  · induction acts generalizing c₀ with
    | nil => exact (List.append_nil _).symm
    | cons a acts ih =>
      rw [after_cons, ih, closings_act, history, List.flatMap_cons, List.append_assoc]

/-- A listener that fails at the second state it is told misses the closing of
the current transport, and is told a later one of it that was queued. -/
theorem closings_after_failure :
    let c₀ : Connection ScriptedConnector ScriptedTransport RecordingHandler Recorder :=
      { url := "ws://relay", connector := {}, handler := ⟨.ofProtocol .net, []⟩,
        listener := { failures := [(.state, 2)] } }
    let close (t : ScriptedTransport) : ScriptedTransport := { t with state := .closed }
    let e : Event := ⟨0, .closed (some 1000) "bye"⟩
    let k : Closing := ⟨0, some 1000, "bye"⟩
    let acts := [.connect, .move 0 close, .handleEvent e, .emit ⟨0, .closed none "late"⟩,
      .processNext]
    let c := c₀.after [.connect, .move 0 close]
    (c, .handleEvent e) ∈ c₀.history acts ∧ c.handling? (.handleEvent e) = some (e, c) ∧
      e.closing? = some k ∧ (c.act (.handleEvent e)).1 = .ok () ∧
      closings (c.act (.handleEvent e)).2.journal =
        closings c.journal ++ (if c.Copes 0 then [k] else []) ∧
      closings (c₀.after acts).journal = [⟨0, none, "late"⟩] := by
  intro c₀ close e k acts c
  have hmem : (c, .handleEvent e) ∈ c₀.history acts :=
    List.mem_cons_of_mem _ (List.mem_cons_of_mem _ List.mem_cons_self)
  obtain ⟨hevents, hrun⟩ := closings_after c₀ acts
  obtain ⟨hok, htold⟩ := hevents _ hmem e c k rfl rfl
  refine ⟨hmem, rfl, rfl, hok, htold, ?_⟩
  rw [hrun]
  decide +kernel

/-- A listener that fails at the state of the current transport is not told
that the transport has closed. -/
theorem closing_lost :
    let c₀ : Connection ScriptedConnector ScriptedTransport RecordingHandler Recorder :=
      { url := "ws://relay", connector := {}, handler := ⟨.ofProtocol .net, []⟩,
        listener := { failures := [(.state, 2)] } }
    let c := c₀.after [.connect, .move 0 fun t => { t with state := .closed }]
    ofUrl "ws://relay" {} ⟨.ofProtocol .net, []⟩ { failures := [(.state, 2)] } = .ok c₀ ∧
      c.own = some 0 ∧
      (c.handleEvent ⟨0, .closed (some 1000) "bye"⟩).1 = .ok () ∧
      closings (c.handleEvent ⟨0, .closed (some 1000) "bye"⟩).2.journal = [] := by
  intro c₀ c
  exact ⟨rfl, by decide +kernel, rfl, by decide +kernel⟩

end Connection

end PushRelay
