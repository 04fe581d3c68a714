import Mathlib.Tactic.SplitIfs
import PushRelay.Transport.Socket

/-!
# PushRelay.Proofs.Transport.Commands

The queue of commands of a transport over a socket, as long as its task
takes them.

1. A command to close is queued by a call that finds the transport
   connecting or open, and takes it past both for good; so there is one at
   most, and no frame comes after it (`idle_of_past`).
2. Before it the queue holds the frames of the sends that were answered by
   yes, in order (`commands_eq`).

The task moves the state by itself, but only forward.
-/

namespace PushRelay

namespace Socket

/-! ## Runs -/

/-- What happens to a transport whose task takes commands. -/
inductive Action where
  | tryOpen
  | send (frame : String)
  | close
  /-- the task sets the state -/
  | setState (state : ReadyState)
deriving DecidableEq

def act (s : Socket) : Action → Socket
  | .tryOpen => s.tryOpen.2
  | .send frame => (s.send frame).2
  | .close => s.close
  | .setState state => s.setState state

/-- The transport after a run of actions. -/
def after (s : Socket) (acts : List Action) : Socket := acts.foldl act s

/-- The actions of a run, each with the transport that it found. -/
def history (s : Socket) : List Action → List (Socket × Action)
  | [] => []
  | a :: acts => (s, a) :: (s.act a).history acts

/-- The task sets the state to one of the last two, and never back. -/
def Permits (s : Socket) : Action → Prop
  | .setState state => (state = .closing ∨ state = .closed) ∧ s.state.code ≤ state.code
  | .tryOpen | .send _ | .close => True

instance (s : Socket) (a : Action) : Decidable (s.Permits a) := by
  cases a <;> unfold Permits <;> infer_instance

/-- The frame that an action has accepted. -/
def frame? : Socket × Action → Option String
  | (s, .send frame) => if (s.send frame).1.isOk then some frame else none
  | _ => none

/-- The frames that a run has accepted, in order. -/
def accepted (s : Socket) (acts : List Action) : List String := (s.history acts).filterMap frame?

/-- A call to close finds the transport connecting or open. -/
def ends : Socket × Action → Bool
  | (s, .close) => s.state = .connecting ∨ s.state = .opened
  | _ => false

variable {s : Socket} {a : Action} {acts : List Action} {frame : String}

/-- Only a close ends the connecting or open state. -/
theorem eq_close_of_ends (h : ends (s, a) = true) : a = .close := by
  cases a with
  | close => rfl
  | tryOpen | send frame | setState state => contradiction

/-- A run can be cut anywhere. -/
theorem after_append (s : Socket) (before later : List Action) :
    s.after (before ++ later) = (s.after before).after later :=
  List.foldl_append

/-- So can its history. -/
theorem history_append (s : Socket) (before later : List Action) :
    s.history (before ++ later) = s.history before ++ (s.after before).history later := by
  induction before generalizing s with
  | nil => rfl
  | cons a before ih => exact congrArg _ (ih (s.act a))

/-- A run in which the task keeps to its part is one such run after another. -/
theorem permits_append {before later : List Action} :
    (∀ x ∈ s.history (before ++ later), x.1.Permits x.2) ↔
      (∀ x ∈ s.history before, x.1.Permits x.2) ∧
        ∀ x ∈ (s.after before).history later, x.1.Permits x.2 := by
  rw [history_append, List.forall_mem_append]

/-- An action of a run found what those before it left. -/
theorem exists_of_mem_history {x : Socket × Action} (h : x ∈ s.history acts) :
    ∃ before later, acts = before ++ x.2 :: later ∧ x.1 = s.after before := by
  induction acts generalizing s with
  | nil => exact absurd h List.not_mem_nil
  | cons a acts ih =>
    cases List.mem_cons.mp h with
    | inl h =>
      subst h
      exact ⟨[], acts, rfl, rfl⟩
    | inr h =>
      obtain ⟨before, later, rfl, hx⟩ := ih h
      exact ⟨a :: before, later, rfl, hx⟩

/-- What ends a run was asked for in it. -/
theorem close_mem_of_ends {x : Socket × Action} (hx : x ∈ s.history acts) (h : ends x = true) :
    .close ∈ acts := by
  obtain ⟨before, later, rfl, -⟩ := exists_of_mem_history hx
  rw [eq_close_of_ends h]
  simp

/-! ## One action -/

/-- To send does not take a socket back. -/
theorem code_le_send (s : Socket) (frame : String) :
    s.state.code ≤ (s.send frame).2.state.code := by
  unfold send
  split_ifs <;> simp

/-- To close does not take it back. -/
theorem code_le_close (s : Socket) : s.state.code ≤ s.close.state.code := by
  unfold close
  split
  · next hactive => rcases hactive with h | h <;> simp [h, ReadyState.code]
  · simp

/-- To open does not take it back. -/
theorem code_le_tryOpen (s : Socket) : s.state.code ≤ s.tryOpen.2.state.code := by
  unfold tryOpen
  split
  · next hconnecting => simp [hconnecting, ReadyState.code]
  · simp

/-- The state never goes back. -/
theorem code_le_act (h : s.Permits a) : s.state.code ≤ (s.act a).state.code := by
  cases a with
  | tryOpen => exact code_le_tryOpen s
  | send frame => exact code_le_send s frame
  | close => exact code_le_close s
  | setState state => exact h.2

/-- A frame is queued if the transport is open and the frame is short enough,
which is looked at in this order; else nothing changes. -/
theorem send_eq (hattached : s.attached = true) (frame : String) :
    s.send frame = if s.state ≠ .opened then (.error .connectionClosed, s)
      else if s.maxFrame < frame.utf8ByteSize then
        (.error (.frameTooLarge frame.utf8ByteSize s.maxFrame), s)
      else (.ok (), { s with commands := s.commands ++ [.send frame] }) := by
  rw [send, if_pos hattached]

/-- The transport is asked to close if it is connecting or open; else nothing
changes. -/
theorem close_eq (hattached : s.attached = true) :
    s.close = if ends (s, .close) then
      { s with state := .closing, commands := s.commands ++ [.close] } else s := by
  simp only [close, ends, hattached, if_true, decide_eq_true_eq]

/-- Neither the limit nor the task is changed by a run. -/
theorem act_fixed (s : Socket) (a : Action) :
    (s.act a).attached = s.attached ∧ (s.act a).maxFrame = s.maxFrame := by
  cases a with
  | tryOpen =>
    simp only [act, tryOpen]
    split <;> exact ⟨rfl, rfl⟩
  | send frame =>
    simp only [act, send]
    split_ifs <;> exact ⟨rfl, rfl⟩
  | close =>
    simp only [act, close]
    split_ifs <;> exact ⟨rfl, rfl⟩
  | setState state => exact ⟨rfl, rfl⟩

/-- What an action adds to the queue. -/
theorem commands_act (hattached : s.attached = true) (a : Action) :
    (s.act a).commands = s.commands ++
      ((frame? (s, a)).toList.map .send ++ if ends (s, a) then [.close] else []) := by
  cases a with
  | tryOpen =>
    simp only [act, tryOpen, frame?, ends]
    split <;> simp
  | send frame =>
    simp only [act, frame?, ends, send_eq hattached]
    split_ifs <;> simp_all [Except.isOk, Except.toBool]
  | close =>
    simp only [act, frame?, close_eq hattached]
    split <;> simp_all
  | setState state => simp [act, setState, frame?, ends]

/-! ## Past the opening -/

/-- The transport is closing or closed. -/
def Past (s : Socket) : Prop := ReadyState.closing.code ≤ s.state.code

instance (s : Socket) : Decidable s.Past := inferInstanceAs (Decidable (_ ≤ _))

/-- A socket that is past its opening stays so. -/
theorem Past.act (h : s.Past) (ha : s.Permits a) : (s.act a).Past :=
  Nat.le_trans h (code_le_act ha)

/-- Past its opening it is not open. -/
theorem Past.ne_opened (h : s.Past) : s.state ≠ .opened := by
  intro hopened
  simp [Past, hopened, ReadyState.code] at h

/-- Past its opening it does not connect. -/
theorem Past.ne_connecting (h : s.Past) : s.state ≠ .connecting := by
  intro hconnecting
  simp [Past, hconnecting, ReadyState.code] at h

/-- A call to close leaves no transport that is connecting or open. -/
theorem past_close (s : Socket) : s.close.Past := by
  unfold close
  split
  · exact Nat.le_refl _
  · next hpast =>
    obtain ⟨hconnecting, hopened⟩ := not_or.mp hpast
    cases hstate : s.state <;> simp_all [Past, ReadyState.code]

/-- From then on no frame is accepted, and no call to close does anything. -/
theorem Past.frame?_eq_none (h : s.Past) (a : Action) : frame? (s, a) = none := by
  cases a with
  | send frame => simp [frame?, send, h.ne_opened, Except.isOk, Except.toBool]
  | tryOpen | close | setState state => rfl

/-- Past its opening nothing ends it again. -/
theorem Past.ends_eq_false (h : s.Past) (a : Action) : ends (s, a) = false := by
  cases a with
  | close => simp [ends, h.ne_opened, h.ne_connecting]
  | tryOpen | send frame | setState state => rfl

/-- So in a run from then on. -/
theorem idle_of_past (h : s.Past) (hforward : ∀ x ∈ s.history acts, x.1.Permits x.2) :
    s.accepted acts = [] ∧ (s.history acts).countP ends = 0 := by
  induction acts generalizing s with
  | nil => exact ⟨rfl, rfl⟩
  | cons a acts ih =>
    obtain ⟨ha, hrest⟩ := List.forall_mem_cons.mp hforward
    obtain ⟨haccepted, hends⟩ := ih (h.act ha) hrest
    constructor
    · rw [accepted, history, List.filterMap_cons_none (h.frame?_eq_none a)]
      exact haccepted
    · rw [history, List.countP_cons_of_neg (by simp [h.ends_eq_false a])]
      exact hends

/-! ## Whole runs -/

/-- What a socket was made with does not change. -/
theorem after_fixed (s : Socket) (acts : List Action) :
    (s.after acts).attached = s.attached ∧ (s.after acts).maxFrame = s.maxFrame := by
  induction acts generalizing s with
  | nil => exact ⟨rfl, rfl⟩
  | cons a acts ih =>
    obtain ⟨hattached, hmax⟩ := ih (s.act a)
    obtain ⟨hattached', hmax'⟩ := act_fixed s a
    exact ⟨hattached.trans hattached', hmax.trans hmax'⟩

/-- In every run a socket goes forward only. -/
theorem code_le_after (hforward : ∀ x ∈ s.history acts, x.1.Permits x.2) :
    s.state.code ≤ (s.after acts).state.code := by
  induction acts generalizing s with
  | nil => exact Nat.le_refl _
  | cons a acts ih =>
    obtain ⟨ha, hrest⟩ := List.forall_mem_cons.mp hforward
    exact Nat.le_trans (code_le_act ha) (ih hrest)

/-- After a call to close the transport is past the opening. -/
theorem past_after_close (hforward : ∀ x ∈ s.history acts, x.1.Permits x.2)
    (hclose : .close ∈ acts) : (s.after acts).Past := by
  obtain ⟨before, later, rfl⟩ := List.append_of_mem hclose
  have hlater := (permits_append.mp hforward).2
  rw [after_append]
  exact Nat.le_trans (past_close _) (code_le_after (List.forall_mem_cons.mp hlater).2)

/-- What a run adds to the queue: the frames that it has accepted, and a
command to close if there was a call for it, which is then the last. -/
theorem commands_eq (hattached : s.attached = true)
    (hforward : ∀ x ∈ s.history acts, x.1.Permits x.2) :
    (s.after acts).commands = s.commands ++ ((s.accepted acts).map .send ++
        List.replicate ((s.history acts).countP ends) .close) ∧
      (s.history acts).countP ends ≤ 1 := by
  induction acts generalizing s with
  | nil => simp [after, accepted, history]
  | cons a acts ih =>
    obtain ⟨ha, hrest⟩ := List.forall_mem_cons.mp hforward
    obtain ⟨hcommands, hle⟩ := ih ((act_fixed s a).1.trans hattached) hrest
    have hafter : s.after (a :: acts) = (s.act a).after acts := rfl
    have haccepted : s.accepted (a :: acts) =
        (frame? (s, a)).toList ++ (s.act a).accepted acts := by
      simp only [accepted, history, List.filterMap_cons]
      cases frame? (s, a) <;> rfl
    rw [hafter, hcommands, commands_act hattached, haccepted, history]
    cases hends : ends (s, a) with
    | false =>
      rw [List.countP_cons_of_neg (by simp [hends])]
      exact ⟨by simp, hle⟩
    | true =>
      -- the call for it takes the transport past the opening, so the rest is idle
      obtain rfl := eq_close_of_ends hends
      have hpast : (s.act .close).Past := past_close s
      obtain ⟨hidle, hnone⟩ := idle_of_past hpast hrest
      rw [List.countP_cons_of_pos hends, hidle, hnone]
      simp [frame?]

/-- Once there is a command to close in the queue, nothing is queued. -/
theorem commands_of_close_mem (hattached : s.attached = true) (hempty : s.commands = [])
    {before later : List Action}
    (hforward : ∀ x ∈ s.history (before ++ later), x.1.Permits x.2)
    (hclose : .close ∈ (s.after before).commands) :
    (s.after (before ++ later)).commands = (s.after before).commands := by
  obtain ⟨hbefore, hlater⟩ := permits_append.mp hforward
  have hends : 0 < (s.history before).countP ends := by
    rw [(commands_eq hattached hbefore).1, hempty] at hclose
    simpa [Nat.pos_iff_ne_zero] using hclose
  obtain ⟨x, hx, hx'⟩ := List.countP_pos_iff.mp hends
  have hpast := past_after_close hbefore (close_mem_of_ends hx hx')
  obtain ⟨hidle, hnone⟩ := idle_of_past hpast hlater
  have hattached' := (after_fixed s before).1.trans hattached
  rw [after_append, (commands_eq hattached' hlater).1, hidle, hnone]
  simp

/-- A socket that was made is attached and has no commands. -/
theorem connect_eq_ok {config : SocketConfig} {url : String} (h : connect config url = .ok s) :
    s.attached = true ∧ s.maxFrame = config.maxFrame ∧ s.commands = [] := by
  unfold connect at h
  split at h
  · contradiction
  · cases h
    exact ⟨rfl, rfl, rfl⟩

/-- The queue of a new transport, in every run in which its task takes
commands and sets the state only forward.

1. It holds the frames of the sends that were answered by yes, in order, and
   behind them a command to close for the one call that found the transport
   connecting or open, if there was one.
2. From then on nothing is queued.
3. A frame is queued exactly if the transport is open and the frame is not
   too long; otherwise nothing changes.
4. Only that call to close changes anything.
5. The state never goes back, and after a call to close the transport is not
   open. -/
theorem commands_after {config : SocketConfig} {url : String} {s₀ : Socket}
    (hmade : connect config url = .ok s₀) (acts : List Action)
    (hforward : ∀ x ∈ s₀.history acts, x.1.Permits x.2) :
    ((s₀.after acts).commands = (s₀.accepted acts).map .send ++
        List.replicate ((s₀.history acts).countP ends) .close ∧
      (s₀.history acts).countP ends ≤ 1) ∧
    (∀ before later, acts = before ++ later → .close ∈ (s₀.after before).commands →
      (s₀.after acts).commands = (s₀.after before).commands) ∧
    (∀ s frame, (s, .send frame) ∈ s₀.history acts →
      s.send frame = if s.state ≠ .opened then (.error .connectionClosed, s)
        else if config.maxFrame < frame.utf8ByteSize then
          (.error (.frameTooLarge frame.utf8ByteSize config.maxFrame), s)
        else (.ok (), { s with commands := s.commands ++ [.send frame] })) ∧
    (∀ s, (s, .close) ∈ s₀.history acts →
      s.close = if s.state = .connecting ∨ s.state = .opened then
        { s with state := .closing, commands := s.commands ++ [.close] } else s) ∧
    (∀ before later, acts = before ++ later →
      (s₀.after before).state.code ≤ (s₀.after acts).state.code) ∧
    (.close ∈ acts → (s₀.after acts).state ≠ .opened) := by
  obtain ⟨hattached, hmax, hempty⟩ := connect_eq_ok hmade
  have hfound : ∀ s a, (s, a) ∈ s₀.history acts →
      s.attached = true ∧ s.maxFrame = config.maxFrame := by
    intro s a h
    obtain ⟨before, later, -, rfl⟩ := exists_of_mem_history h
    obtain ⟨hattached', hmax'⟩ := after_fixed s₀ before
    exact ⟨hattached'.trans hattached, hmax'.trans hmax⟩
  refine ⟨?queue, ?last, ?send, ?close, ?forward, ?ended⟩
  case queue =>
    have hqueue := commands_eq hattached hforward
    rw [hempty, List.nil_append] at hqueue
    exact hqueue
  case last =>
    intro before later hacts hclose
    subst hacts
    exact commands_of_close_mem hattached hempty hforward hclose
  case send =>
    intro s frame h
    obtain ⟨hattached, hmax⟩ := hfound s _ h
    rw [← hmax]
    exact send_eq hattached frame
  case close =>
    intro s h
    obtain ⟨hattached, -⟩ := hfound s _ h
    rw [close_eq hattached]
    simp only [ends, decide_eq_true_eq]
  case forward =>
    intro before later hacts
    subst hacts
    rw [after_append]
    exact code_le_after (permits_append.mp hforward).2
  case ended =>
    intro hclose
    exact (past_after_close hforward hclose).ne_opened

/-- A frame comes too early, one is too long, and one too late; the transport
is asked to close twice, and its task tries to open it once more. -/
theorem commands_after_closing :
    let config : SocketConfig := { maxFrame := 5 }
    let acts : List Action := [.send "early", .tryOpen, .send "first", .send "\u20ac\u20ac",
      .send "then", .close, .tryOpen, .send "late", .setState .closing, .close, .setState .closed]
    ∃ s₀, connect config "ws://relay" = .ok s₀ ∧
      (∀ x ∈ s₀.history acts, x.1.Permits x.2) ∧ s₀.accepted acts = ["first", "then"] ∧
      (s₀.after acts).commands = [.send "first", .send "then", .close] := by
  intro config acts
  obtain ⟨s₀, hmade, hforward, haccepted, hends⟩ : ∃ s₀, connect config "ws://relay" = .ok s₀ ∧
      (∀ x ∈ s₀.history acts, x.1.Permits x.2) ∧ s₀.accepted acts = ["first", "then"] ∧
      (s₀.history acts).countP ends = 1 := by
    refine ⟨_, rfl, ?_⟩
    decide +kernel
  obtain ⟨⟨hcommands, -⟩, -⟩ := commands_after hmade acts hforward
  rw [haccepted, hends] at hcommands
  exact ⟨s₀, hmade, hforward, haccepted, hcommands⟩

end Socket

end PushRelay
