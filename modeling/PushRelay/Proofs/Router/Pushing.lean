import Mathlib.Data.List.Count
import Mathlib.Data.List.DropRight
import PushRelay.Proofs.Router.Queues
import PushRelay.Router.PushService

/-!
# PushRelay.Proofs.Router.Pushing

What the operations of a service do to its subscribers, its history and the
queues.

1. Subscribing either does nothing and says so, or enters the connection
   and puts the history on its queue.
2. A push puts its frame on the queues of the subscribers, remembers it,
   and keeps the subscribers whose queue is open.
-/

namespace PushRelay

namespace PushService

variable {s : PushService} {qs : Queues} {id id' q q' : Nat} {frame : String}

theorem isSubscribed_iff : s.isSubscribed id = true ↔ ∃ q, s.subscribers.find? id = some q :=
  Option.isSome_iff_exists

theorem ofName_eq_ok_iff {name : String} {length : Nat} {s : PushService} :
    ofName name length = .ok s ↔
      ∃ h : length ≤ maxHistoryLength,
        s = { name := name, historyLength := length, historyLength_le := h } := by
  unfold ofName
  by_cases hroom : length ≤ maxHistoryLength
  · simp [hroom, eq_comm]
  · simp [hroom]

/-! ## Subscribing -/

theorem subscribe_of_subscribed (h : s.isSubscribed id = true) (q : Nat) (qs : Queues) :
    s.subscribe id q qs = (false, s, qs) := by
  rw [subscribe, if_pos h]

/-- Subscribing does all of its work or none. -/
theorem subscribe_cases (s : PushService) (id q : Nat) (qs : Queues) :
    s.subscribe id q qs = (false, s, qs) ∨
    (s.isSubscribed id = false ∧ (s.history = [] ∨ qs.accepts q = true) ∧
      s.subscribe id q qs =
        (true, { s with subscribers := s.subscribers.insert id q }, qs.putAll q s.history)) := by
  cases hnew : s.isSubscribed id with
  | true => exact Or.inl (subscribe_of_subscribed hnew q qs)
  | false =>
    by_cases hclosed : s.history ≠ [] ∧ qs.accepts q = false
    · left
      simp [subscribe, hnew, hclosed]
    · right
      have htaken : s.history = [] ∨ qs.accepts q = true := by
        by_cases hnil : s.history = []
        · exact Or.inl hnil
        · simp only [ne_eq, hnil, not_false_eq_true, true_and, Bool.not_eq_false] at hclosed
          exact Or.inr hclosed
      refine ⟨rfl, htaken, ?_⟩
      rw [subscribe, hnew, if_neg hclosed]
      rfl

/-- Subscribing succeeds for who is not subscribed, unless there is something
to replay and the queue does not take it. -/
theorem subscribe_fst_iff : (s.subscribe id q qs).1 = true ↔
    s.isSubscribed id = false ∧ (s.history = [] ∨ qs.accepts q = true) := by
  unfold subscribe
  cases hnew : s.isSubscribed id with
  | true => simp
  | false =>
    by_cases hclosed : s.history ≠ [] ∧ qs.accepts q = false
    · simp [hclosed]
    · rw [if_neg Bool.false_ne_true, if_neg hclosed]
      simp only [true_and, true_iff]
      by_cases hnil : s.history = []
      · exact .inl hnil
      · exact .inr (by simpa [hnil] using hclosed)

@[simp] theorem history_subscribe (s : PushService) (id q : Nat) (qs : Queues) :
    (s.subscribe id q qs).2.1.history = s.history := by
  cases s.subscribe_cases id q qs with
  | inl h => rw [h]
  | inr h => rw [h.2.2]

@[simp] theorem historyLength_subscribe (s : PushService) (id q : Nat) (qs : Queues) :
    (s.subscribe id q qs).2.1.historyLength = s.historyLength := by
  cases s.subscribe_cases id q qs with
  | inl h => rw [h]
  | inr h => rw [h.2.2]

@[simp] theorem accepts_subscribe (s : PushService) (id q : Nat) (qs : Queues) (q' : Nat) :
    (s.subscribe id q qs).2.2.accepts q' = qs.accepts q' := by
  cases s.subscribe_cases id q qs with
  | inl h => rw [h]
  | inr h => rw [h.2.2, Queues.accepts_putAll]

/-- A subscription is that of the connection alone. -/
theorem find?_subscribe (s : PushService) (id q : Nat) (qs : Queues) (id' : Nat) :
    (s.subscribe id q qs).2.1.subscribers.find? id' =
      if id' = id ∧ (s.subscribe id q qs).1 = true then some q else s.subscribers.find? id' := by
  cases s.subscribe_cases id q qs with
  | inl h => simp [h]
  | inr h => simp [h.2.2]

/-- A new subscriber gets the history, and nobody else gets anything. -/
theorem framesOf_subscribe (s : PushService) (id q : Nat) (qs : Queues) (q' : Nat) :
    (s.subscribe id q qs).2.2.framesOf q' =
      qs.framesOf q' ++ if q = q' ∧ (s.subscribe id q qs).1 = true then s.history else [] := by
  cases s.subscribe_cases id q qs with
  | inl h => simp [h]
  | inr h =>
    obtain ⟨-, htaken, h⟩ := h
    rw [h, Queues.framesOf_putAll]
    cases htaken with
    | inl hnil => simp [hnil]
    | inr hopen =>
      by_cases hq : q = q'
      · simp [← hq, hopen]
      · simp [hq]

/-! ## Unsubscribing -/

@[simp] theorem find?_unsubscribe (s : PushService) (id id' : Nat) :
    (s.unsubscribe id).2.subscribers.find? id' =
      if id' = id then none else s.subscribers.find? id' :=
  Table.find?_erase ..

/-! ## Remembering -/

@[simp] theorem subscribers_remember (s : PushService) (frame : String) :
    (s.remember frame).subscribers = s.subscribers := by
  simp only [remember, apply_ite PushService.subscribers, ite_self]

@[simp] theorem historyLength_remember (s : PushService) (frame : String) :
    (s.remember frame).historyLength = s.historyLength := by
  simp only [remember, apply_ite PushService.historyLength, ite_self]

/-- A history of the last frames stays one of the last frames: what falls
out of it is the oldest. -/
theorem history_remember {frames : List String}
    (h : s.history = frames.rtake s.historyLength) (frame : String) :
    (s.remember frame).history = (frames ++ [frame]).rtake s.historyLength := by
  have hlength : s.history.length = frames.length - (frames.length - s.historyLength) := by
    rw [h, List.rtake, List.length_drop]
  by_cases hnone : s.historyLength = 0
  · rw [remember, if_pos hnone, h, hnone, List.rtake_zero, List.rtake_zero]
  · by_cases hfull : s.history.length = s.historyLength
    · have hdrop : (frames ++ [frame]).length - s.historyLength =
          frames.length - s.historyLength + 1 := by
        rw [List.length_append, List.length_singleton]
        omega
      have hone : frames.length - s.historyLength + 1 ≤ frames.length := by omega
      rw [remember, if_neg hnone, if_pos hfull, List.rtake, hdrop,
        List.drop_append_of_le_length hone, ← List.drop_drop, h, List.rtake]
    · have hall : (frames ++ [frame]).length - s.historyLength = 0 := by
        rw [List.length_append, List.length_singleton]
        omega
      have hbefore : frames.length - s.historyLength = 0 := by omega
      rw [remember, if_neg hnone, if_neg hfull, h, List.rtake, List.rtake, hall, hbefore,
        List.drop_zero, List.drop_zero]

/-! ## Pushing -/

theorem push_of_error {p : Packet Json} {e : RelayError} (h : p.encode = .error e)
    (s : PushService) (qs : Queues) : s.push p qs = (.error e, s, qs) := by
  simp only [push, h]

theorem push_of_ok {p : Packet Json} (h : p.encode = .ok frame) (s : PushService) (qs : Queues) :
    s.push p qs = (.ok (s.pushFrame frame qs).1.subscribers.size, s.pushFrame frame qs) := by
  simp only [push, h]

@[simp] theorem history_pushFrame (s : PushService) (frame : String) (qs : Queues) :
    (s.pushFrame frame qs).1.history = (s.remember frame).history := rfl

@[simp] theorem historyLength_pushFrame (s : PushService) (frame : String) (qs : Queues) :
    (s.pushFrame frame qs).1.historyLength = s.historyLength :=
  historyLength_remember s frame

@[simp] theorem find?_pushFrame (s : PushService) (frame : String) (qs : Queues) (id : Nat) :
    (s.pushFrame frame qs).1.subscribers.find? id =
      (s.subscribers.find? id).filter fun q => qs.accepts q := by
  rw [pushFrame, Table.find?_filter, subscribers_remember]

@[simp] theorem accepts_pushFrame (s : PushService) (frame : String) (qs : Queues) (q : Nat) :
    (s.pushFrame frame qs).2.accepts q = qs.accepts q :=
  Queues.accepts_fanOut ..

/-- A queue that is only that of one connection is pushed to once, if the
connection is subscribed. -/
theorem count_values
    (hown : ∀ id' q', s.subscribers.find? id' = some q' → (q' = q ↔ id' = id)) :
    s.subscribers.values.count q = if s.isSubscribed id = true then 1 else 0 := by
  have hsame : s.subscribers.values.count q = s.subscribers.keys.count id := by
    rw [Table.values, Table.keys, List.count, List.count, List.countP_map, List.countP_map]
    apply List.countP_congr
    rintro ⟨id', q'⟩ hmem
    simpa using hown id' q' (Table.mem_entries_iff.mp hmem)
  have hmem : id ∈ s.subscribers.keys ↔ s.isSubscribed id = true :=
    Table.contains_iff_mem_keys.symm
  rw [hsame, (Table.nodup_keys _).count]
  simp only [hmem]

/-- An open queue gets a frame as often as it is subscribed. -/
theorem framesOf_pushFrame (s : PushService) (frame : String) (qs : Queues) (q : Nat) :
    (s.pushFrame frame qs).2.framesOf q =
      qs.framesOf q ++
        if qs.accepts q = true then List.replicate (s.subscribers.values.count q) frame
        else [] := by
  simp only [pushFrame, subscribers_remember]
  exact Queues.framesOf_fanOut ..

end PushService

end PushRelay
