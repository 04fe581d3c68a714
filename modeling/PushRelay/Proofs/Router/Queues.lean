import PushRelay.Router.Outgoing

/-!
# PushRelay.Proofs.Router.Queues

What the operations on queues do to the frames of each queue, and to
whether it takes frames.  A queue is only ever added to, and only by its
own number.
-/

namespace PushRelay

namespace Queues

variable {qs : Queues} {q q' : Nat} {frame : String}

/-! ## One frame -/

@[simp] theorem accepts_put (qs : Queues) (q : Nat) (frame : String) (q' : Nat) :
    (qs.put q frame).accepts q' = qs.accepts q' := by
  cases ho : qs[q']? with
  | none => simp [accepts, put, List.getElem?_modify, ho]
  | some o =>
    by_cases hq : q = q'
    · cases hopen : o.isOpen <;> simp [accepts, put, Outgoing.put, ho, hq, hopen]
    · simp [accepts, put, ho, hq]

/-- A frame goes to the end of its queue, if the queue takes it. -/
theorem framesOf_put (qs : Queues) (q : Nat) (frame : String) (q' : Nat) :
    (qs.put q frame).framesOf q' =
      qs.framesOf q' ++ if q = q' ∧ qs.accepts q' = true then [frame] else [] := by
  cases ho : qs[q']? with
  | none => simp [framesOf, accepts, put, List.getElem?_modify, ho]
  | some o =>
    by_cases hq : q = q'
    · cases hopen : o.isOpen <;>
        simp [framesOf, accepts, put, Outgoing.put, ho, hq, hopen]
    · simp [framesOf, put, ho, hq]

@[simp] theorem length_put (qs : Queues) (q : Nat) (frame : String) :
    (qs.put q frame).length = qs.length :=
  List.length_modify ..

theorem getElem?_put_of_ne (h : q ≠ q') (qs : Queues) (frame : String) :
    (qs.put q frame)[q']? = qs[q']? := by
  simp [put, h]

/-! ## Many frames -/

@[simp] theorem accepts_putAll (qs : Queues) (q : Nat) (frames : List String) (q' : Nat) :
    (qs.putAll q frames).accepts q' = qs.accepts q' := by
  induction frames generalizing qs with
  | nil => rfl
  | cons frame frames ih =>
    have hput := ih (qs.put q frame)
    rw [accepts_put] at hput
    exact hput

/-- Frames go to the end of their queue, in their order. -/
theorem framesOf_putAll (qs : Queues) (q : Nat) (frames : List String) (q' : Nat) :
    (qs.putAll q frames).framesOf q' =
      qs.framesOf q' ++ if q = q' ∧ qs.accepts q' = true then frames else [] := by
  induction frames generalizing qs with
  | nil => simp [putAll]
  | cons frame frames ih =>
    have hput := ih (qs.put q frame)
    rw [accepts_put, framesOf_put, List.append_assoc] at hput
    rw [putAll, List.foldl_cons, ← putAll, hput]
    by_cases htaken : q = q' ∧ qs.accepts q' = true
    · simp only [if_pos htaken, List.singleton_append]
    · simp only [if_neg htaken, List.append_nil]

@[simp] theorem length_putAll (qs : Queues) (q : Nat) (frames : List String) :
    (qs.putAll q frames).length = qs.length := by
  induction frames generalizing qs with
  | nil => rfl
  | cons frame frames ih => exact (ih _).trans (length_put qs q frame)

theorem getElem?_putAll_of_ne (h : q ≠ q') (qs : Queues) (frames : List String) :
    (qs.putAll q frames)[q']? = qs[q']? := by
  induction frames generalizing qs with
  | nil => rfl
  | cons frame frames ih => exact (ih _).trans (getElem?_put_of_ne h qs frame)

/-! ## Many queues -/

/-- Puts a frame on queues, one after the other. -/
abbrev fanOut (qs : Queues) (targets : List Nat) (frame : String) : Queues :=
  targets.foldl (fun qs q => qs.put q frame) qs

@[simp] theorem accepts_fanOut (qs : Queues) (targets : List Nat) (frame : String) (q' : Nat) :
    (qs.fanOut targets frame).accepts q' = qs.accepts q' := by
  induction targets generalizing qs with
  | nil => rfl
  | cons q targets ih =>
    have hput := ih (qs.put q frame)
    rw [accepts_put] at hput
    exact hput

/-- Each queue gets the frame as often as it is named, if it takes it. -/
theorem framesOf_fanOut (qs : Queues) (targets : List Nat) (frame : String) (q' : Nat) :
    (qs.fanOut targets frame).framesOf q' =
      qs.framesOf q' ++
        if qs.accepts q' = true then List.replicate (targets.count q') frame else [] := by
  induction targets generalizing qs with
  | nil => simp
  | cons q targets ih =>
    have hput := ih (qs.put q frame)
    rw [accepts_put, framesOf_put, List.append_assoc] at hput
    rw [fanOut, List.foldl_cons, hput, List.count_cons]
    by_cases hopen : qs.accepts q' = true
    · by_cases hq : q = q'
      · simp [hopen, hq, List.replicate_succ]
      · simp [hopen, hq]
    · simp [hopen]

@[simp] theorem length_fanOut (qs : Queues) (targets : List Nat) (frame : String) :
    (qs.fanOut targets frame).length = qs.length := by
  induction targets generalizing qs with
  | nil => rfl
  | cons q targets ih => exact (ih _).trans (length_put qs q frame)

/-! ## Hanging up -/

theorem accepts_hangUp (qs : Queues) (q q' : Nat) :
    (qs.hangUp q).accepts q' = (qs.accepts q' && q ≠ q') := by
  cases ho : qs[q']? with
  | none => simp [accepts, hangUp, List.getElem?_modify, ho]
  | some o => by_cases hq : q = q' <;> simp [accepts, hangUp, ho, hq]

@[simp] theorem framesOf_hangUp (qs : Queues) (q q' : Nat) :
    (qs.hangUp q).framesOf q' = qs.framesOf q' := by
  cases ho : qs[q']? with
  | none => simp [framesOf, hangUp, List.getElem?_modify, ho]
  | some o => by_cases hq : q = q' <;> simp [framesOf, hangUp, ho, hq]

@[simp] theorem length_hangUp (qs : Queues) (q : Nat) : (qs.hangUp q).length = qs.length :=
  List.length_modify ..

/-! ## A new queue -/

/-- Queues that are there are not changed by a new one. -/
theorem getElem?_append_of_lt (h : q < qs.length) (o : Outgoing) : (qs ++ [o])[q]? = qs[q]? :=
  List.getElem?_append_left h

theorem accepts_append_of_lt (h : q < qs.length) (o : Outgoing) :
    accepts (qs ++ [o]) q = qs.accepts q := by
  rw [accepts, getElem?_append_of_lt h, accepts]

theorem framesOf_append_of_lt (h : q < qs.length) (o : Outgoing) :
    framesOf (qs ++ [o]) q = qs.framesOf q := by
  rw [framesOf, getElem?_append_of_lt h, framesOf]

end Queues

end PushRelay
