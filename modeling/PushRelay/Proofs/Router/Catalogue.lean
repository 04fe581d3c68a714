import Mathlib.Data.String.Basic
import PushRelay.Proofs.Router.Subscriptions

/-!
# PushRelay.Proofs.Router.Catalogue

Which services of a router are registered, and what they go by.

1. A service is refused if one is registered whose name is the same in
   lower case, and only then.
2. By a name the one service is found whose name is the same in lower case.
   Subscribing and ending a subscription by a name go to that service.
3. All registered services are listed by their own names, ascending.
4. A connection that ends all its subscriptions ends those to every
   registered service, and nobody else's.

A run keeps book of its registrations (`registrations`), each with the
number and the name of the service.  The index is never anything else than
this book by names in lower case (`IndexedBy`).  The lower case of a name is
only ever compared, so it could be any function of names.
-/

namespace PushRelay

namespace Directory

/-! ## Runs -/

/-- What happens to services and queues. -/
inductive Action where
  | openQueue
  | hangUp (q : Nat)
  /-- a service is made, and not registered yet -/
  | enter (s : PushService)
  | register (n : Nat)
  | subscribe (name : String) (id q : Nat)
  | unsubscribe (name : String) (id : Nat)
  | unsubscribeAll (id : Nat)
  /-- a service is subscribed to without being asked for by name -/
  | subscribeTo (n id q : Nat)
  | unsubscribeFrom (n id : Nat)
  | push (n : Nat) (p : Packet Json)

/-- Carries out an action. -/
def act (d : Directory) : Action → Directory
  | .openQueue => d.newQueue.2
  | .hangUp q => d.hangUp q
  | .enter s => (d.newService s).2
  | .register n => (d.register n).2
  | .subscribe name id q => (d.subscribe name id q).2
  | .unsubscribe name id => (d.unsubscribe name id).2
  | .unsubscribeAll id => d.unsubscribeAll id
  | .subscribeTo n id q => (d.subscribeTo n id q).2
  | .unsubscribeFrom n id => (d.unsubscribeFrom n id).2
  | .push n p => (d.push n p).2

/-- The services and queues after a run of actions. -/
def after (d : Directory) (acts : List Action) : Directory := acts.foldl act d

/-- The service that an action registers, with its name. -/
def registered? (d : Directory) : Action → Option (Nat × String)
  | .register n =>
    match d.services[n]?, (d.register n).1 with
    | some s, .ok () => some (n, s.name)
    | _, _ => none
  | _ => none

/-- The services that a run registers, each with its name, in their order. -/
def registrations (d : Directory) : List Action → List (Nat × String)
  | [] => []
  | a :: acts => (d.registered? a).toList ++ (d.act a).registrations acts

variable {d d' : Directory} {n : Nat} {s : PushService} {name : String}
  {book : List (Nat × String)}

/-! ## One action -/

/-- An action registers a service, or it leaves the index as it is. -/
theorem registered?_cases (d : Directory) (a : Action) :
    (∃ n s, a = .register n ∧ d.services[n]? = some s ∧ d.number? s.name = none) ∨
    (d.registered? a = none ∧ (d.act a).index = d.index ∧ d.Keeps (d.act a)) := by
  cases a with
  | openQueue => exact .inr ⟨rfl, rfl, .refl d⟩
  | hangUp q => exact .inr ⟨rfl, rfl, .refl d⟩
  | enter s => exact .inr ⟨rfl, rfl, keeps_newService d s⟩
  | register n =>
    -- only a service that is there, under a name that is free, is registered
    cases hs : d.services[n]? with
    | none =>
      refine .inr ⟨?_, ?_, keeps_register d n⟩
      · simp only [registered?, hs]
      · simp only [act, register, hs]
    | some s =>
      cases hm : d.number? s.name with
      | none => exact .inl ⟨n, s, rfl, hs, hm⟩
      | some m =>
        refine .inr ⟨?_, ?_, keeps_register d n⟩
        · simp only [registered?, hs, register_of_taken hs hm]
        · rw [act, register_of_taken hs hm]
  | subscribe name id q =>
    right
    rw [act, subscribe]
    split
    · exact ⟨rfl, rfl, .refl d⟩
    · next n _ => exact ⟨rfl, d.index_subscribeTo n id q, d.keeps_subscribeTo n id q⟩
  | unsubscribe name id =>
    right
    rw [act, unsubscribe]
    split
    · exact ⟨rfl, rfl, .refl d⟩
    · next n _ => exact ⟨rfl, d.index_unsubscribeFrom n id, d.keeps_unsubscribeFrom n id⟩
  | unsubscribeAll id => exact .inr ⟨rfl, d.index_unsubscribeAll id, d.keeps_unsubscribeAll id⟩
  | subscribeTo n id q =>
    exact .inr ⟨rfl, d.index_subscribeTo n id q, d.keeps_subscribeTo n id q⟩
  | unsubscribeFrom n id =>
    exact .inr ⟨rfl, d.index_unsubscribeFrom n id, d.keeps_unsubscribeFrom n id⟩
  | push n p => exact .inr ⟨rfl, d.index_push n p, d.keeps_push n p⟩

/-! ## The index and the book -/

/-- The index finds the services in the book, and these only, by their names
in lower case, of which no two are the same. -/
structure IndexedBy (d : Directory) (book : List (Nat × String)) : Prop where
  index : ∀ key n, d.index.find? key = some n ↔
    ∃ name, (n, name) ∈ book ∧ Text.lowercase name = key
  named : ∀ e ∈ book, d.nameOf? e.1 = some e.2
  distinct : book.Pairwise fun e e' => Text.lowercase e.2 ≠ Text.lowercase e'.2

theorem indexedBy_empty : IndexedBy {} [] := by
  constructor
  case index =>
    intro key n
    constructor
    · intro h
      contradiction
    · rintro ⟨name, hmem, -⟩
      contradiction
  case named =>
    intro e he
    contradiction
  case distinct => exact .nil

namespace IndexedBy

variable (h : d.IndexedBy book)

include h

/-- A name is free if no name in the book is the same up to case. -/
theorem number?_eq_none_iff :
    d.number? name = none ↔ ∀ e ∈ book, Text.lowercase e.2 ≠ Text.lowercase name := by
  rw [Option.eq_none_iff_forall_ne_some]
  constructor
  · intro hnone e he hname
    exact hnone e.1 ((h.index _ _).mpr ⟨e.2, he, hname⟩)
  · intro hnone n hn
    obtain ⟨own, hmem, hown⟩ := (h.index _ _).mp hn
    exact hnone (n, own) hmem hown

/-- A service is found under its name however that is spelt. -/
theorem number?_of_mem {e : Nat × String} (he : e ∈ book)
    (hname : Text.lowercase name = Text.lowercase e.2) : d.number? name = some e.1 :=
  (h.index _ _).mpr ⟨e.2, he, hname.symm⟩

/-- Services keep their numbers and names, so the book need not change where
the index does not. -/
theorem of_keeps (hindex : d'.index = d.index) (hkeeps : d.Keeps d') : d'.IndexedBy book where
  index key n := by
    rw [hindex]
    exact h.index key n
  named e he := hkeeps e.1 e.2 (h.named e he)
  distinct := h.distinct

/-- A service whose name is still free is entered in the book. -/
theorem register (hs : d.services[n]? = some s) (hfree : d.number? s.name = none) :
    (d.register n).2.IndexedBy (book ++ [(n, s.name)]) := by
  have hnew := h.number?_eq_none_iff.mp hfree
  constructor
  case index =>
    intro key m
    simp only [register_of_free hs hfree, Table.find?_insert, List.mem_append,
      List.mem_singleton, Prod.mk.injEq]
    by_cases hkey : key = Text.lowercase s.name
    · -- this key was free, so nothing in the book so far goes by it
      rw [if_pos hkey, hkey]
      constructor
      · intro hm
        exact ⟨s.name, .inr ⟨(Option.some.inj hm).symm, rfl⟩, rfl⟩
      · rintro ⟨own, hmem | ⟨rfl, rfl⟩, hown⟩
        · exact absurd hown (hnew (m, own) hmem)
        · rfl
    · -- any other key finds what it found, and the new service is not that
      rw [if_neg hkey, h.index]
      constructor
      · rintro ⟨own, hmem, hown⟩
        exact ⟨own, .inl hmem, hown⟩
      · rintro ⟨own, hmem | ⟨rfl, rfl⟩, hown⟩
        · exact ⟨own, hmem, hown⟩
        · exact absurd hown.symm hkey
  case named =>
    intro e he
    cases List.mem_append.mp he with
    | inl hold => exact d.keeps_register n e.1 e.2 (h.named e hold)
    | inr hlast =>
      rw [List.mem_singleton.mp hlast]
      exact d.keeps_register n n s.name (nameOf?_of_services hs)
  case distinct =>
    rw [List.pairwise_append]
    refine ⟨h.distinct, List.pairwise_singleton _ _, fun e he e' he' => ?_⟩
    rw [List.mem_singleton.mp he']
    exact hnew e he

/-- Every action keeps the book. -/
theorem act (a : Action) : (d.act a).IndexedBy (book ++ (d.registered? a).toList) := by
  obtain ⟨n, s, rfl, hs, hfree⟩ | ⟨hnone, hindex, hkeeps⟩ := d.registered?_cases a
  · have hbook : d.registered? (.register n) = some (n, s.name) := by
      simp only [registered?, hs, register_of_free hs hfree]
    rw [hbook]
    exact h.register hs hfree
  · rw [hnone, Option.toList_none, List.append_nil]
    exact h.of_keeps hindex hkeeps

/-- So does every run. -/
theorem after (acts : List Action) :
    (d.after acts).IndexedBy (book ++ d.registrations acts) := by
  induction acts generalizing d book with
  | nil =>
    rw [registrations, List.append_nil]
    exact h
  | cons a acts ih =>
    rw [registrations, ← List.append_assoc]
    exact ih (h.act a)

/-! ## What follows from the book -/

theorem get?_eq_some_iff : d.get? name = some s ↔
    ∃ e ∈ book, Text.lowercase e.2 = Text.lowercase name ∧ d.services[e.1]? = some s := by
  rw [get?, Option.bind_eq_some_iff]
  constructor
  · rintro ⟨n, hn, hs⟩
    obtain ⟨own, hmem, hown⟩ := (h.index _ _).mp hn
    exact ⟨(n, own), hmem, hown, hs⟩
  · rintro ⟨e, he, hname, hs⟩
    exact ⟨e.1, h.number?_of_mem he hname.symm, hs⟩

theorem exists_service {e : Nat × String} (he : e ∈ book) :
    ∃ s, d.services[e.1]? = some s ∧ s.name = e.2 :=
  Option.map_eq_some_iff.mp (h.named e he)

theorem get?_eq_none_iff :
    d.get? name = none ↔ ∀ e ∈ book, Text.lowercase e.2 ≠ Text.lowercase name := by
  rw [← h.number?_eq_none_iff, get?]
  cases hn : d.number? name with
  | none => simp only [Option.bind_none]
  | some n =>
    obtain ⟨own, hmem, -⟩ := (h.index _ _).mp hn
    obtain ⟨s, hs, -⟩ := h.exists_service hmem
    simp only [Option.bind_some, hs, reduceCtorEq]

/-- A service whose name is taken is refused. -/
theorem register_eq_error_iff (hs : d.services[n]? = some s) :
    d.register n = (.error (.alreadyRegistered s.name), d) ↔
      ∃ e ∈ book, Text.lowercase e.2 = Text.lowercase s.name := by
  cases hm : d.number? s.name with
  | none =>
    have hnew := h.number?_eq_none_iff.mp hm
    simp only [register_of_free hs hm, Prod.mk.injEq, reduceCtorEq, false_and, false_iff,
      not_exists, not_and]
    exact hnew
  | some m =>
    obtain ⟨own, hmem, hown⟩ := (h.index _ _).mp hm
    simp only [register_of_taken hs hm, true_iff]
    exact ⟨(m, own), hmem, hown⟩

/-- A service is registered if its name is free. -/
theorem register_eq_ok_iff (hs : d.services[n]? = some s) :
    (d.register n).1 = .ok () ↔ ∀ e ∈ book, Text.lowercase e.2 ≠ Text.lowercase s.name := by
  rw [← h.number?_eq_none_iff]
  cases hm : d.number? s.name with
  | none => simp only [register_of_free hs hm]
  | some m => simp only [register_of_taken hs hm, reduceCtorEq]

theorem nodup_names : (book.map Prod.snd).Nodup := by
  rw [List.Nodup, List.pairwise_map]
  exact h.distinct.imp fun hne heq => hne (congrArg Text.lowercase heq)

/-- No service is in the book twice, since it has one name. -/
theorem nodup_numbers : (book.map Prod.fst).Nodup := by
  rw [List.Nodup, List.pairwise_map]
  refine h.distinct.imp_of_mem fun {e e'} he he' hne heq => ?_
  have hname := h.named e he
  rw [heq, h.named e' he', Option.some.injEq] at hname
  exact hne (congrArg Text.lowercase hname.symm)

theorem indexed : d.Indexed := by
  intro key n hn
  obtain ⟨own, hmem, hown⟩ := (h.index key n).mp hn
  exact ⟨own, h.named _ hmem, hown⟩

theorem mem_values_iff : n ∈ d.index.values ↔ n ∈ book.map Prod.fst := by
  simp only [Table.mem_values_iff, h.index, List.mem_map, Prod.exists, exists_and_right,
    exists_eq_right]
  constructor
  · rintro ⟨key, own, hmem, hown⟩
    exact ⟨own, hmem⟩
  · rintro ⟨own, hmem⟩
    exact ⟨Text.lowercase own, own, hmem, rfl⟩

/-- The index and the book are of the same services, in another order. -/
theorem values_perm : d.index.values.Perm (book.map Prod.fst) :=
  (List.perm_ext_iff_of_nodup h.indexed.nodup_values h.nodup_numbers).mpr
    fun _ => h.mem_values_iff

/-- The names that are listed are those in the book. -/
theorem names_perm : d.names.Perm (book.map Prod.snd) := by
  have hnames : (book.map Prod.fst).filterMap d.nameOf? = book.map Prod.snd := by
    rw [List.filterMap_map, ← List.filterMap_eq_map]
    exact List.filterMap_congr h.named
  rw [← hnames]
  exact (List.mergeSort_perm _ _).trans (h.values_perm.filterMap _)

theorem names_ascending : d.names.Pairwise (· < ·) := by
  have hnodup : d.names.Nodup := h.names_perm.nodup_iff.mpr h.nodup_names
  -- sorting allows equal neighbours, which different services do not have
  have hle : d.names.Pairwise (· ≤ ·) := by
    have hsorted : d.names.Pairwise fun a b => decide (a ≤ b) = true := by
      apply List.pairwise_mergeSort
      · simpa using fun _ _ _ => String.le_trans
      · simpa using String.le_total
    simpa using hsorted
  exact (hle.and hnodup).imp fun ⟨hle, hne⟩ => lt_of_le_of_ne hle hne

/-- The subscriptions that a connection ends are those to the services in the
book. -/
theorem subscription?_unsubscribeAll (id n id' : Nat) :
    (d.unsubscribeAll id).subscription? n id' =
      if id' = id ∧ n ∈ book.map Prod.fst then none else d.subscription? n id' := by
  simp only [Directory.subscription?_unsubscribeAll, h.mem_values_iff]

end IndexedBy

/-! ## Any run -/

/-- What the services of a directory go by when the services in `book` are
those that were registered. -/
structure Catalogued (d : Directory) (book : List (Nat × String)) : Prop where
  /-- the registered services are there, under their names -/
  there : ∀ e ∈ book, ∃ s, d.services[e.1]? = some s ∧ s.name = e.2
  /-- no two of them have names that are the same in lower case -/
  distinct : book.Pairwise fun e e' => Text.lowercase e.2 ≠ Text.lowercase e'.2
  /-- a service is refused if one of them has its name in lower case: that is
  reported, and nothing is changed -/
  refused_iff : ∀ n s, d.services[n]? = some s →
    (d.register n = (.error (.alreadyRegistered s.name), d) ↔
      ∃ e ∈ book, Text.lowercase e.2 = Text.lowercase s.name)
  /-- otherwise it is registered -/
  registered_iff : ∀ n s, d.services[n]? = some s →
    ((d.register n).1 = .ok () ↔ ∀ e ∈ book, Text.lowercase e.2 ≠ Text.lowercase s.name)
  /-- a name finds the one of them that has this name in lower case -/
  found_iff : ∀ name s, d.get? name = some s ↔
    ∃ e ∈ book, Text.lowercase e.2 = Text.lowercase name ∧ d.services[e.1]? = some s
  missing_iff : ∀ name, d.get? name = none ↔
    ∀ e ∈ book, Text.lowercase e.2 ≠ Text.lowercase name
  /-- by its name in any case that service is subscribed to and left, and no
  other -/
  served : ∀ e ∈ book, ∀ s, d.services[e.1]? = some s →
    ∀ name, Text.lowercase name = Text.lowercase e.2 → ∀ id q,
      d.subscribe name id q = ((s.subscribe id q d.queues).1,
        d.replace e.1 (s.subscribe id q d.queues).2.1 (s.subscribe id q d.queues).2.2) ∧
      d.unsubscribe name id = (s.isSubscribed id, d.replace e.1 (s.unsubscribe id).2 d.queues)
  /-- by a name that none of them has, nothing is -/
  ignored : ∀ name, (∀ e ∈ book, Text.lowercase e.2 ≠ Text.lowercase name) → ∀ id q,
    d.subscribe name id q = (false, d) ∧ d.unsubscribe name id = (false, d)
  /-- they are listed by their own names, each once and ascending -/
  names_perm : d.names.Perm (book.map Prod.snd)
  names_ascending : d.names.Pairwise (· < ·)
  /-- when a connection ends all its subscriptions, those to each of them end,
  and no others -/
  left : ∀ id n id', (d.unsubscribeAll id).subscription? n id' =
    if id' = id ∧ n ∈ book.map Prod.fst then none else d.subscription? n id'
  /-- but for the subscribers all services stay as they are, with their
  histories, and so do the queues -/
  left_unattended : ∀ id, (d.unsubscribeAll id).unattended = d.unattended
  left_queues : ∀ id, (d.unsubscribeAll id).queues = d.queues

/-- In every run the registered services are found and subscribed to by their
names in any case, listed by their own names, and left together. -/
theorem catalogued_after (acts : List Action) :
    (after {} acts).Catalogued (registrations {} acts) := by
  have h : (after {} acts).IndexedBy (registrations {} acts) := indexedBy_empty.after acts
  constructor
  case there => exact fun e he => h.exists_service he
  case distinct => exact h.distinct
  case refused_iff => exact fun n s hs => h.register_eq_error_iff hs
  case registered_iff => exact fun n s hs => h.register_eq_ok_iff hs
  case found_iff => exact fun name s => h.get?_eq_some_iff
  case missing_iff => exact fun name => h.get?_eq_none_iff
  case served =>
    intro e he s hs name hname id q
    have hnumber := h.number?_of_mem he hname
    rw [subscribe, unsubscribe, hnumber]
    exact ⟨subscribeTo_of_some hs id q, unsubscribeFrom_of_some hs id⟩
  case ignored =>
    intro name hnone id q
    have hnumber := h.number?_eq_none_iff.mpr hnone
    rw [subscribe, unsubscribe, hnumber]
    exact ⟨rfl, rfl⟩
  case names_perm => exact h.names_perm
  case names_ascending => exact h.names_ascending
  case left => exact h.subscription?_unsubscribeAll
  case left_unattended => exact fun id => unattended_unsubscribeAll _ id
  case left_queues => exact fun id => queues_unsubscribeAll _ id

example :
    let acts : List Action := [.enter { name := "mail" }, .enter { name := "clock" },
      .enter { name := "Clock" }, .register 2, .register 1, .register 0]
    registrations {} acts = [(2, "Clock"), (0, "mail")] ∧
      (after {} acts).number? "CLOCK" = some 2 ∧ (after {} acts).number? "news" = none := by
  decide +kernel

end Directory

end PushRelay
