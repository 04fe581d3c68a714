import Mathlib.Data.List.Nodup
import Mathlib.Logic.Relation
import PushRelay.Proofs.Router.Pushing
import PushRelay.Router.Directory

/-!
# PushRelay.Proofs.Router.Services

What holds of the services of a router however they are used.

1. A service keeps its number and its name.
2. The index finds a service by its name in lower case.
3. A service remembers nothing but frames of packets that it pushed.

`Directory.Step` lists what can happen to services and queues, one thing at
a time, with what is known of the packets that are pushed; these facts are
an invariant of such steps (`Sound`).
-/

namespace PushRelay

namespace PushService

variable {s : PushService} {qs : Queues} {frame : String}

@[simp] theorem name_subscribe (s : PushService) (id q : Nat) (qs : Queues) :
    (s.subscribe id q qs).2.1.name = s.name := by
  cases s.subscribe_cases id q qs with
  | inl h => rw [h]
  | inr h => rw [h.2.2]

@[simp] theorem name_unsubscribe (s : PushService) (id : Nat) :
    (s.unsubscribe id).2.name = s.name := rfl

@[simp] theorem name_remember (s : PushService) (frame : String) :
    (s.remember frame).name = s.name := by
  simp only [remember, apply_ite PushService.name, ite_self]

@[simp] theorem name_push (s : PushService) (p : Packet Json) (qs : Queues) :
    (s.push p qs).2.1.name = s.name := by
  cases hp : p.encode with
  | error e => rw [push_of_error hp]
  | ok frame =>
    rw [push_of_ok hp]
    exact name_remember s frame

theorem mem_history_remember {f : String} (h : f ∈ (s.remember frame).history) :
    f ∈ s.history ∨ f = frame := by
  unfold remember at h
  split at h
  · exact .inl h
  split at h
  · cases List.mem_append.mp h with
    | inl h => exact .inl (List.mem_of_mem_drop h)
    | inr h => exact .inr (List.mem_singleton.mp h)
  · cases List.mem_append.mp h with
    | inl h => exact .inl h
    | inr h => exact .inr (List.mem_singleton.mp h)

/-- What is remembered after a push was remembered before it, or is the
frame that was pushed. -/
theorem mem_history_push {p : Packet Json} {f : String}
    (h : f ∈ (s.push p qs).2.1.history) : f ∈ s.history ∨ p.encode = .ok f := by
  cases hp : p.encode with
  | error e =>
    rw [push_of_error hp] at h
    exact .inl h
  | ok frame =>
    rw [push_of_ok hp] at h
    cases mem_history_remember h with
    | inl h => exact .inl h
    | inr h =>
      rw [h]
      exact .inr rfl

end PushService

namespace Directory

/-! ## Steps -/

/-- One thing that happens to services and queues.  `P n p` is what is
known when service `n` pushes `p`. -/
inductive Step (P : Nat → Packet Json → Prop) : Directory → Directory → Prop
  | opened (d : Directory) : Step P d d.newQueue.2
  | hungUp (d : Directory) (q : Nat) : Step P d (d.hangUp q)
  | entered (d : Directory) {s : PushService} (new : s.history = []) :
      Step P d (d.newService s).2
  | registered (d : Directory) (n : Nat) : Step P d (d.register n).2
  | subscribed (d : Directory) (n id q : Nat) : Step P d (d.subscribeTo n id q).2
  | unsubscribed (d : Directory) (n id : Nat) : Step P d (d.unsubscribeFrom n id).2
  | pushed (d : Directory) {n : Nat} {p : Packet Json} (known : P n p)
      (named : ∀ s, d.services[n]? = some s → p.name = s.name) : Step P d (d.push n p).2

/-! ## Names and histories -/

/-- The name of the service with number `n`. -/
def nameOf? (d : Directory) (n : Nat) : Option String := d.services[n]?.map PushService.name

/-- Every service is there still, under its number and with its name. -/
def Keeps (d d' : Directory) : Prop :=
  ∀ n name, d.nameOf? n = some name → d'.nameOf? n = some name

theorem Keeps.refl (d : Directory) : d.Keeps d := fun _ _ h => h

theorem Keeps.trans {d d' d'' : Directory} (h : d.Keeps d') (h' : d'.Keeps d'') :
    d.Keeps d'' :=
  fun n name hname => h' n name (h n name hname)

/-- The index finds services by their names in lower case. -/
def Indexed (d : Directory) : Prop :=
  ∀ key n, d.index.find? key = some n →
    ∃ name, d.nameOf? n = some name ∧ Text.lowercase name = key

/-- A frame of a packet that service `n` pushed under its name. -/
def Pushed (P : Nat → Packet Json → Prop) (n : Nat) (name frame : String) : Prop :=
  ∃ p, P n p ∧ p.name = name ∧ p.encode = .ok frame

/-- The index finds services by their names, and they remember what they
pushed. -/
structure Sound (P : Nat → Packet Json → Prop) (d : Directory) : Prop where
  index : ∀ key n, d.index.find? key = some n →
    ∃ name, d.nameOf? n = some name ∧ Text.lowercase name = key
  history : ∀ (n : Nat) (s : PushService), d.services[n]? = some s →
    ∀ frame ∈ s.history, Pushed P n s.name frame

variable {P : Nat → Packet Json → Prop} {d d' : Directory} {n : Nat} {s s' : PushService}

theorem sound_empty : Sound P {} := by
  constructor
  · intro key n h
    contradiction
  · intro n s h
    contradiction

theorem nameOf?_of_services (hs : d.services[n]? = some s) : d.nameOf? n = some s.name := by
  rw [nameOf?, hs, Option.map_some]

/-! ### The index -/

theorem Indexed.of_keeps (h : d.Indexed) (hindex : d'.index = d.index) (hkeeps : d.Keeps d') :
    d'.Indexed := by
  intro key n hn
  rw [hindex] at hn
  obtain ⟨name, hname, hkey⟩ := h key n hn
  exact ⟨name, hkeeps n name hname, hkey⟩

/-- No service is registered under two keys. -/
theorem Indexed.key_unique (h : d.Indexed) {key key' : String}
    (hkey : d.index.find? key = some n) (hkey' : d.index.find? key' = some n) : key = key' := by
  obtain ⟨name, hname, rfl⟩ := h key n hkey
  obtain ⟨name', hname', rfl⟩ := h key' n hkey'
  rw [hname] at hname'
  rw [Option.some.inj hname']

/-- The index has no service twice, since each has one name. -/
theorem Indexed.nodup_values (h : d.Indexed) : d.index.values.Nodup := by
  have hkeys : d.index.values.map (fun n => (d.nameOf? n).map Text.lowercase) =
      d.index.keys.map some := by
    rw [Table.values, Table.keys, List.map_map, List.map_map]
    apply List.map_congr_left
    rintro ⟨key, n⟩ hmem
    obtain ⟨name, hname, rfl⟩ := h key n (Table.mem_entries_iff.mp hmem)
    simp only [Function.comp_apply, hname, Option.map_some]
  apply List.Nodup.of_map
  rw [hkeys]
  exact d.index.nodup_keys.map fun _ _ => Option.some.inj

theorem Indexed.exists_service (h : d.Indexed) {key : String} (hkey : d.index.find? key = some n) :
    ∃ s, d.services[n]? = some s := by
  obtain ⟨name, hname, -⟩ := h key n hkey
  obtain ⟨s, hs, -⟩ := Option.map_eq_some_iff.mp hname
  exact ⟨s, hs⟩

theorem register_of_free (hs : d.services[n]? = some s) (h : d.number? s.name = none) :
    d.register n = (.ok (), { d with index := d.index.insert (Text.lowercase s.name) n }) := by
  simp only [register, hs, h, Option.isSome_none, Bool.false_eq_true, if_false]

theorem register_of_taken (hs : d.services[n]? = some s) {m : Nat}
    (h : d.number? s.name = some m) :
    d.register n = (.error (.alreadyRegistered s.name), d) := by
  simp only [register, hs, h, Option.isSome_some, if_true]

/-- Registering a service moves none. -/
theorem services_register (d : Directory) (n : Nat) :
    (d.register n).2.services = d.services := by
  unfold register
  split
  · rfl
  · split
    · rfl
    · rfl

theorem keeps_register (d : Directory) (n : Nat) : d.Keeps (d.register n).2 := by
  intro i name h
  rw [nameOf?, services_register]
  exact h

theorem Indexed.register (h : d.Indexed) (n : Nat) : (d.register n).2.Indexed := by
  intro key i hi
  rw [nameOf?, services_register]
  unfold Directory.register at hi
  split at hi
  · exact h key i hi
  · next s hs =>
    split at hi
    · exact h key i hi
    · rw [Table.find?_insert] at hi
      split at hi
      · next hkey =>
        cases hi
        exact ⟨s.name, nameOf?_of_services hs, hkey.symm⟩
      · exact h key i hi

/-! ### A service that is replaced -/

/-- The directory with another service under a number, and with other
queues. -/
def replace (d : Directory) (n : Nat) (s : PushService) (qs : Queues) : Directory :=
  { d with services := d.services.set n s, queues := qs }

theorem nameOf?_replace (hs : d.services[n]? = some s) (hname : s'.name = s.name) (qs : Queues)
    (i : Nat) : (d.replace n s' qs).nameOf? i = d.nameOf? i := by
  by_cases hi : n = i
  · subst hi
    have hlt : n < d.services.length := (List.getElem?_eq_some_iff.mp hs).1
    rw [nameOf?_of_services hs, nameOf?, replace, List.getElem?_set_self hlt, Option.map_some,
      hname]
  · rw [nameOf?, replace, List.getElem?_set_ne hi, nameOf?]

theorem keeps_replace (hs : d.services[n]? = some s) (hname : s'.name = s.name) (qs : Queues) :
    d.Keeps (d.replace n s' qs) := by
  intro i name h
  rw [nameOf?_replace hs hname]
  exact h

theorem Sound.replace (hd : d.Sound P) (hs : d.services[n]? = some s) (hname : s'.name = s.name)
    (hhistory : ∀ frame ∈ s'.history, frame ∈ s.history ∨ Pushed P n s.name frame)
    (qs : Queues) : (d.replace n s' qs).Sound P := by
  constructor
  · exact Indexed.of_keeps hd.index rfl (keeps_replace hs hname qs)
  · intro i t ht frame hframe
    by_cases hi : n = i
    · subst hi
      have hlt : n < d.services.length := (List.getElem?_eq_some_iff.mp hs).1
      rw [Directory.replace, List.getElem?_set_self hlt] at ht
      cases ht
      rw [hname]
      cases hhistory frame hframe with
      | inl hold => exact hd.history n s hs frame hold
      | inr hnew => exact hnew
    · rw [Directory.replace, List.getElem?_set_ne hi] at ht
      exact hd.history i t ht frame hframe

/-! ### A service that is new -/

theorem keeps_newService (d : Directory) (s : PushService) : d.Keeps (d.newService s).2 := by
  intro i name h
  rw [nameOf?, Option.map_eq_some_iff] at h
  obtain ⟨t, ht, hname⟩ := h
  have hlt : i < d.services.length := (List.getElem?_eq_some_iff.mp ht).1
  rw [nameOf?, newService, List.getElem?_append_left hlt, ht, Option.map_some, hname]

theorem Indexed.newService (h : d.Indexed) (s : PushService) : (d.newService s).2.Indexed := by
  refine Indexed.of_keeps h ?_ (keeps_newService d s)
  rfl

theorem Sound.newService (hd : d.Sound P) (hs : s.history = []) : (d.newService s).2.Sound P := by
  constructor
  · exact Indexed.newService hd.index s
  · intro i t ht frame hframe
    rw [Directory.newService, List.getElem?_append] at ht
    split at ht
    · exact hd.history i t ht frame hframe
    · have hmem : t ∈ [s] := List.mem_of_getElem? ht
      rw [List.mem_singleton.mp hmem, hs] at hframe
      contradiction

theorem Sound.register (hd : d.Sound P) (n : Nat) : (d.register n).2.Sound P := by
  constructor
  · exact Indexed.register hd.index n
  · intro i t ht
    rw [services_register] at ht
    exact hd.history i t ht

/-! ### Each step -/

theorem subscribeTo_of_some (hs : d.services[n]? = some s) (id q : Nat) :
    d.subscribeTo n id q = ((s.subscribe id q d.queues).1,
      d.replace n (s.subscribe id q d.queues).2.1 (s.subscribe id q d.queues).2.2) := by
  simp only [subscribeTo, hs]
  rfl

theorem unsubscribeFrom_of_some (hs : d.services[n]? = some s) (id : Nat) :
    d.unsubscribeFrom n id = (s.isSubscribed id, d.replace n (s.unsubscribe id).2 d.queues) := by
  simp only [unsubscribeFrom, hs]
  rfl

theorem push_of_some (hs : d.services[n]? = some s) (p : Packet Json) :
    d.push n p = ((s.push p d.queues).1,
      d.replace n (s.push p d.queues).2.1 (s.push p d.queues).2.2) := by
  simp only [push, hs]
  -- the result is taken apart first, so that nothing is encoded here
  obtain ⟨result, s', qs⟩ := s.push p d.queues
  rfl

theorem keeps_subscribeTo (d : Directory) (n id q : Nat) : d.Keeps (d.subscribeTo n id q).2 := by
  cases hs : d.services[n]? with
  | none =>
    simp only [subscribeTo, hs]
    exact .refl d
  | some s =>
    rw [subscribeTo_of_some hs]
    exact keeps_replace hs (s.name_subscribe id q _) _

theorem keeps_unsubscribeFrom (d : Directory) (n id : Nat) :
    d.Keeps (d.unsubscribeFrom n id).2 := by
  cases hs : d.services[n]? with
  | none =>
    simp only [unsubscribeFrom, hs]
    exact .refl d
  | some s =>
    rw [unsubscribeFrom_of_some hs]
    exact keeps_replace hs (s.name_unsubscribe id) _

theorem keeps_push (d : Directory) (n : Nat) (p : Packet Json) : d.Keeps (d.push n p).2 := by
  cases hs : d.services[n]? with
  | none =>
    simp only [push, hs]
    exact .refl d
  | some s =>
    rw [push_of_some hs]
    exact keeps_replace hs (s.name_push p _) _

theorem keeps_step (h : Step P d d') : d.Keeps d' := by
  cases h with
  | opened => exact .refl d
  | hungUp q => exact .refl d
  | @entered s new => exact keeps_newService d s
  | registered n => exact keeps_register d n
  | subscribed n id q => exact keeps_subscribeTo d n id q
  | unsubscribed n id => exact keeps_unsubscribeFrom d n id
  | @pushed n p known named => exact keeps_push d n p

/-- In every step the histories hold what was pushed. -/
theorem sound_step (h : Step P d d') (hd : d.Sound P) : d'.Sound P := by
  cases h with
  | opened => exact ⟨hd.index, hd.history⟩
  | hungUp q => exact ⟨hd.index, hd.history⟩
  | @entered s new => exact hd.newService new
  | registered n => exact hd.register n
  | subscribed n id q =>
    cases hs : d.services[n]? with
    | none =>
      simp only [subscribeTo, hs]
      exact hd
    | some s =>
      rw [subscribeTo_of_some hs]
      refine hd.replace hs (s.name_subscribe id q _) (fun frame hframe => ?_) _
      rw [PushService.history_subscribe] at hframe
      exact .inl hframe
  | unsubscribed n id =>
    cases hs : d.services[n]? with
    | none =>
      simp only [unsubscribeFrom, hs]
      exact hd
    | some s =>
      rw [unsubscribeFrom_of_some hs]
      exact hd.replace hs (s.name_unsubscribe id) (fun frame hframe => .inl hframe) _
  | @pushed n p known named =>
    cases hs : d.services[n]? with
    | none =>
      simp only [push, hs]
      exact hd
    | some s =>
      rw [push_of_some hs]
      refine hd.replace hs (s.name_push p _) (fun frame hframe => ?_) _
      cases PushService.mem_history_push hframe with
      | inl hold => exact .inl hold
      | inr hnew => exact .inr ⟨p, known, named s hs, hnew⟩

/-- A chain of such things. -/
abbrev Steps (P : Nat → Packet Json → Prop) : Directory → Directory → Prop :=
  Relation.ReflTransGen (Step P)

theorem sound_steps (h : Steps P d d') (hd : d.Sound P) : d.Keeps d' ∧ d'.Sound P := by
  induction h with
  | refl => exact ⟨.refl d, hd⟩
  | tail _ last ih =>
    obtain ⟨hkeeps, hsound⟩ := ih
    exact ⟨hkeeps.trans (keeps_step last), sound_step last hsound⟩

end Directory

end PushRelay
