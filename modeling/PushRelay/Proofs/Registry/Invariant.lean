import PushRelay.Proofs.Registry.Names

/-!
# PushRelay.Proofs.Registry.Invariant

What holds of the names of a registry in every state that a run reaches,
those in the course of a message included.

Each operation lets a registry only grow (`grows_act`), and so does each
thing that a running callback asks for (`grows_perform`); what a sound
registry knows then follows from the invariant of `Names` alone.
-/

namespace PushRelay

variable {κ : Type}

namespace Registry

variable {P : Nat → Prop}

/-! ## Single operations -/

/-- A registry without protocols is sound. -/
theorem sound_empty : Sound ({} : Registry κ) :=
  ⟨fun p hp => absurd hp List.not_mem_nil, fun h x hx => by simp [Holds] at hx⟩

/-- The protocols that are there stay where they are. -/
theorem protocol_newProtocol {r : Registry κ} (q : Protocol) {p : Nat}
    (hp : p < r.protocols.length) : (r.newProtocol q).2.protocol p = r.protocol p := by
  simp [newProtocol, protocol, List.getElem?_append_left hp]

/-- A new protocol that is sound keeps all sound. -/
theorem grows_newProtocol (P : Nat → Prop) (r : Registry κ) {p : Protocol} (hp : p.Sound) :
    Grows P r (r.newProtocol p).2 where
  sound hs := by
    constructor
    · intro q hq
      cases List.mem_append.mp hq with
      | inl hq => exact hs.protocols q hq
      | inr hq =>
        rw [List.mem_singleton.mp hq]
        exact hp
    · intro h x hx
      obtain ⟨hlt, hreg⟩ := hs.registered h x hx
      rw [protocol_newProtocol p hlt]
      have hlength : (r.newProtocol p).2.protocols.length = r.protocols.length + 1 := by
        simp [newProtocol]
      exact ⟨by omega, hreg⟩
  keeps := by
    constructor
    · intro i name hn
      by_cases hi : i < r.protocols.length
      · rw [protocol_newProtocol p hi]
        exact hn
      · -- a number that no protocol has stands for one without names
        have hnone : r.protocols[i]? = none := List.getElem?_eq_none (Nat.le_of_not_lt hi)
        rw [protocol, hnone] at hn
        simp [Protocol.contains, EmptyCollection.emptyCollection, Protocol.empty,
          Table.contains, Table.find?, Table.empty, Entries.find?] at hn
    · intro h x hx _
      exact ⟨x, hx, rfl, fun _ hn => hn⟩

/-- A name that is added is lost nowhere. -/
theorem grows_add (P : Nat → Prop) (r : Registry κ) (p : Nat) (name : String) :
    Grows P r (r.add p name).2 := by
  unfold add
  split
  · exact .refl P r
  · next f q ha => exact grows_set (Protocol.extends_add ha) fun hs => hs.add ha

/-- A new handler over a protocol that is there takes nothing away. -/
theorem grows_newHandler (P : Nat → Prop) (r : Registry κ) {p : Nat}
    (hp : p < r.protocols.length) : Grows P r (r.newHandler p).2 :=
  grows_enter hp (Dispatcher.registered_ofProtocol (r.protocol p))

/-- The names before one that is refused stay in the protocol; the handler
is entered only when none is. -/
theorem grows_withHandlers (P : Nat → Prop) (r : Registry κ) {p : Nat}
    (hp : p < r.protocols.length) (entries : List (String × Option (Callback κ))) :
    Grows P r (r.withHandlers p entries).2 := by
  have g := Dispatcher.grows_registerAll (Dispatcher.ofProtocol (r.protocol p)) entries
  have hset := grows_set (P := P) g.protocol g.sound
  simp only [withHandlers]
  split
  · exact hset
  · apply hset.trans
    apply grows_enter
    · simpa using hp
    · intro name hn
      have hself := protocol_set r
        ((Dispatcher.ofProtocol (r.protocol p)).registerAll entries).2.protocol hp p
      rw [if_pos rfl] at hself
      rw [protocol, hself]
      exact g.registered (Dispatcher.registered_ofProtocol _) name hn

/-- Work that fails changes nothing, so only what succeeds need grow. -/
theorem grows_orKeep {work : Dispatcher κ → Except RelayError (Dispatcher κ)}
    (g : ∀ d d', work d = .ok d' → d.Grows d') (d : Dispatcher κ) : d.Grows (orKeep work d).2 := by
  unfold orKeep
  split
  · exact .refl d
  · next d' hw => exact g d d' hw

theorem grows_register (P : Nat → Prop) (r : Registry κ) (h : Nat) (name : String)
    (callback : Callback κ) : Grows P r (r.register h name callback).2 :=
  grows_onHandler P r h (grows_orKeep fun _ _ hw => Dispatcher.grows_register hw)

theorem grows_registerEntry (P : Nat → Prop) (r : Registry κ) (h : Nat) (name : String)
    (entry : Option (Callback κ)) : Grows P r (r.registerEntry h name entry).2 := by
  apply grows_onHandler
  apply grows_orKeep
  intro d d' hw
  cases entry with
  | none => contradiction
  | some callback => exact Dispatcher.grows_register hw

theorem grows_registerAll (P : Nat → Prop) (r : Registry κ) (h : Nat)
    (entries : List (String × Option (Callback κ))) : Grows P r (r.registerAll h entries).2 :=
  grows_onHandler P r h fun d => Dispatcher.grows_registerAll d entries

theorem grows_registerService (P : Nat → Prop) (r : Registry κ) (h : Nat) (s : Service κ) :
    Grows P r (r.registerService h s).2 :=
  grows_onHandler P r h fun d => Dispatcher.grows_registerAll d _

/-! ## Messages -/

/-- What a callback asks for takes nothing away. -/
theorem grows_perform (P : Nat → Prop) (r : Registry κ) (request : Request κ) :
    Grows P r (r.perform request) := by
  cases request with
  | register h name callback =>
    simp only [perform]
    split
    · exact (grows_register P r h name callback).trans (grows_note P _ _)
    · exact .refl P r
  | add p name =>
    exact (grows_add P r p name).trans (grows_note P _ _)

theorem grows_performAll (P : Nat → Prop) (r : Registry κ) (asked : List (Request κ)) :
    Grows P r (asked.foldl perform r) := by
  induction asked generalizing r with
  | nil => exact .refl P r
  | cons request asked ih =>
    exact (grows_perform P r request).trans (ih _)

theorem grows_midway (P : Nat → Prop) (r : Registry κ) (call : Call κ)
    (asked : List (Request κ)) : Grows P r (r.midway call asked) :=
  (grows_note P r (.called call)).trans (grows_performAll P _ asked)

variable [Behaviour κ]

/-- A message takes nothing away. -/
theorem grows_dispatch (P : Nat → Prop) (r : Registry κ) (h : Nat)
    (resolve : Dispatcher κ → Except RelayError (Call κ)) :
    Grows P r (r.dispatch h resolve).2 := by
  unfold dispatch
  split
  · exact .refl P r
  · split
    · exact .refl P r
    · rw [run_eq_midway]
      exact grows_midway P r _ _

/-! ## Runs -/

/-- An operation takes nothing away but the handler that it releases. -/
theorem grows_act (r : Registry κ) (op : Operation κ) :
    Grows (fun h => op = .release h) r (r.act op).2 := by
  cases op with
  | newProtocol => exact grows_newProtocol _ r Protocol.sound_empty
  | netProtocol => exact grows_newProtocol _ r Protocol.sound_net
  | add p name => exact grows_add _ r p name
  | newHandler p =>
    simp only [act]
    split
    · next hp => exact grows_newHandler _ r hp
    · exact .refl _ r
  | withHandlers p entries =>
    simp only [act]
    split
    · next hp => exact grows_withHandlers _ r hp entries
    · exact .refl _ r
  | register h name callback => exact grows_register _ r h name callback
  | registerEntry h name entry => exact grows_registerEntry _ r h name entry
  | registerAll h entries => exact grows_registerAll _ r h entries
  | registerService h s => exact grows_registerService _ r h s
  | handle h message => exact grows_dispatch _ r h _
  | handlePacket h p => exact grows_dispatch _ r h _
  | release h =>
    apply (grows_release r h).mono
    intro h' hh
    rw [hh]

/-- A run loses no name, but for the handlers that are released in it. -/
theorem grows_after (r : Registry κ) (ops : List (Operation κ)) :
    Grows (fun h => Operation.release h ∈ ops) r (r.after ops) := by
  induction ops generalizing r with
  | nil => exact .refl _ r
  | cons op ops ih =>
    have hfirst : Grows (fun h => Operation.release h ∈ op :: ops) r (r.act op).2 := by
      apply (grows_act r op).mono
      intro h hh
      rw [hh]
      exact List.mem_cons_self
    have hrest : Grows (fun h => Operation.release h ∈ op :: ops) (r.act op).2
        (r.after (op :: ops)) := by
      apply (ih (r.act op).2).mono
      intro h hh
      exact List.mem_cons_of_mem op hh
    exact hfirst.trans hrest

/-! ## What a sound registry knows -/

/-- The names of a registry, as those who use it see them. -/
structure Coherent (r : Registry κ) : Prop where
  /-- the names of a handler's callbacks are names of its protocol -/
  registered : ∀ h x, r.Holds h x →
    ∀ name ∈ x.callbacks.keys, name ∈ (r.protocol x.protocol).names
  /-- no protocol has the empty name or the reserved one -/
  names_allowed : ∀ p, ∀ name ∈ (r.protocol p).names, name ≠ "" ∧ name ≠ "add"
  /-- and neither has a handler -/
  callbacks_allowed : ∀ h x, r.Holds h x → ∀ name ∈ x.callbacks.keys, name ≠ "" ∧ name ≠ "add"
  /-- the factory under a name is that of the name -/
  factory_name : ∀ p name f, (r.protocol p).get? name = some f → f.name = name
  /-- a packet that is asked for is made, with the name and the data -/
  packet : ∀ p, ∀ name ∈ (r.protocol p).names, ∀ data,
    ∃ q, (r.protocol p).packet name data = .ok q ∧ q.name = name ∧ q.data = data
  /-- the names of a protocol ascend strictly -/
  names_ascending : ∀ p, (r.protocol p).names.Pairwise (· < ·)
  /-- each name that is registered is listed once -/
  count_names : ∀ p name,
    (r.protocol p).names.count name = if (r.protocol p).contains name then 1 else 0

omit [Behaviour κ] in
/-- In a sound registry those who use it see what they should. -/
theorem Sound.coherent {r : Registry κ} (hs : r.Sound) : r.Coherent := by
  have hnames : ∀ p, ∀ name ∈ (r.protocol p).names, Protocol.Allowed name := by
    intro p name hn
    have hin := Protocol.contains_iff_mem_names.mpr hn
    obtain ⟨f, hf⟩ := Protocol.contains_iff_exists_get?.mp hin
    exact (hs.protocol p name f hf).1
  have hreg : ∀ h x, r.Holds h x →
      ∀ name ∈ x.callbacks.keys, name ∈ (r.protocol x.protocol).names := by
    intro h x hx name hn
    have hc := (hs.registered h x hx).2 name (Table.contains_iff_mem_keys.mpr hn)
    exact Protocol.contains_iff_mem_names.mp hc
  exact {
    registered := hreg
    names_allowed := hnames
    callbacks_allowed := fun h x hx name hn => hnames x.protocol name (hreg h x hx name hn)
    factory_name := fun p name f hf => (hs.protocol p name f hf).2
    packet := fun p name hn data => (hs.protocol p).packet hn data
    names_ascending := fun p => (r.protocol p).names_ascending
    count_names := fun p name => (r.protocol p).count_names name }

/-- In every state that a run reaches, between operations and while a
callback is running, the names of the registry are coherent; and from a
state to any later one no name is lost, but with a handler that is
released. -/
theorem coherent_after (ops more : List (Operation κ)) (call : Call κ)
    (asked next : List (Request κ)) :
    (after {} ops).Coherent ∧
    ((after {} ops).midway call asked).Coherent ∧
    Keeps (fun h => Operation.release h ∈ more) (after {} ops) (after {} (ops ++ more)) ∧
    Keeps (fun _ => False) (after {} ops) ((after {} ops).midway call asked) ∧
    Keeps (fun _ => False) ((after {} ops).midway call asked)
      ((after {} ops).midway call (asked ++ next)) := by
  have hs : (after ({} : Registry κ) ops).Sound := (grows_after {} ops).sound sound_empty
  have hmid := grows_midway (fun _ => False) (after {} ops) call asked
  refine ⟨hs.coherent, (hmid.sound hs).coherent, ?_, hmid.keeps, ?_⟩
  · rw [after_append]
    exact (grows_after (after {} ops) more).keeps
  · rw [midway_append]
    exact (grows_performAll _ _ next).keeps

end Registry

end PushRelay
