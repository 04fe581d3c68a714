import PushRelay.Proofs.Registry.Run

/-!
# PushRelay.Proofs.Registry.Names

The names that protocols and handlers know.

1. A protocol is sound if every name in it may be added, and has the
   factory of that name.
2. The callbacks of a dispatcher have names of its protocol only.  Every
   way to register callbacks keeps that, whether it fails or not, since a
   name goes to the protocol first.
3. In a registry the handlers share their protocols.  What works on one
   handler only adds names to the protocol of the others.
-/

namespace PushRelay

variable {κ : Type}

/-- The keys of a table are listed in order. -/
theorem Table.keys_ascending {α : Type} (t : Table String α) : t.keys.Pairwise (· < ·) := by
  unfold keys
  rw [List.pairwise_map]
  apply t.ascending.imp
  intro a b hab
  exact compareOfLessAndEq_eq_lt.mp hab

/-! ## Protocols -/

namespace Protocol

variable {p q r : Protocol} {name : String} {f : Packet.Factory}

/-- Every name may be added, and its factory is its own. -/
def Sound (p : Protocol) : Prop :=
  ∀ name f, p.get? name = some f → Allowed name ∧ f.name = name

/-- No name is lost from `p` to `q`. -/
def Extends (p q : Protocol) : Prop := ∀ name, p.contains name → q.contains name

theorem Extends.refl (p : Protocol) : p.Extends p := fun _ h => h

theorem Extends.trans (hpq : p.Extends q) (hqr : q.Extends r) : p.Extends r :=
  fun name h => hqr name (hpq name h)

/-- A protocol contains the names that it lists. -/
theorem contains_iff_mem_names : p.contains name ↔ name ∈ p.names :=
  Table.contains_iff_mem_keys

/-- A protocol contains the names that have a factory. -/
theorem contains_iff_exists_get? : p.contains name ↔ ∃ f, p.get? name = some f :=
  Option.isSome_iff_exists

theorem sound_empty : empty.Sound := by
  intro name f h
  simp [get?, empty, Table.find?, Table.empty, EmptyCollection.emptyCollection, Entries.find?] at h

/-- A packet that is entered under its own allowed name leaves a protocol
sound. -/
theorem Sound.insert (h : p.Sound) (hf : Allowed f.name) :
    Sound ⟨p.packets.insert f.name f⟩ := by
  intro name g hg
  rw [get?, Table.find?_insert] at hg
  split at hg
  · next hname =>
    have hgf : f = g := Option.some.inj hg
    subst hgf hname
    exact ⟨hf, rfl⟩
  · exact h name g hg

theorem sound_net : net.Sound :=
  (sound_empty.insert (f := ⟨subscribeName, by decide⟩) (by decide)).insert
    (f := ⟨unsubscribeName, by decide⟩) (by decide)

/-- A name that is added may be added. -/
theorem Sound.add (h : p.Sound) (ha : p.add name = .ok (f, q)) : q.Sound := by
  obtain ⟨hf, hr, rfl⟩ := add_eq_ok_iff.mp ha
  subst hf
  exact h.insert ⟨f.name_ne, hr⟩

theorem extends_add (ha : p.add name = .ok (f, q)) : p.Extends q := by
  obtain ⟨-, -, rfl⟩ := add_eq_ok_iff.mp ha
  intro other h
  simp only [contains, Table.contains_insert, Bool.or_eq_true]
  exact Or.inr h

/-- A name that was added is there. -/
theorem contains_add (ha : p.add name = .ok (f, q)) : q.contains name := by
  obtain ⟨-, -, rfl⟩ := add_eq_ok_iff.mp ha
  simp [contains]

/-- Names are listed in order. -/
theorem names_ascending (p : Protocol) : p.names.Pairwise (· < ·) :=
  p.packets.keys_ascending

/-- A name is listed once or not at all. -/
theorem count_names (p : Protocol) (name : String) :
    p.names.count name = if p.contains name then 1 else 0 :=
  Table.count_keys p.packets name

/-- A sound protocol makes the packet that it is asked for. -/
theorem Sound.packet (h : p.Sound) (hn : name ∈ p.names) (data : Json) :
    ∃ q, p.packet name data = .ok q ∧ q.name = name ∧ q.data = data := by
  have hin : p.contains name := contains_iff_mem_names.mpr hn
  obtain ⟨f, hf⟩ := contains_iff_exists_get?.mp hin
  have hpacket : p.packet name data = .ok (f.create data) := by
    simp [Protocol.packet, hf]
  exact ⟨f.create data, hpacket, (h name f hf).2, rfl⟩

/-- A packet has the name and the data that it was asked for with. -/
theorem Sound.of_packet (h : p.Sound) {data : Json} {packet : Packet Json}
    (hpacket : p.packet name data = .ok packet) : packet.name = name ∧ packet.data = data := by
  have hin : p.contains name := by
    cases hget : p.get? name with
    | none =>
      rw [Protocol.packet, hget] at hpacket
      contradiction
    | some f => exact contains_iff_exists_get?.mpr ⟨f, hget⟩
  obtain ⟨q, hq, hname, hdata⟩ := h.packet (contains_iff_mem_names.mp hin) data
  rw [hpacket] at hq
  rw [Except.ok.inj hq]
  exact ⟨hname, hdata⟩

end Protocol

/-! ## Dispatchers -/

namespace Dispatcher

variable {d d' d'' : Dispatcher κ} {name : String} {callback : Callback κ}

/-- The protocol has the names of all callbacks. -/
def Registered (d : Dispatcher κ) : Prop :=
  ∀ name, d.callbacks.contains name → d.protocol.contains name

/-- A step to `d'` that loses no name, and keeps what is sound. -/
structure Grows (d d' : Dispatcher κ) : Prop where
  protocol : d.protocol.Extends d'.protocol
  callbacks : ∀ name, d.callbacks.contains name → d'.callbacks.contains name
  sound : d.protocol.Sound → d'.protocol.Sound
  registered : d.Registered → d'.Registered

theorem Grows.refl (d : Dispatcher κ) : d.Grows d := ⟨.refl _, fun _ h => h, id, id⟩

theorem Grows.trans (g : d.Grows d') (g' : d'.Grows d'') : d.Grows d'' where
  protocol := g.protocol.trans g'.protocol
  callbacks name hn := g'.callbacks name (g.callbacks name hn)
  sound hs := g'.sound (g.sound hs)
  registered hr := g'.registered (g.registered hr)

theorem registered_ofProtocol (p : Protocol) : (ofProtocol p : Dispatcher κ).Registered := by
  intro name hn
  simpa [ofProtocol, Protocol.contains, Table.contains_iff_mem_keys, Table.keys, Table.map]
    using hn

/-- A registration goes to the protocol first, so the name is there when
the callback is. -/
theorem protocol_of_register (h : d.register name callback = .ok d') :
    d.protocol.Extends d'.protocol ∧ d'.protocol.contains name ∧
      (d.protocol.Sound → d'.protocol.Sound) := by
  unfold register at h
  split at h
  · next hin =>
    cases h
    exact ⟨.refl _, hin, id⟩
  · split at h
    · cases h
    · next f p ha =>
      cases h
      exact ⟨Protocol.extends_add ha, Protocol.contains_add ha, fun hs => hs.add ha⟩

/-- A callback that is registered takes no name away. -/
theorem grows_register (h : d.register name callback = .ok d') : d.Grows d' := by
  have hc := callbacks_of_register h
  obtain ⟨hext, hname, hsound⟩ := protocol_of_register h
  constructor
  case protocol => exact hext
  case callbacks =>
    intro other ho
    rw [hc, Table.contains_insert, ho, Bool.or_true]
  case sound => exact hsound
  case registered =>
    intro hr other ho
    rw [hc, Table.contains_insert, Bool.or_eq_true, decide_eq_true_eq] at ho
    cases ho with
    | inl ho =>
      rw [ho]
      exact hname
    | inr ho => exact hext other (hr other ho)

/-- A list takes no name away, even where it is refused. -/
theorem grows_registerAll (d : Dispatcher κ) (entries : List (String × Option (Callback κ))) :
    d.Grows (d.registerAll entries).2 := by
  induction entries generalizing d with
  | nil => exact .refl d
  | cons entry entries ih =>
    obtain ⟨name, callback⟩ := entry
    cases callback with
    | none => exact ih d
    | some callback =>
      cases hr : d.register name callback with
      | error e =>
        simp only [registerAll, hr]
        exact .refl d
      | ok d' =>
        simp only [registerAll, hr]
        exact (grows_register hr).trans (ih d')

end Dispatcher

/-! ## Registries -/

namespace Registry

variable {r r' r'' : Registry κ} {h p : Nat} {name : String} {P Q : Nat → Prop}

/-- Handler `h` was made and not released, and is `x`. -/
def Holds (r : Registry κ) (h : Nat) (x : Handler κ) : Prop := r.handlers[h]? = some (some x)

/-- All protocols are sound, and the protocol of a handler is there and has
the names of all its callbacks. -/
structure Sound (r : Registry κ) : Prop where
  protocols : ∀ p ∈ r.protocols, p.Sound
  registered : ∀ h x, r.Holds h x →
    x.protocol < r.protocols.length ∧
      ∀ name, x.callbacks.contains name → (r.protocol x.protocol).contains name

/-- No name is lost from `r` to `r'`, neither from a protocol nor from a
handler, but for the handlers in `P`, which may have been released. -/
structure Keeps (P : Nat → Prop) (r r' : Registry κ) : Prop where
  protocols : ∀ p, (r.protocol p).Extends (r'.protocol p)
  handlers : ∀ h x, r.Holds h x → ¬ P h →
    ∃ x', r'.Holds h x' ∧ x'.protocol = x.protocol ∧
      ∀ name, x.callbacks.contains name → x'.callbacks.contains name

theorem Keeps.refl (P : Nat → Prop) (r : Registry κ) : Keeps P r r :=
  ⟨fun p => .refl (r.protocol p), fun _ x hx _ => ⟨x, hx, rfl, fun _ hn => hn⟩⟩

theorem Keeps.trans (k : Keeps P r r') (k' : Keeps P r' r'') : Keeps P r r'' where
  protocols p := (k.protocols p).trans (k'.protocols p)
  handlers h x hx hP := by
    obtain ⟨x', hx', hp', hc'⟩ := k.handlers h x hx hP
    obtain ⟨x'', hx'', hp'', hc''⟩ := k'.handlers h x' hx' hP
    exact ⟨x'', hx'', hp''.trans hp', fun name hn => hc'' name (hc' name hn)⟩

theorem Keeps.mono (k : Keeps P r r') (hPQ : ∀ h, P h → Q h) : Keeps Q r r' :=
  ⟨k.protocols, fun h x hx hQ => k.handlers h x hx fun hP => hQ (hPQ h hP)⟩

/-- A step to `r'` that keeps soundness, and every name but those of the
handlers in `P`. -/
structure Grows (P : Nat → Prop) (r r' : Registry κ) : Prop where
  sound : r.Sound → r'.Sound
  keeps : Keeps P r r'

theorem Grows.refl (P : Nat → Prop) (r : Registry κ) : Grows P r r := ⟨id, .refl P r⟩

theorem Grows.trans (g : Grows P r r') (g' : Grows P r' r'') : Grows P r r'' :=
  ⟨fun hs => g'.sound (g.sound hs), g.keeps.trans g'.keeps⟩

theorem Grows.mono (g : Grows P r r') (hPQ : ∀ h, P h → Q h) : Grows Q r r' :=
  ⟨g.sound, g.keeps.mono hPQ⟩

/-- The journal does not matter. -/
theorem grows_note (P : Nat → Prop) (r : Registry κ) (n : Notice κ) : Grows P r (r.note n) :=
  ⟨fun hs => ⟨hs.protocols, hs.registered⟩, ⟨(Keeps.refl P r).protocols, (Keeps.refl P r).handlers⟩⟩

/-- A protocol that was not made is empty, and sound as such. -/
theorem Sound.protocol (hs : r.Sound) (p : Nat) : (r.protocol p).Sound := by
  unfold Registry.protocol
  cases hp : r.protocols[p]? with
  | none => exact Protocol.sound_empty
  | some q => exact hs.protocols q (List.mem_of_getElem? hp)

/-! ### One protocol is replaced -/

theorem protocol_set (r : Registry κ) (q : Protocol) (hp : p < r.protocols.length) (i : Nat) :
    (r.protocols.set p q)[i]?.getD ∅ = if i = p then q else r.protocol i := by
  unfold Registry.protocol
  by_cases hi : i = p
  · subst hi
    simp [hp]
  · simp [hi, List.getElem?_set_ne (Ne.symm hi)]

/-- Protocols lose no names when one of them is extended. -/
theorem extends_set (r : Registry κ) {q : Protocol} (hq : (r.protocol p).Extends q) (i : Nat) :
    (r.protocol i).Extends ((r.protocols.set p q)[i]?.getD ∅) := by
  by_cases hp : p < r.protocols.length
  · rw [protocol_set r q hp]
    split
    · subst i
      exact hq
    · exact .refl _
  · rw [List.set_eq_of_length_le (Nat.le_of_not_lt hp)]
    exact .refl _

/-- A protocol may be put in the place of one that it extends. -/
theorem grows_set {q : Protocol} (hq : (r.protocol p).Extends q)
    (hqs : (r.protocol p).Sound → q.Sound) :
    Grows P r { r with protocols := r.protocols.set p q } where
  sound hs := by
    constructor
    · intro q' hq'
      cases List.mem_or_eq_of_mem_set hq' with
      | inl hq' => exact hs.protocols q' hq'
      | inr hq' =>
        rw [hq']
        exact hqs (hs.protocol p)
    · intro h x hx
      obtain ⟨hlt, hreg⟩ := hs.registered h x hx
      have hlt' : x.protocol < (r.protocols.set p q).length := by rwa [List.length_set]
      exact ⟨hlt', fun name hn => extends_set r hq x.protocol name (hreg name hn)⟩
  keeps := ⟨extends_set r hq, (Keeps.refl P r).handlers⟩

/-! ### One handler is replaced, entered or released -/

theorem Holds.lt {x : Handler κ} (hx : r.Holds h x) : h < r.handlers.length :=
  (List.getElem?_eq_some_iff.mp hx).1

/-- A handler is one thing at a time. -/
theorem Holds.unique {x y : Handler κ} (hx : r.Holds h x) (hy : r.Holds h y) : x = y := by
  unfold Holds at hx hy
  rw [hx] at hy
  cases hy
  rfl

theorem dispatcher?_of_holds {x : Handler κ} (hx : r.Holds h x) :
    r.dispatcher? h = some ⟨r.protocol x.protocol, x.callbacks⟩ := by
  rw [dispatcher?, hx]

/-- Putting a handler back changes that handler alone. -/
theorem holds_putBack {x : Handler κ} (hx : r.Holds h x) {d : Dispatcher κ} {h' : Nat}
    {x' : Handler κ} :
    (r.putBack h p d).Holds h' x' ↔
      h' = h ∧ x' = ⟨p, d.callbacks⟩ ∨ h' ≠ h ∧ r.Holds h' x' := by
  simp only [Holds, putBack]
  by_cases hh : h' = h
  · subst hh
    simp [hx.lt, eq_comm]
  · simp [hh, List.getElem?_set_ne (Ne.symm hh)]

theorem holds_enter {x y : Handler κ} :
    Holds { r with handlers := r.handlers ++ [some y] } h x ↔
      r.Holds h x ∨ h = r.handlers.length ∧ x = y := by
  simp only [Holds]
  by_cases hl : h < r.handlers.length
  · simp [List.getElem?_append_left hl, Nat.ne_of_lt hl]
  · have hn : r.handlers[h]? = none := List.getElem?_eq_none (Nat.le_of_not_lt hl)
    by_cases hlast : h = r.handlers.length
    · simp [hlast, eq_comm]
    · have hbeyond : (r.handlers ++ [some y])[h]? = none := by
        rw [List.getElem?_eq_none_iff, List.length_append, List.length_singleton]
        omega
      simp [hn, hlast, hbeyond]

/-- Releasing a handler leaves the others. -/
theorem holds_release {x : Handler κ} {h' : Nat} :
    (r.release h).Holds h' x ↔ h' ≠ h ∧ r.Holds h' x := by
  simp only [Holds, release]
  by_cases hh : h' = h
  · subst hh
    by_cases hl : h' < r.handlers.length <;> simp [hl]
  · simp [hh, List.getElem?_set_ne (Ne.symm hh)]

/-- Putting back the dispatcher of a handler, after work that lets a
dispatcher only grow. -/
theorem grows_putBack {x : Handler κ} (hx : r.Holds h x) {d : Dispatcher κ}
    (g : Dispatcher.Grows ⟨r.protocol x.protocol, x.callbacks⟩ d) :
    Grows P r (r.putBack h x.protocol d) where
  sound hs := by
    obtain ⟨hlt, hreg⟩ := hs.registered h x hx
    have hset := (grows_set (P := P) g.protocol g.sound).sound hs
    constructor
    · exact hset.protocols
    · intro h' x' hx'
      cases (holds_putBack hx).mp hx' with
      | inl hself =>
        -- the handler itself: its protocol is the one that was put back
        have hx' : x' = ⟨x.protocol, d.callbacks⟩ := hself.2
        subst hx'
        have hp := protocol_set r d.protocol hlt x.protocol
        rw [if_pos rfl] at hp
        constructor
        · simpa [putBack] using hlt
        · intro name hn
          simpa only [Registry.protocol, putBack, hp] using g.registered hreg name hn
      | inr hother => exact hset.registered h' x' hother.2
  keeps := by
    constructor
    · exact extends_set r g.protocol
    · intro h' x' hx' _
      by_cases hh : h' = h
      · subst hh
        have hxx := hx.unique hx'
        subst hxx
        have hback : (r.putBack h' x.protocol d).Holds h' ⟨x.protocol, d.callbacks⟩ :=
          (holds_putBack hx).mpr (Or.inl ⟨rfl, rfl⟩)
        exact ⟨_, hback, rfl, g.callbacks⟩
      · have hback : (r.putBack h x.protocol d).Holds h' x' :=
          (holds_putBack hx).mpr (Or.inr ⟨hh, hx'⟩)
        exact ⟨x', hback, rfl, fun _ hn => hn⟩

/-- Work that lets every dispatcher grow lets the registry grow. -/
theorem grows_onHandler (P : Nat → Prop) (r : Registry κ) (h : Nat)
    {work : Dispatcher κ → Except RelayError Unit × Dispatcher κ}
    (g : ∀ d, Dispatcher.Grows d (work d).2) : Grows P r (r.onHandler h work).2 := by
  unfold onHandler
  split
  · next x hx => exact grows_putBack hx (g _)
  · exact .refl P r

/-- A handler is entered over a protocol that is there. -/
theorem grows_enter (hp : p < r.protocols.length) {callbacks : Table String (Callback κ)}
    (hc : ∀ name, callbacks.contains name → (r.protocol p).contains name) :
    Grows P r { r with handlers := r.handlers ++ [some ⟨p, callbacks⟩] } where
  sound hs := by
    constructor
    · exact hs.protocols
    · intro h x hx
      cases holds_enter.mp hx with
      | inl hx => exact hs.registered h x hx
      | inr hlast =>
        rw [hlast.2]
        exact ⟨hp, hc⟩
  keeps := by
    constructor
    · exact (Keeps.refl P r).protocols
    · intro h x hx _
      exact ⟨x, holds_enter.mpr (Or.inl hx), rfl, fun _ hn => hn⟩

theorem grows_release (r : Registry κ) (h : Nat) : Grows (· = h) r (r.release h) where
  sound hs := ⟨hs.protocols, fun h' x hx => hs.registered h' x (holds_release.mp hx).2⟩
  keeps := by
    constructor
    · exact (Keeps.refl (· = h) r).protocols
    · intro h' x hx hh
      exact ⟨x, holds_release.mpr ⟨hh, hx⟩, rfl, fun _ hn => hn⟩

end Registry

end PushRelay
