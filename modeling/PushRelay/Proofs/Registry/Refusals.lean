import PushRelay.Proofs.Registry.History

/-!
# PushRelay.Proofs.Registry.Refusals

What a failed operation leaves behind in a registry.

1. To register a list of callbacks is to register them one by one, up to
   the first name that no packet may have; entries without a callback are
   passed over, whatever their name (`registerAll_eq`).
2. A handler that is made with a list of callbacks is a new one with which
   the list is registered.  If one is refused the handler is gone, but the
   names before it stay in the protocol (`withHandlers_eq`).
3. All other operations change nothing where they fail
   (`attempt_of_error`).
-/

namespace PushRelay

variable {κ : Type}

/-! ## Lists of callbacks -/

/-- The entries of a list that have a callback. -/
def callable (entries : List (String × Option (Callback κ))) : List (String × Callback κ) :=
  entries.filterMap fun e => e.2.map fun callback => (e.1, callback)

/-- Those of them before the first name that no packet may have. -/
def admitted (entries : List (String × Option (Callback κ))) : List (String × Callback κ) :=
  (callable entries).takeWhile fun e => Protocol.Allowed e.1

/-- Whether there is such a name, and which one is refused. -/
def verdict (entries : List (String × Option (Callback κ))) : Except RelayError Unit :=
  match (callable entries).find? fun e => ¬ Protocol.Allowed e.1 with
  | some e => .error (.invalidPacketName e.1)
  | none => .ok ()

section Lists

variable {name : String} {callback : Callback κ} {entries : List (String × Option (Callback κ))}

theorem callable_cons_some (name : String) (callback : Callback κ)
    (entries : List (String × Option (Callback κ))) :
    callable ((name, some callback) :: entries) = (name, callback) :: callable entries := rfl

theorem admitted_of_allowed (h : Protocol.Allowed name) :
    admitted ((name, some callback) :: entries) = (name, callback) :: admitted entries := by
  rw [admitted, callable_cons_some, List.takeWhile_cons, decide_eq_true h, if_pos rfl, admitted]

/-- Nothing is admitted from the first name on that no packet may have. -/
theorem admitted_of_not_allowed (h : ¬ Protocol.Allowed name) :
    admitted ((name, some callback) :: entries) = [] := by
  rw [admitted, callable_cons_some, List.takeWhile_cons, decide_eq_false h,
    if_neg Bool.false_ne_true]

theorem verdict_of_allowed (h : Protocol.Allowed name) :
    verdict ((name, some callback) :: entries) = verdict entries := by
  simp only [verdict, callable_cons_some, List.find?_cons, h, not_true_eq_false, decide_false]

/-- Such a name is the one that is refused. -/
theorem verdict_of_not_allowed (h : ¬ Protocol.Allowed name) :
    verdict ((name, some callback) :: entries) = .error (.invalidPacketName name) := by
  simp only [verdict, callable_cons_some, List.find?_cons, h, not_false_eq_true, decide_true]

end Lists

/-! ## The callbacks of a service -/

namespace Service

/-- The callbacks of a service as a list, in the order of their names. -/
def entries (s : Service κ) : List (String × Option (Callback κ)) :=
  s.handlers.entries.map fun e => (e.1, some e.2)

/-- A service lists its callbacks in the order of their names. -/
theorem ascending_entries (s : Service κ) : (s.entries.map Prod.fst).Pairwise (· < ·) := by
  have hnames : s.entries.map Prod.fst = s.handlers.keys := by
    rw [entries, List.map_map]
    rfl
  rw [hnames]
  exact s.handlers.keys_ascending

/-- A service that was made has the callbacks of its list. -/
theorem handlersOf_eq_ok {entries : List (String × Option (Callback κ))}
    {t t' : Table String (Callback κ)} (h : handlersOf entries t = .ok t') :
    t' = t.insertAll (callable entries) := by
  induction entries generalizing t with
  | nil =>
    cases h
    rfl
  | cons entry entries ih =>
    obtain ⟨name, callback⟩ := entry
    cases callback with
    | none => contradiction
    | some callback => exact ih h

/-- A service keeps the last callback of each name. -/
theorem find?_of_ofEntries {name : String} {p : Protocol}
    {entries : List (String × Option (Callback κ))} {s : Service κ}
    (h : ofEntries name p entries = .ok s) (packet : String) :
    s.handlers.find? packet = (callable entries).reverse.lookup packet := by
  unfold ofEntries at h
  split at h
  · contradiction
  split at h
  · contradiction
  next handlers hhandlers =>
  split at h
  · contradiction
  split at h
  · contradiction
  cases h
  rw [handlersOf_eq_ok hhandlers, Table.find?_insertAll, Table.find?_empty, Option.or_none]

end Service

namespace Dispatcher

/-- A name that a packet may have is never refused. -/
theorem register_of_allowed {name : String} (h : Protocol.Allowed name) (d : Dispatcher κ)
    (callback : Callback κ) : ∃ d', d.register name callback = .ok d' := by
  cases hd : d.register name callback with
  | ok d' => exact ⟨d', rfl⟩
  | error e => exact absurd h (register_eq_error_iff.mp hd).2.1

/-- A sound protocol has no name that would have to be refused. -/
theorem register_of_not_allowed {d : Dispatcher κ} {name : String} (hd : d.protocol.Sound)
    (h : ¬ Protocol.Allowed name) (callback : Callback κ) :
    d.register name callback = .error (.invalidPacketName name) := by
  refine register_eq_error_iff.mpr ⟨?_, h, rfl⟩
  cases hin : d.protocol.contains name with
  | false => rfl
  | true =>
    obtain ⟨f, hf⟩ := Protocol.contains_iff_exists_get?.mp hin
    exact absurd (hd name f hf).1 h

end Dispatcher

namespace Registry

variable {r : Registry κ} {h p : Nat} {x : Handler κ} {e : RelayError}

/-! ## Putting a handler back -/

/-- A handler that is put back as it was taken out leaves no trace. -/
theorem putBack_self (hx : r.Holds h x) :
    r.putBack h x.protocol ⟨r.protocol x.protocol, x.callbacks⟩ = r := by
  obtain ⟨hlt, hget⟩ := List.getElem?_eq_some_iff.mp hx
  have hhandlers : r.handlers.set h (some x) = r.handlers := by
    rw [← hget, List.set_getElem_self]
  have hprotocols : r.protocols.set x.protocol (r.protocol x.protocol) = r.protocols := by
    by_cases hp : x.protocol < r.protocols.length
    · rw [protocol, List.getElem?_eq_getElem hp, Option.getD_some, List.set_getElem_self]
    · exact List.set_eq_of_length_le (Nat.le_of_not_lt hp)
  simp only [putBack, hprotocols, hhandlers]

theorem putBack_putBack (r : Registry κ) (h p : Nat) (d d' : Dispatcher κ) :
    (r.putBack h p d).putBack h p d' = r.putBack h p d' := by
  simp only [putBack, List.set_set]

theorem protocol_putBack (hp : p < r.protocols.length) (h : Nat) (d : Dispatcher κ) :
    (r.putBack h p d).protocol p = d.protocol := by
  have hset := protocol_set r d.protocol hp p
  rwa [if_pos rfl] at hset

/-- Work that fails leaves the registry as it was. -/
theorem onHandler_orKeep_of_error {work : Dispatcher κ → Except RelayError (Dispatcher κ)}
    (he : (r.onHandler h (orKeep work)).1 = .error e) : (r.onHandler h (orKeep work)).2 = r := by
  unfold onHandler at he ⊢
  split at he
  · next x hx =>
    unfold orKeep at he ⊢
    cases hwork : work ⟨r.protocol x.protocol, x.callbacks⟩ with
    | error e' => exact putBack_self hx
    | ok d =>
      rw [hwork] at he
      contradiction
  · contradiction

/-! ## Lists that are registered -/

theorem registerAll_nil (hx : r.Holds h x) : r.registerAll h [] = (.ok (), r) := by
  rw [registerAll, onHandler_of_holds hx, Dispatcher.registerAll, putBack_self hx]

theorem register_of_ok {name : String} {callback : Callback κ} {d : Dispatcher κ}
    (hx : r.Holds h x)
    (hregister : Dispatcher.register ⟨r.protocol x.protocol, x.callbacks⟩ name callback = .ok d) :
    r.register h name callback = (.ok (), r.putBack h x.protocol d) := by
  rw [register, onHandler_of_holds hx, orKeep, hregister]

/-- A callback that is registered on its own leaves what a list that begins
with it goes on from. -/
theorem registerAll_putBack {name : String} {callback : Callback κ} {d : Dispatcher κ}
    (hp : x.protocol < r.protocols.length) (hx : r.Holds h x)
    (hregister : Dispatcher.register ⟨r.protocol x.protocol, x.callbacks⟩ name callback = .ok d)
    (entries : List (String × Option (Callback κ))) :
    r.registerAll h ((name, some callback) :: entries) =
      (r.putBack h x.protocol d).registerAll h entries := by
  have hback : (r.putBack h x.protocol d).Holds h ⟨x.protocol, d.callbacks⟩ :=
    (holds_putBack hx).mpr (.inl ⟨rfl, rfl⟩)
  rw [registerAll, registerAll, onHandler_of_holds hx, onHandler_of_holds hback,
    protocol_putBack hp, putBack_putBack]
  simp only [Dispatcher.registerAll, hregister]

variable [Behaviour κ]

/-- The registry after callbacks were registered with a handler one by
one. -/
def registering (r : Registry κ) (h : Nat) (pairs : List (String × Callback κ)) : Registry κ :=
  r.after (pairs.map fun e => .register h e.1 e.2)

/-- To register a list is to register its callbacks one by one, up to the
first name that is refused. -/
theorem registerAll_eq (hs : r.Sound) (hx : r.Holds h x)
    (entries : List (String × Option (Callback κ))) :
    r.registerAll h entries = (verdict entries, r.registering h (admitted entries)) := by
  induction entries generalizing r x with
  | nil => exact registerAll_nil hx
  | cons entry entries ih =>
    obtain ⟨name, callback⟩ := entry
    cases callback with
    -- the entry is passed over by `registerAll` and by `callable` alike
    | none => exact ih hs hx
    | some callback =>
      by_cases hallowed : Protocol.Allowed name
      · obtain ⟨d, hregister⟩ := Dispatcher.register_of_allowed hallowed
          ⟨r.protocol x.protocol, x.callbacks⟩ callback
        have hfirst := register_of_ok hx hregister
        have hback : (r.putBack h x.protocol d).Holds h ⟨x.protocol, d.callbacks⟩ :=
          (holds_putBack hx).mpr (.inl ⟨rfl, rfl⟩)
        have hsound : (r.putBack h x.protocol d).Sound := by
          have hgrows := (grows_register (fun _ => False) r h name callback).sound hs
          rwa [hfirst] at hgrows
        have hsame : r.registering h ((name, callback) :: admitted entries) =
            (r.putBack h x.protocol d).registering h (admitted entries) := by
          rw [registering, List.map_cons, after_cons, act, hfirst]
          rfl
        rw [registerAll_putBack (hs.registered h x hx).1 hx hregister, ih hsound hback,
          verdict_of_allowed hallowed, admitted_of_allowed hallowed, hsame]
      · have hprotocol : (r.protocol x.protocol).Sound := hs.protocol x.protocol
        have hrefused : Dispatcher.register ⟨r.protocol x.protocol, x.callbacks⟩ name callback =
            .error (.invalidPacketName name) :=
          Dispatcher.register_of_not_allowed hprotocol hallowed callback
        rw [verdict_of_not_allowed hallowed, admitted_of_not_allowed hallowed, registerAll,
          onHandler_of_holds hx]
        simp only [Dispatcher.registerAll, hrefused, putBack_self hx]
        rfl

/-- The registry with the handlers that another one has. -/
def withHandlersOf (r r₀ : Registry κ) : Registry κ := { r with handlers := r₀.handlers }

omit [Behaviour κ] in
/-- A new handler that is put back stands at the end. -/
theorem putBack_newHandler (r : Registry κ) (p : Nat) (d : Dispatcher κ) :
    (r.newHandler p).2.putBack r.handlers.length p d =
      { r with
        protocols := r.protocols.set p d.protocol
        handlers := r.handlers ++ [some ⟨p, d.callbacks⟩] } := by
  simp [newHandler, putBack]

/-- A handler that is made with a list of callbacks is a new one with which
the list is registered, and which is gone if one of them is refused. -/
theorem withHandlers_eq (hs : r.Sound) (hp : p < r.protocols.length)
    (entries : List (String × Option (Callback κ))) :
    r.withHandlers p entries =
      match verdict entries with
      | .error e => (.error e,
          ((r.newHandler p).2.registering r.handlers.length (admitted entries)).withHandlersOf r)
      | .ok _ => (.ok r.handlers.length,
          (r.newHandler p).2.registering r.handlers.length (admitted entries)) := by
  have hnew : (r.newHandler p).2.Holds r.handlers.length
      ⟨p, (Dispatcher.ofProtocol (r.protocol p)).callbacks⟩ :=
    holds_enter.mpr (.inr ⟨rfl, rfl⟩)
  have hs' := (grows_newHandler (fun _ => False) r hp).sound hs
  have hall := registerAll_eq hs' hnew entries
  have htaken : (⟨(r.newHandler p).2.protocol p, (Dispatcher.ofProtocol (r.protocol p)).callbacks⟩ :
      Dispatcher κ) = .ofProtocol (r.protocol p) := rfl
  rw [registerAll, onHandler_of_holds hnew, htaken, putBack_newHandler] at hall
  obtain ⟨hresult, hstate⟩ := Prod.mk.inj hall
  rw [← hstate, ← hresult, withHandlers]
  cases (Dispatcher.ofProtocol (r.protocol p)).registerAll entries with
  | mk result d =>
    cases result with
    | error e => rfl
    | ok _ => rfl

/-! ## Whatever else fails -/

/-- What may be asked of a registry: an operation, or a packet or a service
to be made over one of its protocols. -/
inductive Attempt (κ : Type) where
  | act (op : Operation κ)
  | packet (protocol : Nat) (name : String) (data : Json)
  | service (name : String) (protocol : Nat) (entries : List (String × Option (Callback κ)))

/-- Does what is asked for, and says whether it failed. -/
def attempt (r : Registry κ) : Attempt κ → Except RelayError Unit × Registry κ
  | .act op => r.act op
  | .packet p name data => (((r.protocol p).packet name data).map fun _ => (), r)
  | .service name p entries => ((Service.ofEntries name (r.protocol p) entries).map fun _ => (), r)

/-- A list of callbacks is registered. -/
def Attempt.Listed : Attempt κ → Prop
  | .act (.withHandlers _ _) | .act (.registerAll _ _) | .act (.registerService _ _) => True
  | _ => False

/-- A message that is refused leaves the registry as it was. -/
theorem dispatch_of_error {resolve : Dispatcher κ → Except RelayError (Call κ)}
    (he : (r.dispatch h resolve).1 = .error e) : (r.dispatch h resolve).2 = r := by
  unfold dispatch at he ⊢
  split at he
  · contradiction
  · split at he
    · rfl
    · contradiction

/-- What fails changes nothing, unless a list was to be registered. -/
theorem attempt_of_error {a : Attempt κ} (ha : ¬ a.Listed) (he : (r.attempt a).1 = .error e) :
    (r.attempt a).2 = r := by
  cases a with
  | packet p name data => rfl
  | service name p entries => rfl
  | act op =>
    cases op with
    | newProtocol => contradiction
    | netProtocol => contradiction
    | add p name =>
      simp only [attempt, act, add] at he ⊢
      split at he
      · rfl
      · contradiction
    | newHandler p =>
      simp only [attempt, act] at he
      split at he <;> contradiction
    | withHandlers p entries => exact absurd trivial ha
    | register h name callback => exact onHandler_orKeep_of_error he
    | registerEntry h name entry => exact onHandler_orKeep_of_error he
    | registerAll h entries => exact absurd trivial ha
    | registerService h s => exact absurd trivial ha
    | handle h message => exact dispatch_of_error he
    | handlePacket h packet => exact dispatch_of_error he
    | release h => contradiction

/-! ## Every state -/

/-- What becomes of a registry where something fails. -/
structure Refusals (r : Registry κ) : Prop where
  /-- a list is registered with a handler up to the first name that no
  packet may have -/
  registerAll : ∀ h x entries, r.Holds h x →
    r.registerAll h entries = (verdict entries, r.registering h (admitted entries))
  /-- a handler that is made with a list is gone where that fails, and its
  protocol is what the list has made of it -/
  withHandlers : ∀ p entries, p < r.protocols.length →
    r.withHandlers p entries =
      match verdict entries with
      | .error e => (.error e,
          ((r.newHandler p).2.registering r.handlers.length (admitted entries)).withHandlersOf r)
      | .ok _ => (.ok r.handlers.length,
          (r.newHandler p).2.registering r.handlers.length (admitted entries))
  /-- a service is registered as the list of its callbacks, in the order of
  their names -/
  registerService : ∀ h x (s : Service κ), r.Holds h x →
    (s.entries.map Prod.fst).Pairwise (· < ·) ∧
      r.registerService h s = (verdict s.entries, r.registering h (admitted s.entries))
  /-- of the callbacks that a service was made with it has the last one of
  each name -/
  service : ∀ name p entries (s : Service κ), Service.ofEntries name (r.protocol p) entries = .ok s →
    ∀ packet, s.handlers.find? packet = (callable entries).reverse.lookup packet
  /-- all else that fails changes nothing -/
  others : ∀ a e, ¬ Attempt.Listed a → (r.attempt a).1 = .error e → (r.attempt a).2 = r

/-- What fails in a sound registry leaves behind what `Refusals` says. -/
theorem Sound.refusals (hs : r.Sound) : r.Refusals where
  registerAll _ _ entries hx := registerAll_eq hs hx entries
  withHandlers _ entries hp := withHandlers_eq hs hp entries
  registerService _ _ s hx := ⟨s.ascending_entries, registerAll_eq hs hx s.entries⟩
  service _ _ _ _ h := Service.find?_of_ofEntries h
  others _ _ ha he := attempt_of_error ha he

/-- What fails leaves behind what is said in `Refusals`, in every state that
a run reaches: between operations, and while a callback is running. -/
theorem refusals_after (ops : List (Operation κ)) (call : Call κ) (asked : List (Request κ)) :
    (after {} ops).Refusals ∧ ((after {} ops).midway call asked).Refusals := by
  have hs : (after ({} : Registry κ) ops).Sound := (grows_after {} ops).sound sound_empty
  have hmid := grows_midway (fun _ => False) (after {} ops) call asked
  exact ⟨hs.refusals, (hmid.sound hs).refusals⟩

/-- The name before the one that is refused stays, in the handler and in the
protocol, and no new handler does. -/
theorem refusals_after_clock :
    let entries : List (String × Option (Callback ScriptedAction)) :=
      [("clock", some .noop), ("add", none), ("", some .noop), ("news", some .noop)]
    let refused : RelayError := .invalidPacketName ""
    let r := after {} [.newProtocol, .newHandler 0]
    let r' := r.registering 0 [("clock", .noop)]
    r.Holds 0 ⟨0, ∅⟩ ∧ r.registerAll 0 entries = (.error refused, r') ∧
      (r'.protocol 0).names = ["clock"] ∧ r'.handlers = [some ⟨0, Table.insert ∅ "clock" .noop⟩] ∧
      (r.withHandlers 0 entries).1 = .error refused ∧
      ((r.withHandlers 0 entries).2.protocol 0).names = ["clock"] ∧
      (r.withHandlers 0 entries).2.handlers = [some ⟨0, ∅⟩] := by
  intro entries refused r r'
  have hholds : r.Holds 0 ⟨0, ∅⟩ := rfl
  have hlength : 0 < r.protocols.length := by decide
  obtain ⟨hrefusals, -⟩ := refusals_after (κ := ScriptedAction) [.newProtocol, .newHandler 0]
    ⟨.noop, .null, "clock"⟩ []
  refine ⟨hholds, hrefusals.registerAll 0 _ entries hholds, rfl, rfl, ?_⟩
  rw [hrefusals.withHandlers 0 entries hlength]
  exact ⟨rfl, rfl, rfl⟩

end Registry

end PushRelay
