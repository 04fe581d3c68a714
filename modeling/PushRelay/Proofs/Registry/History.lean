import PushRelay.Proofs.Registry.Inbound

/-!
# PushRelay.Proofs.Registry.History

What a handler does with a message follows from what was registered with it.

1. A handler starts with nothing to do for each name that its protocol has.
2. Of the registrations of a name the latest one that succeeded counts,
   whether it was made from outside or by a callback that was running
   (`Registry.registrations`).
3. Nothing else matters: neither what is added to the protocol, nor what is
   registered with other handlers of the same protocol.

A callback is looked up before it runs, so what it registers is part of the
history only for later messages.
-/

namespace PushRelay

variable {κ : Type}

namespace Dispatcher

/-- The callbacks of a list that are registered: those before the first name
that is refused. -/
def accepted (d : Dispatcher κ) : List (String × Option (Callback κ)) → List (String × Callback κ)
  | [] => []
  | (_, none) :: entries => d.accepted entries
  | (name, some callback) :: entries =>
    match d.register name callback with
    | .error _ => []
    | .ok d => (name, callback) :: d.accepted entries

/-- A list leaves the callbacks of it that are accepted on top. -/
theorem callbacks_registerAll (d : Dispatcher κ) (entries : List (String × Option (Callback κ))) :
    (d.registerAll entries).2.callbacks = d.callbacks.insertAll (d.accepted entries) := by
  induction entries generalizing d with
  | nil => rfl
  | cons entry entries ih =>
    obtain ⟨name, callback⟩ := entry
    cases callback with
    | none => exact ih d
    | some callback =>
      cases hr : d.register name callback with
      | error e =>
        simp only [registerAll, accepted, hr]
        rfl
      | ok d' =>
        simp only [registerAll, accepted, hr]
        rw [ih d', callbacks_of_register hr]
        rfl

/-- A single registration is a list of one. -/
theorem registerAll_singleton (d : Dispatcher κ) (name : String) (callback : Callback κ) :
    d.registerAll [(name, some callback)] =
      Registry.orKeep (fun d => d.register name callback) d := by
  rw [registerAll, Registry.orKeep]
  cases d.register name callback with
  | error e => rfl
  | ok d' => rfl

/-- A new dispatcher has nothing to do for the names of its protocol. -/
theorem find?_ofProtocol (p : Protocol) (name : String) :
    (ofProtocol p : Dispatcher κ).callbacks.find? name =
      if p.contains name then some .noop else none := by
  rw [ofProtocol, Table.find?_map, Protocol.contains, Table.contains]
  cases p.packets.find? name with
  | none => rfl
  | some factory => rfl

end Dispatcher

/-! ## Registrations -/

/-- What a callback asks to register: the handler, and the entries. -/
def Request.entries? : Request κ → Option (Nat × List (String × Option (Callback κ)))
  | .register h name callback => some (h, [(name, some callback)])
  | .add _ _ => none

namespace Registry

/-- What is to be registered from outside: the handler, and the entries. -/
def Operation.entries? : Operation κ → Option (Nat × List (String × Option (Callback κ)))
  | .register h name callback => some (h, [(name, some callback)])
  | .registerEntry h name entry => some (h, [(name, entry)])
  | .registerAll h entries => some (h, entries)
  | .registerService h s => some (h, s.handlers.entries.map fun e => (e.1, some e.2))
  | .newProtocol | .netProtocol | .add _ _ | .newHandler _ | .withHandlers _ _ | .handle _ _
  | .handlePacket _ _ | .release _ => none

/-- What of that is registered with handler `h`. -/
def accepted (r : Registry κ) (h : Nat) :
    Option (Nat × List (String × Option (Callback κ))) → List (String × Callback κ)
  | none => []
  | some (h', entries) =>
    if h' = h then
      match r.dispatcher? h with
      | none => []
      | some d => d.accepted entries
    else []

/-- What is registered with handler `h` while a callback is running, request
by request. -/
def acceptedAll (h : Nat) : Registry κ → List (Request κ) → List (String × Callback κ)
  | _, [] => []
  | r, request :: requests =>
    r.accepted h request.entries? ++ acceptedAll h (r.perform request) requests

/-- The call that a message leads to. -/
def Operation.call? (r : Registry κ) : Operation κ → Option (Call κ)
  | .handle h message => (r.dispatcher? h).bind fun d => (d.resolve message).toOption
  | .handlePacket h p => (r.dispatcher? h).bind fun d => (d.resolvePacket p).toOption
  | .newProtocol | .netProtocol | .add _ _ | .newHandler _ | .withHandlers _ _ | .register _ _ _
  | .registerEntry _ _ _ | .registerAll _ _ | .registerService _ _ | .release _ => none

/-- The protocol and the callbacks with which an operation makes a
handler. -/
def Operation.creation? : Operation κ → Option (Nat × List (String × Option (Callback κ)))
  | .newHandler p => some (p, [])
  | .withHandlers p entries => some (p, entries)
  | .newProtocol | .netProtocol | .add _ _ | .register _ _ _ | .registerEntry _ _ _
  | .registerAll _ _ | .registerService _ _ | .handle _ _ | .handlePacket _ _ | .release _ => none

/-- What a handler over a protocol has registered when it is made. -/
def initial (r : Registry κ) (p : Nat) (entries : List (String × Option (Callback κ))) :
    List (String × Callback κ) :=
  (Dispatcher.ofProtocol (r.protocol p)).accepted entries

/-- What is done elsewhere: to protocols, and to other handlers. -/
def Operation.Elsewhere (h : Nat) : Operation κ → Prop
  | .newProtocol | .netProtocol | .add _ _ | .newHandler _ | .withHandlers _ _ => True
  | .register h' _ _ | .registerEntry h' _ _ | .registerAll h' _ | .registerService h' _
  | .release h' => h' ≠ h
  | .handle _ _ | .handlePacket _ _ => False

section

variable [Behaviour κ]

/-- What an operation registers with handler `h`, by itself or by a callback
that it runs. -/
def Operation.registrations (r : Registry κ) (h : Nat) (op : Operation κ) :
    List (String × Callback κ) :=
  r.accepted h op.entries? ++
    match op.call? r with
    | none => []
    | some call => acceptedAll h (r.note (.called call)) (r.requestsOf call)

/-- What a run registers with handler `h`, in this order. -/
def registrations (r : Registry κ) (h : Nat) : List (Operation κ) → List (String × Callback κ)
  | [] => []
  | op :: ops => op.registrations r h ++ (r.act op).2.registrations h ops

end

/-! ## Callbacks are what was registered -/

variable {r r' r'' : Registry κ} {h h' p : Nat} {x : Handler κ}
variable {pairs pairs' : List (String × Callback κ)}

/-- Handler `h` is there still, with these registrations on top. -/
def Gains (h : Nat) (pairs : List (String × Callback κ)) (r r' : Registry κ) : Prop :=
  ∀ x, r.Holds h x → r'.Holds h ⟨x.protocol, x.callbacks.insertAll pairs⟩

theorem Gains.refl (h : Nat) (r : Registry κ) : Gains h [] r r := fun _ hx => hx

/-- What is registered later lies on top. -/
theorem Gains.trans (g : Gains h pairs r r') (g' : Gains h pairs' r' r'') :
    Gains h (pairs ++ pairs') r r'' := by
  intro x hx
  have hboth : x.callbacks.insertAll (pairs ++ pairs') =
      (x.callbacks.insertAll pairs).insertAll pairs' := by
    simp only [Table.insertAll, Entries.insertAll, List.foldl_append]
  rw [hboth]
  exact g' _ (g x hx)

/-- What leaves a handler alone registers nothing with it. -/
theorem Gains.of_holds (hsame : ∀ x, r.Holds h x → r'.Holds h x) : Gains h [] r r' := hsame

theorem gains_note (h : Nat) (r : Registry κ) (n : Notice κ) : Gains h [] r (r.note n) :=
  .of_holds fun _ hx => hx

theorem holds_onHandler_of_ne (hne : h ≠ h') (hx : r.Holds h x)
    (work : Dispatcher κ → Except RelayError Unit × Dispatcher κ) :
    (r.onHandler h' work).2.Holds h x := by
  unfold onHandler
  split
  · next y hy => exact (holds_putBack hy).mpr (.inr ⟨hne, hx⟩)
  · exact hx

/-- Work on a handler that is there is done on its protocol and its
callbacks. -/
theorem onHandler_of_holds (hx : r.Holds h x)
    (work : Dispatcher κ → Except RelayError Unit × Dispatcher κ) :
    r.onHandler h work =
      ((work ⟨r.protocol x.protocol, x.callbacks⟩).1,
        r.putBack h x.protocol (work ⟨r.protocol x.protocol, x.callbacks⟩).2) := by
  rw [onHandler, hx]

/-- A list adds to a handler what of it is accepted there. -/
theorem gains_registerAll (h : Nat) (r : Registry κ) (h' : Nat)
    (entries : List (String × Option (Callback κ))) :
    Gains h (r.accepted h (some (h', entries))) r (r.registerAll h' entries).2 := by
  intro x hx
  rw [accepted]
  by_cases hh : h' = h
  · subst hh
    rw [if_pos rfl, dispatcher?_of_holds hx, registerAll, onHandler_of_holds hx]
    refine (holds_putBack hx).mpr (.inl ⟨rfl, ?_⟩)
    rw [Dispatcher.callbacks_registerAll]
  · rw [if_neg hh]
    exact holds_onHandler_of_ne (Ne.symm hh) hx _

/-- To register one callback is to register a list of one. -/
theorem register_eq (r : Registry κ) (h : Nat) (name : String) (callback : Callback κ) :
    r.register h name callback = r.registerAll h [(name, some callback)] := by
  rw [register, registerAll]
  exact congrArg (r.onHandler h) (funext fun d => (d.registerAll_singleton name callback).symm)

/-- An entry without a callback is refused by itself, and passed over in a
list; neither registers anything. -/
theorem registerEntry_snd (r : Registry κ) (h : Nat) (name : String)
    (entry : Option (Callback κ)) :
    (r.registerEntry h name entry).2 = (r.registerAll h [(name, entry)]).2 := by
  cases entry with
  | some callback =>
    rw [← register_eq]
    rfl
  | none =>
    rw [registerEntry, registerAll, onHandler, onHandler]
    split
    · rfl
    · rfl

/-- What a callback asks for adds what of it is accepted. -/
theorem gains_perform (h : Nat) (r : Registry κ) (request : Request κ) :
    Gains h (r.accepted h request.entries?) r (r.perform request) := by
  cases request with
  | register h' name callback =>
    rw [Request.entries?, perform]
    split
    · rw [register_eq]
      have g := (gains_registerAll h r h' [(name, some callback)]).trans (gains_note h _
        (.registered h' name (errorOf (r.registerAll h' [(name, some callback)]).1)))
      rw [List.append_nil] at g
      exact g
    · next hgone =>
      intro x hx
      by_cases hh : h' = h
      · subst hh
        rw [dispatcher?_of_holds hx] at hgone
        exact absurd rfl hgone
      · rw [accepted, if_neg hh]
        exact hx
  | add p name =>
    rw [Request.entries?, perform]
    apply Gains.of_holds
    intro x hx
    simp only [add]
    split
    · exact hx
    · exact hx

/-- All requests of a callback add what of them is accepted, one after the
other. -/
theorem gains_performAll (h : Nat) (r : Registry κ) (requests : List (Request κ)) :
    Gains h (acceptedAll h r requests) r (requests.foldl perform r) := by
  induction requests generalizing r with
  | nil => exact .refl h r
  | cons request requests ih => exact (gains_perform h r request).trans (ih _)

/-! ## Messages -/

/-- The calls that were made so far. -/
def calls (r : Registry κ) : List (Call κ) :=
  r.journal.filterMap fun
    | .called call => some call
    | .registered _ _ _ | .added _ _ _ => none

/-- Work on a handler calls nothing. -/
theorem journal_onHandler (r : Registry κ) (h : Nat)
    (work : Dispatcher κ → Except RelayError Unit × Dispatcher κ) :
    (r.onHandler h work).2.journal = r.journal := by
  unfold onHandler
  split
  · rfl
  · rfl

theorem calls_perform (r : Registry κ) (request : Request κ) :
    (r.perform request).calls = r.calls := by
  cases request with
  | register h name callback =>
    rw [perform]
    split
    · simp [calls, note, register, journal_onHandler]
    · rfl
  | add p name =>
    have hadd : (r.add p name).2.journal = r.journal := by
      unfold add
      split
      · rfl
      · rfl
    simp [calls, note, perform, hadd]

/-- While a callback is running, nothing else is called. -/
theorem calls_midway (r : Registry κ) (call : Call κ) (asked : List (Request κ)) :
    (r.midway call asked).calls = r.calls ++ [call] := by
  have hall : ∀ s : Registry κ, (asked.foldl perform s).calls = s.calls := by
    induction asked with
    | nil => exact fun s => rfl
    | cons request asked ih => exact fun s => (ih _).trans (calls_perform s request)
  rw [midway, hall, calls, note, List.filterMap_append]
  rfl

section Runs

variable [Behaviour κ] {op : Operation κ}

/-- A message runs the callback of its call, and that alone. -/
theorem calls_run (r : Registry κ) (call : Call κ) : (r.run call).calls = r.calls ++ [call] := by
  rw [run_eq_midway, calls_midway]

/-- A call adds what its callback asks for, and no more. -/
theorem gains_run (h : Nat) (r : Registry κ) (call : Call κ) :
    Gains h (acceptedAll h (r.note (.called call)) (r.requestsOf call)) r (r.run call) := by
  rw [run_eq_midway]
  exact (gains_note h r (.called call)).trans (gains_performAll h _ _)

/-- A message adds what the callback that is called for it asks for. -/
theorem gains_dispatch (h : Nat) (r : Registry κ) (h' : Nat)
    (resolve : Dispatcher κ → Except RelayError (Call κ)) :
    Gains h
      (match (r.dispatcher? h').bind fun d => (resolve d).toOption with
        | none => []
        | some call => acceptedAll h (r.note (.called call)) (r.requestsOf call))
      r (r.dispatch h' resolve).2 := by
  unfold dispatch
  cases r.dispatcher? h' with
  | none => exact .refl h r
  | some d =>
    cases hcall : resolve d with
    | error e =>
      simp only [Option.bind_some, hcall, Except.toOption]
      exact .refl h r
    | ok call =>
      simp only [Option.bind_some, hcall, Except.toOption]
      exact gains_run h r call

/-! ## Runs -/

/-- An operation that does not release a handler adds its registrations to
it. -/
theorem gains_act (hop : op ≠ .release h) (r : Registry κ) :
    Gains h (op.registrations r h) r (r.act op).2 := by
  unfold Operation.registrations
  cases op with
  | newProtocol => exact .of_holds fun _ hx => hx
  | netProtocol => exact .of_holds fun _ hx => hx
  | add p name =>
    have g := gains_perform h r (.add p name)
    exact .of_holds fun x hx => g x hx
  | newHandler p =>
    apply Gains.of_holds
    intro x hx
    simp only [act]
    split
    · exact holds_enter.mpr (.inl hx)
    · exact hx
  | withHandlers p entries =>
    apply Gains.of_holds
    intro x hx
    simp only [act, withHandlers]
    split
    · split
      · exact hx
      · exact holds_enter.mpr (.inl hx)
    · exact hx
  | register h' name callback =>
    rw [act, register_eq, Operation.call?, List.append_nil]
    exact gains_registerAll h r h' _
  | registerEntry h' name entry =>
    rw [act, registerEntry_snd, Operation.call?, List.append_nil]
    exact gains_registerAll h r h' _
  | registerAll h' entries =>
    rw [Operation.call?, List.append_nil]
    exact gains_registerAll h r h' entries
  | registerService h' s =>
    rw [Operation.call?, List.append_nil]
    exact gains_registerAll h r h' _
  | handle h' message => exact gains_dispatch h r h' _
  | handlePacket h' p => exact gains_dispatch h r h' _
  | release h' =>
    have hne : h ≠ h' := fun hh => hop (by rw [hh])
    exact .of_holds fun x hx => holds_release.mpr ⟨hne, hx⟩

/-- After a run a handler has what was registered with it in the run, on top
of what it had. -/
theorem gains_after {ops : List (Operation κ)} (hheld : .release h ∉ ops) (r : Registry κ) :
    Gains h (r.registrations h ops) r (r.after ops) := by
  induction ops generalizing r with
  | nil => exact .refl h r
  | cons op ops ih =>
    rw [List.mem_cons, not_or] at hheld
    obtain ⟨hop, hops⟩ := hheld
    exact (gains_act (Ne.symm hop) r).trans (ih hops _)

/-! ## A handler from its start -/

/-- A new handler has the callbacks of its protocol, and what of the list was
accepted on top. -/
theorem holds_created {entries : List (String × Option (Callback κ))}
    (hop : op.creation? = some (p, entries)) (hx : (r.act op).2.Holds r.handlers.length x) :
    x = ⟨p, (Dispatcher.ofProtocol (r.protocol p)).callbacks.insertAll (r.initial p entries)⟩ := by
  have hnot : ¬ r.Holds r.handlers.length x := fun hx => absurd hx.lt (Nat.lt_irrefl _)
  cases op with
  | newHandler p' =>
    cases hop
    simp only [act] at hx
    split at hx
    · cases holds_enter.mp hx with
      | inl hx => exact absurd hx hnot
      | inr hlast => exact hlast.2
    · exact absurd hx hnot
  | withHandlers p' entries' =>
    cases hop
    rw [initial, ← Dispatcher.callbacks_registerAll]
    simp only [act, withHandlers] at hx
    split at hx
    · split at hx
      · exact absurd hx hnot
      · cases holds_enter.mp hx with
        | inl hx => exact absurd hx hnot
        | inr hlast => exact hlast.2
    · exact absurd hx hnot
  | _ => cases hop

/-- What a handler does with a message, if its protocol knew the names
`known` when the handler was made and `pairs` were registered with it
since. -/
structure Dispatches (r : Registry κ) (h : Nat) (known : Protocol)
    (pairs : List (String × Callback κ)) : Prop where
  /-- a known or registered name runs once what was registered last for it,
  and nothing else -/
  called : ∀ message name, message.member? "name" = some (.string name) →
    known.contains name = true ∨ name ∈ pairs.map Prod.fst →
    let call : Call κ := {
      callback := (pairs.reverse.lookup name).getD .noop
      data := (message.member? "data").getD .null
      name := name }
    r.handle h message = (.ok (), r.run call) ∧ (r.run call).calls = r.calls ++ [call]
  /-- another name runs nothing -/
  notFound : ∀ message name, message.member? "name" = some (.string name) →
    known.contains name = false → name ∉ pairs.map Prod.fst →
    r.handle h message = (.error (.handlerNotFound name), r)
  /-- and so does a message that has no name -/
  malformed : ∀ message, (∀ name, message.member? "name" ≠ some (.string name)) →
    r.handle h message = (.error .malformedPacket, r)

/-- What is done elsewhere registers nothing here. -/
theorem Operation.Elsewhere.registrations (helse : op.Elsewhere h) (r : Registry κ) :
    op.registrations r h = [] ∧ op ≠ .release h := by
  unfold Operation.registrations
  cases op with
  | newProtocol => exact ⟨rfl, nofun⟩
  | netProtocol => exact ⟨rfl, nofun⟩
  | add p name => exact ⟨rfl, nofun⟩
  | newHandler p => exact ⟨rfl, nofun⟩
  | withHandlers p entries => exact ⟨rfl, nofun⟩
  | register h' name callback => exact ⟨by rw [entries?, accepted, if_neg helse]; rfl, nofun⟩
  | registerEntry h' name entry => exact ⟨by rw [entries?, accepted, if_neg helse]; rfl, nofun⟩
  | registerAll h' entries => exact ⟨by rw [entries?, accepted, if_neg helse]; rfl, nofun⟩
  | registerService h' s => exact ⟨by rw [entries?, accepted, if_neg helse]; rfl, nofun⟩
  | handle h' message => exact helse.elim
  | handlePacket h' p => exact helse.elim
  | release h' => exact ⟨rfl, fun heq => helse (Operation.release.inj heq)⟩

omit [Behaviour κ] in
/-- What was never registered has no latest registration. -/
theorem lookup_eq_none_iff {name : String} :
    pairs.reverse.lookup name = none ↔ name ∉ pairs.map Prod.fst := by
  simp only [List.lookup_eq_none_iff, List.mem_reverse, List.mem_map, Prod.exists,
    exists_and_right, exists_eq_right, not_exists]
  constructor
  · intro h callback hmem
    simpa using h (name, callback) hmem
  · rintro h ⟨name', callback⟩ hmem
    rw [bne_iff_ne]
    rintro rfl
    exact h callback hmem

/-- A handler with these callbacks does with messages what they say. -/
theorem dispatches_of_holds {known : Protocol} (hx : r.Holds h x)
    (hcallbacks : x.callbacks =
      (Dispatcher.ofProtocol known).callbacks.insertAll pairs) : Dispatches r h known pairs := by
  have hfind : ∀ name, x.callbacks.find? name =
      (pairs.reverse.lookup name).or (if known.contains name then some .noop else none) := by
    intro name
    rw [hcallbacks, Table.find?_insertAll, Dispatcher.find?_ofProtocol]
  constructor
  case called =>
    intro message name hname hknown call
    have hsome : x.callbacks.find? name = some call.callback := by
      rw [hfind]
      cases hlatest : pairs.reverse.lookup name with
      | some callback => simp [call, hlatest]
      | none =>
        have hin : known.contains name = true :=
          hknown.resolve_right (lookup_eq_none_iff.mp hlatest)
        simp [call, hlatest, hin]
    refine ⟨?_, r.calls_run call⟩
    rw [handle, dispatch_of_holds hx]
    simp only [Dispatcher.resolve, hname, Dispatcher.callFor, hsome, call]
  case notFound =>
    intro message name hname hunknown hnot
    apply handle_of_error hx
    simp only [Dispatcher.resolve, hname, Dispatcher.callFor, hfind, lookup_eq_none_iff.mpr hnot,
      hunknown, Option.none_or, Bool.false_eq_true, if_false]
  case malformed =>
    intro message hname
    apply handle_of_error hx
    unfold Dispatcher.resolve
    split
    · next name hsome => exact absurd hsome (hname name)
    · rfl

/-- A handler dispatches by its history.  Whatever was done before it was
made and since, with it and with all else, in failed operations and by
callbacks that were running, a message runs the callback that was registered
last for its name, and nothing for a name that was in the protocol from the
start.  What is done elsewhere changes nothing of that. -/
theorem dispatches_after (before more : List (Operation κ)) {op : Operation κ} {p : Nat}
    {entries : List (String × Option (Callback κ))} (hop : op.creation? = some (p, entries))
    {x : Handler κ} (hmade : ((after {} before).act op).2.Holds (after {} before).handlers.length x)
    (hheld : .release (after {} before).handlers.length ∉ more) :
    let r₀ : Registry κ := after {} before
    let h := r₀.handlers.length
    let pairs := r₀.initial p entries ++ (r₀.act op).2.registrations h more
    Dispatches (after {} (before ++ op :: more)) h (r₀.protocol p) pairs ∧
    ∀ other : Operation κ, other.Elsewhere h →
      Dispatches ((after {} (before ++ op :: more)).act other).2 h (r₀.protocol p) pairs := by
  intro r₀ h pairs
  rw [after_append, after_cons]
  have hstart := holds_created hop hmade
  have hend := gains_after hheld (r₀.act op).2 x hmade
  have hcallbacks : x.callbacks.insertAll ((r₀.act op).2.registrations h more) =
      (Dispatcher.ofProtocol (r₀.protocol p)).callbacks.insertAll pairs := by
    rw [hstart]
    simp only [pairs, Table.insertAll, Entries.insertAll, List.foldl_append]
    rfl
  refine ⟨dispatches_of_holds hend hcallbacks, fun other helse => ?_⟩
  obtain ⟨hnone, hne⟩ := helse.registrations (((r₀.act op).2).after more)
  have hother := gains_act hne (((r₀.act op).2).after more) _ hend
  rw [hnone] at hother
  exact dispatches_of_holds hother hcallbacks

/-- A callback replaces itself while it runs; what is registered with another
handler, added to the protocol or refused plays no part. -/
theorem dispatches_after_replaced :
    let grow : Callback ScriptedAction := .run (.register 0 "chat")
    let grown : Callback ScriptedAction := .run (.record "grown:chat")
    let entries := [("chat", some grow), ("idle", none)]
    let op : Operation ScriptedAction := .withHandlers 0 entries
    let chat : Json := .object [("name", .string "chat")]
    let more : List (Operation ScriptedAction) :=
      [.newHandler 0, .register 1 "other" grown, .add 0 "late", .register 0 "" grown, .handle 0 chat]
    let r₀ : Registry ScriptedAction := after {} [.netProtocol]
    let r := after {} ([.netProtocol] ++ op :: more)
    ∃ x, op.creation? = some (0, entries) ∧ (r₀.act op).2.Holds r₀.handlers.length x ∧
      .release r₀.handlers.length ∉ more ∧
      r₀.initial 0 entries ++ (r₀.act op).2.registrations 0 more =
        [("chat", grow), ("chat", grown)] ∧
      r.calls = [⟨grow, .null, "chat"⟩] ∧
      (r.handle 0 chat = (.ok (), r.run ⟨grown, .null, "chat"⟩) ∧
        (r.run ⟨grown, .null, "chat"⟩).calls = r.calls ++ [⟨grown, .null, "chat"⟩]) ∧
      r.handle 0 (.object [("name", .string "late")]) = (.error (.handlerNotFound "late"), r) := by
  intro grow grown entries op chat more r₀ r
  obtain ⟨x, hx⟩ : ∃ x, (r₀.act op).2.Holds r₀.handlers.length x := ⟨_, rfl⟩
  have hheld : .release r₀.handlers.length ∉ more := by simp [more]
  have hpairs : r₀.initial 0 entries ++ (r₀.act op).2.registrations 0 more =
      [("chat", grow), ("chat", grown)] := by
    decide +kernel
  have hop : op.creation? = some (0, entries) := rfl
  obtain ⟨hdispatches, -⟩ := dispatches_after [.netProtocol] more hop hx hheld
  have hdispatches : Dispatches r 0 (r₀.protocol 0) [("chat", grow), ("chat", grown)] := by
    rw [← hpairs]
    exact hdispatches
  refine ⟨x, hop, hx, hheld, hpairs, by decide +kernel, ?_, ?_⟩
  · exact hdispatches.called chat "chat" rfl (.inr (by decide))
  · exact hdispatches.notFound _ "late" rfl (by decide +kernel) (by decide)

end Runs

end Registry

end PushRelay
