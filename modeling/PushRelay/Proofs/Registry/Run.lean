import PushRelay.Registry.Basic

/-!
# PushRelay.Proofs.Registry.Run

Runs of a registry: protocols are made and handlers over them, names are
added, callbacks are registered one by one or in lists, and messages are
handled.  Any of these may fail, and what a failed one has done stays.

An operation goes to protocols and handlers by number.  With a number that
no protocol has nothing is done, since nobody can hold such a protocol; a
released handler is treated in the same way by the operations themselves.
-/

namespace PushRelay

variable {κ : Type}

namespace Registry

/-- What is done to a registry from outside. -/
inductive Operation (κ : Type) where
  /-- a protocol is made, without packets -/
  | newProtocol
  /-- a protocol is made that has the control packets -/
  | netProtocol
  | add (protocol : Nat) (name : String)
  | newHandler (protocol : Nat)
  | withHandlers (protocol : Nat) (entries : List (String × Option (Callback κ)))
  | register (handler : Nat) (name : String) (callback : Callback κ)
  | registerEntry (handler : Nat) (name : String) (entry : Option (Callback κ))
  | registerAll (handler : Nat) (entries : List (String × Option (Callback κ)))
  | registerService (handler : Nat) (service : Service κ)
  | handle (handler : Nat) (message : Json)
  | handlePacket (handler : Nat) (packet : Packet Json)
  /-- the last holder of a handler lets it go -/
  | release (handler : Nat)

variable [Behaviour κ]

/-- Carries out an operation, and says whether it failed. -/
def act (r : Registry κ) : Operation κ → Except RelayError Unit × Registry κ
  | .newProtocol => (.ok (), (r.newProtocol .empty).2)
  | .netProtocol => (.ok (), (r.newProtocol .net).2)
  | .add p name => ((r.add p name).1.map fun _ => (), (r.add p name).2)
  | .newHandler p =>
    if p < r.protocols.length then (.ok (), (r.newHandler p).2) else (.ok (), r)
  | .withHandlers p entries =>
    if p < r.protocols.length then
      ((r.withHandlers p entries).1.map fun _ => (), (r.withHandlers p entries).2)
    else (.ok (), r)
  | .register h name callback => r.register h name callback
  | .registerEntry h name entry => r.registerEntry h name entry
  | .registerAll h entries => r.registerAll h entries
  | .registerService h s => r.registerService h s
  | .handle h message => r.handle h message
  | .handlePacket h p => r.handlePacket h p
  | .release h => (.ok (), r.release h)

/-- The registry after a run of operations. -/
def after (r : Registry κ) (ops : List (Operation κ)) : Registry κ :=
  ops.foldl (fun r op => (r.act op).2) r

@[simp] theorem after_nil (r : Registry κ) : r.after [] = r := rfl

@[simp] theorem after_cons (r : Registry κ) (op : Operation κ) (ops : List (Operation κ)) :
    r.after (op :: ops) = (r.act op).2.after ops := rfl

/-- A run can be cut anywhere. -/
theorem after_append (r : Registry κ) (ops more : List (Operation κ)) :
    r.after (ops ++ more) = (r.after ops).after more :=
  List.foldl_append

/-- The registry in the course of a message: the callback of a call is
running, and has asked for some things so far. -/
def midway (r : Registry κ) (call : Call κ) (asked : List (Request κ)) : Registry κ :=
  asked.foldl perform (r.note (.called call))

omit [Behaviour κ] in
/-- So can what a callback asks for. -/
theorem midway_append (r : Registry κ) (call : Call κ) (asked next : List (Request κ)) :
    r.midway call (asked ++ next) = next.foldl perform (r.midway call asked) :=
  List.foldl_append

/-- What the callback of a call asks for. -/
def requestsOf (r : Registry κ) (call : Call κ) : List (Request κ) :=
  match call.callback with
  | .noop => []
  | .run action => Behaviour.requests action call.data call.name (r.note (.called call))

/-- Running the callback of a call ends where all that it asks for has been
done. -/
theorem run_eq_midway (r : Registry κ) (call : Call κ) :
    r.run call = r.midway call (r.requestsOf call) := by
  unfold run midway requestsOf
  cases call.callback with
  | noop => rfl
  | run action => rfl

end Registry

end PushRelay
