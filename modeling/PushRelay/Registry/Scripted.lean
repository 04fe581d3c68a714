import PushRelay.Registry.Basic

/-!
# PushRelay.Registry.Scripted

Callbacks given by what they do: one that only leaves its trace in the
journal, one that registers a further callback when it runs, and one that
adds a name to a protocol.

A registry works with callbacks of any kind and knows nothing of these.
They serve to run one: they are the callbacks of the examples and of the
test runs.
-/

namespace PushRelay

/-- A callback given by what it does. -/
inductive ScriptedAction where
  /-- leaves its mark in the journal -/
  | record (mark : String)
  /-- registers `name` with a handler, with a callback that leaves the
  mark `grown:` and the name -/
  | register (handler : Nat) (name : String)
  /-- adds `name` to a protocol -/
  | add (protocol : Nat) (name : String)
deriving DecidableEq

instance : Behaviour ScriptedAction where
  requests action _ _ _ :=
    match action with
    | .record _ => []
    | .register handler name => [.register handler name (.run (.record ("grown:" ++ name)))]
    | .add protocol name => [.add protocol name]

end PushRelay
