/-!
# PushRelay.Router.Outgoing

The queues of frames that wait to be written to the peers of a router.

A queue takes frames as long as its reader is there; once the reader has
hung up it takes nothing more.  Queues go by their numbers, and a number
that no queue has takes nothing either.
-/

namespace PushRelay

/-- A queue of frames for one peer. -/
structure Outgoing where
  /-- whether the reader is still there -/
  isOpen : Bool := true
  /-- all frames that were ever put on the queue, oldest first -/
  frames : List String := []
deriving DecidableEq

/-- Puts a frame on a queue that is open. -/
def Outgoing.put (o : Outgoing) (frame : String) : Outgoing :=
  if o.isOpen then { o with frames := o.frames ++ [frame] } else o

/-- The queues of a router, by number. -/
abbrev Queues := List Outgoing

namespace Queues

/-- Whether a queue takes frames. -/
def accepts (qs : Queues) (q : Nat) : Bool := qs[q]?.any Outgoing.isOpen

/-- Puts a frame on a queue. -/
def put (qs : Queues) (q : Nat) (frame : String) : Queues := qs.modify q fun o => o.put frame

/-- Puts frames on a queue, one after the other. -/
def putAll (qs : Queues) (q : Nat) (frames : List String) : Queues :=
  frames.foldl (fun qs frame => qs.put q frame) qs

/-- All frames that were ever put on a queue. -/
def framesOf (qs : Queues) (q : Nat) : List String := (qs[q]?.map Outgoing.frames).getD []

/-- The reader of a queue hangs up. -/
def hangUp (qs : Queues) (q : Nat) : Queues := qs.modify q fun o => { o with isOpen := false }

end Queues

end PushRelay
