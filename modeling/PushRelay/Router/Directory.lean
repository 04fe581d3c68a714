import PushRelay.Router.PushService
import PushRelay.Text.Lowercase

/-!
# PushRelay.Router.Directory

The services of a router and the queues that they push to.

Services go by their numbers, whether they are registered or not.  The
index finds the registered ones by name, where two names that have the same
lower case are the same: there is at most one service for each.  A name
that is not registered is ignored wherever one is asked for.
-/

namespace PushRelay

/-- Why a service is not registered. -/
inductive RegistrationError where
  /-- there is a service whose name has the same lower case -/
  | alreadyRegistered (name : String)
deriving DecidableEq

def RegistrationError.message : RegistrationError → String
  | .alreadyRegistered name => "Service already registered: " ++ name

/-- Services and queues, each known by its number. -/
structure Directory where
  services : List PushService := []
  /-- the numbers of the registered services, by name in lower case -/
  index : Table String Nat := ∅
  queues : Queues := []

namespace Directory

/-! ## Queues -/

/-- Opens a new queue, and returns its number. -/
def newQueue (d : Directory) : Nat × Directory :=
  (d.queues.length, { d with queues := d.queues ++ [{}] })

/-- The reader of a queue hangs up. -/
def hangUp (d : Directory) (q : Nat) : Directory := { d with queues := d.queues.hangUp q }

/-! ## Services by number -/

/-- Enters a service without registering it, and returns its number. -/
def newService (d : Directory) (s : PushService) : Nat × Directory :=
  (d.services.length, { d with services := d.services ++ [s] })

/-- Subscribes a connection with its queue to the service with number
`n`. -/
def subscribeTo (d : Directory) (n id q : Nat) : Bool × Directory :=
  match d.services[n]? with
  | none => (false, d)
  | some s =>
    let (subscribed, s, queues) := s.subscribe id q d.queues
    (subscribed, { d with services := d.services.set n s, queues := queues })

/-- Ends the subscription of a connection to the service with number
`n`. -/
def unsubscribeFrom (d : Directory) (n id : Nat) : Bool × Directory :=
  match d.services[n]? with
  | none => (false, d)
  | some s =>
    let (unsubscribed, s) := s.unsubscribe id
    (unsubscribed, { d with services := d.services.set n s })

/-- Pushes a packet by the service with number `n`. -/
def push (d : Directory) (n : Nat) (p : Packet Json) : Except RelayError Nat × Directory :=
  match d.services[n]? with
  | none => (.ok 0, d)
  | some s =>
    let (result, s, queues) := s.push p d.queues
    (result, { d with services := d.services.set n s, queues := queues })

/-! ## Services by name -/

/-- The number of the registered service with this name. -/
def number? (d : Directory) (name : String) : Option Nat := d.index.find? (Text.lowercase name)

/-- The registered service with this name. -/
def get? (d : Directory) (name : String) : Option PushService :=
  (d.number? name).bind (d.services[·]?)

/-- Registers the service with number `n`. -/
def register (d : Directory) (n : Nat) : Except RegistrationError Unit × Directory :=
  match d.services[n]? with
  | none => (.ok (), d)
  | some s =>
    if (d.number? s.name).isSome then (.error (.alreadyRegistered s.name), d)
    else (.ok (), { d with index := d.index.insert (Text.lowercase s.name) n })

/-- Enters a service and registers it. -/
def registerNew (d : Directory) (s : PushService) : Except RegistrationError Unit × Directory :=
  let (n, d) := d.newService s
  d.register n

/-- The names of the registered services, ascending. -/
def names (d : Directory) : List String :=
  (d.index.values.filterMap fun n => d.services[n]?.map PushService.name).mergeSort
    fun a b => decide (a ≤ b)

/-- Subscribes a connection with its queue to the service with this
name. -/
def subscribe (d : Directory) (name : String) (id q : Nat) : Bool × Directory :=
  match d.number? name with
  | none => (false, d)
  | some n => d.subscribeTo n id q

/-- Ends the subscription of a connection to the service with this name. -/
def unsubscribe (d : Directory) (name : String) (id : Nat) : Bool × Directory :=
  match d.number? name with
  | none => (false, d)
  | some n => d.unsubscribeFrom n id

/-- Ends all subscriptions of a connection to registered services. -/
def unsubscribeAll (d : Directory) (id : Nat) : Directory :=
  d.index.values.foldl (fun d n => (d.unsubscribeFrom n id).2) d

end Directory

end PushRelay
