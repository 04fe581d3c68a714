import PushRelay.Client.Session
import PushRelay.Transport.Socket

/-!
# PushRelay.Client.Options

What a client is told when it is started: the address, the services to
subscribe to whenever the connection opens, and how long a handshake may
take.
-/

namespace PushRelay

structure ClientOptions where
  url : String := defaultUrl
  services : List String := []
  /-- how long a handshake may take, in seconds; 0 is forever -/
  connectTimeout : Nat := connectTimeoutSeconds
deriving DecidableEq

namespace ClientOptions

/-- Why arguments are refused. -/
inductive Fault where
  | missingValue (option : String)
  | badNumber (text : String)
  | unexpected (argument : String)
deriving DecidableEq

def Fault.message : Fault → String
  | .missingValue option => "a value is required for " ++ option
  | .badNumber text => "not a number of seconds: " ++ text
  | .unexpected argument => "unexpected argument: " ++ argument

/-- Reads arguments; `named` tells whether the address was given. -/
def read (named : Bool) (o : ClientOptions) : List String → Except Fault ClientOptions
  | [] => .ok o
  | [argument] =>
    if argument.startsWith "-" then .error (.missingValue argument)
    else if named then .error (.unexpected argument)
    else .ok { o with url := argument }
  | argument :: value :: arguments =>
    if argument = "-s" ∨ argument = "--service" then
      read named { o with services := o.services ++ [value] } arguments
    else if argument = "--connect-timeout" then
      match value.toNat? with
      | none => .error (.badNumber value)
      | some n => read named { o with connectTimeout := n } arguments
    else if argument.startsWith "-" ∨ named then .error (.unexpected argument)
    else read true { o with url := argument } (value :: arguments)

/-- The options of a command line. -/
def ofArguments (arguments : List String) : Except Fault ClientOptions :=
  read false {} arguments

/-- How the sockets of a client are made. -/
def socketConfig (o : ClientOptions) : SocketConfig :=
  { connectTimeout := if o.connectTimeout = 0 then none else some (o.connectTimeout * 1000) }

/-- The client with these options. -/
def client (o : ClientOptions) : Except RelayError (Client SocketConfig Socket) :=
  Client.start o.url o.services o.socketConfig

end ClientOptions

end PushRelay
