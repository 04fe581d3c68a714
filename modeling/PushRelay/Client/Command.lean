import PushRelay.Json.Reader
import PushRelay.Json.Printer
import PushRelay.Text.Basic

/-!
# PushRelay.Client.Command

The command line of a client.

1. White space around a line does not count, and a blank line is no
   command.
2. The verb ends at the first U+0020; of what follows, white space at both
   ends does not count.  Inside, only U+0020 separates words.
3. The name of a service is all of the rest; the name of a packet ends at
   the first U+0020, and what follows is its data as a JSON text.  Without
   a text, or with a blank one, the data is null.
4. The data is looked at before the name of the packet is asked for.
-/

namespace PushRelay

/-- What a user asks of a client. -/
inductive Command where
  | subscribe (service : String)
  | unsubscribe (service : String)
  | send (name : String) (data : Json)
  | connect
  | disconnect
  | state
  | help
  | quit
deriving DecidableEq

namespace Command

/-- Why a line is refused. -/
inductive Fault where
  | missingService
  | missingPacketName
  | invalidJson (fault : Json.Fault)
  | unknownVerb (verb : String)
deriving DecidableEq

def Fault.message : Fault → String
  | .missingService => "missing service"
  | .missingPacketName => "missing packet name"
  | .invalidJson _ => "invalid json"
  | .unknownVerb verb => "unknown command: " ++ verb

/-- The part before the first U+0020, and the part behind it; without a
U+0020 all is in the first part. -/
def splitWord (cs : List Char) : List Char × List Char := (Text.splitAtSpace cs).getD (cs, [])

/-- The data of a packet. -/
def readData (cs : List Char) : Except Fault Json :=
  if cs.all Text.isBlank then .ok .null
  else (Json.parse (String.ofList cs)).mapError .invalidJson

/-- The command with the given verb, where `rest` is trimmed. -/
def ofVerb (verb rest : List Char) : Except Fault Command :=
  let word := String.ofList verb
  if word = "sub" ∨ word = "subscribe" then
    if rest = [] then .error .missingService else .ok (.subscribe (String.ofList rest))
  else if word = "unsub" ∨ word = "unsubscribe" then
    if rest = [] then .error .missingService else .ok (.unsubscribe (String.ofList rest))
  else if word = "send" then
    let (name, data) := splitWord rest
    match readData data with
    | .error e => .error e
    | .ok data =>
      if name = [] then .error .missingPacketName else .ok (.send (String.ofList name) data)
  else if word = "connect" then .ok .connect
  else if word = "disconnect" then .ok .disconnect
  else if word = "state" then .ok .state
  else if word = "help" ∨ word = "?" then .ok .help
  else if word = "quit" ∨ word = "exit" then .ok .quit
  else .error (.unknownVerb word)

/-- The command of a line, or none of a blank one. -/
def parse (line : String) : Except Fault (Option Command) :=
  match Text.trim line.toList with
  | [] => .ok none
  | cs =>
    let (verb, rest) := splitWord cs
    (ofVerb verb (Text.trim rest)).map some

/-- The line by which a command is given. -/
def line : Command → String
  | .subscribe service => "sub " ++ service
  | .unsubscribe service => "unsub " ++ service
  | .send name data => "send " ++ name ++ " " ++ data.render
  | .connect => "connect"
  | .disconnect => "disconnect"
  | .state => "state"
  | .help => "help"
  | .quit => "quit"

/-- What `help` shows. -/
def helpText : String :=
  "commands:\n" ++
  "  sub <service>          subscribe to a service\n" ++
  "  unsub <service>        unsubscribe from a service\n" ++
  "  send <packet> [json]   send a packet\n" ++
  "  connect | disconnect   open or close the connection\n" ++
  "  state                  show the ready state\n" ++
  "  quit"

end Command

end PushRelay
