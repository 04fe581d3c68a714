import PushRelay.Calendar
import PushRelay.Client.Options

/-!
# PushRelay.Main

The command line of the client.  It connects, carries out the lines of its
input until `quit` or the end of the input, and disconnects.

No task drives the sockets here: a transport goes as far as the client
itself takes it.  Packets are shown with the time since the start.
-/

namespace PushRelay

/-- Writes the lines that came after the first `seen` entries of the
journal. -/
def showLines (c : Client SocketConfig Socket) (seen start : Nat) : IO Unit := do
  let seconds := ((← IO.monoMsNow) - start) / 1000
  let clock := String.ofList (Calendar.timeChars seconds)
  for entry in c.connection.journal.drop seen do
    if let .printed line := entry then
      IO.println (line.render clock)

/-- Carries out the lines of the input. -/
partial def runLines (input : IO.FS.Stream) (c : Client SocketConfig Socket) (start : Nat) :
    IO (Client SocketConfig Socket) := do
  let line ← input.getLine
  if line.isEmpty then return c
  let (going, next) := c.enter line
  showLines next c.connection.journal.length start
  if going then runLines input next start else return next

/-- Runs a client from its first connection on. -/
def runClient (c : Client SocketConfig Socket) : IO UInt32 := do
  let start ← IO.monoMsNow
  match c.connection.connect with
  | (.error e, _) =>
    IO.eprintln e.message
    return 1
  | (.ok _, connection) =>
    let c ← runLines (← IO.getStdin) { c with connection := connection } start
    let closed := { c with connection := c.connection.disconnect }
    showLines closed c.connection.journal.length start
    return 0

/-- Runs a client with the options of a command line. -/
def runArguments (arguments : List String) : IO UInt32 := do
  match ClientOptions.ofArguments arguments with
  | .error e =>
    IO.eprintln e.message
    return 2
  | .ok options =>
    match options.client with
    | .error e =>
      IO.eprintln e.message
      return 1
    | .ok c => runClient c

end PushRelay

def main (arguments : List String) : IO UInt32 := PushRelay.runArguments arguments
