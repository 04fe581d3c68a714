import PushRelay.Json.Number
import PushRelay.Text.Quoted
import PushRelay.Uri

/-!
# PushRelay.Error

What can go wrong with packets, protocols, services and connections, and
the text in which a user is told.
-/

namespace PushRelay

inductive RelayError where
  /-- a text is no JSON text -/
  | json (fault : Json.Fault)
  /-- an address cannot be turned into a request -/
  | address (fault : Uri.Fault)
  /-- a packet name is empty or reserved -/
  | invalidPacketName (name : String)
  /-- there is no callback where one was expected -/
  | notAFunction (name : String)
  /-- a message has no name that is a string -/
  | malformedPacket
  /-- nothing is registered for a packet name -/
  | handlerNotFound (name : String)
  /-- a protocol does not have a packet -/
  | unknownPacket (name : String)
  /-- a service has an empty name -/
  | nameRequired
  /-- a service has a packet without a callback -/
  | malformedHandlerMap (name : String)
  /-- a connection has an empty address -/
  | noUrl
  /-- a frame has more bytes than the limit -/
  | frameTooLarge (size max : Nat)
  /-- a handshake took too long -/
  | connectionTimeout
  /-- a transport does not take frames -/
  | connectionClosed
deriving DecidableEq

namespace RelayError

def message : RelayError → String
  | .json .malformed => "JSON error: malformed text"
  | .json .truncated => "JSON error: unexpected end of the text"
  | .json .mismatched => "JSON error: unexpected shape"
  | .address fault => "WebSocket error: " ++ fault.message
  | .invalidPacketName name => "Invalid packet name: " ++ Text.quoted name
  | .notAFunction name => "Handler for " ++ name ++ " is not a function"
  | .malformedPacket => "Malformed packet"
  | .handlerNotFound name => "Handler for " ++ name ++ " not found"
  | .unknownPacket name => "Packet " ++ name ++ " is not in protocol"
  | .nameRequired => "Service name required"
  | .malformedHandlerMap name => "Malformed packet handler map: " ++ name
  | .noUrl => "No url"
  | .frameTooLarge size max =>
    "Frame too large: " ++ toString size ++ " bytes (max: " ++ toString max ++ ")"
  | .connectionTimeout => "Connection timeout"
  | .connectionClosed => "Connection closed"

end RelayError

end PushRelay
