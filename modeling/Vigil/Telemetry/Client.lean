import Vigil.Json.Reader
import Vigil.Telemetry.Address
import Vigil.Telemetry.Reply

/-!
# Clients of known servers

A client that opens no connections: what the servers reply is known for every address. Addresses are
read in their normal form, in which a host keeps its letters beyond ASCII, and bodies are read as
JSON.
-/

namespace Vigil.Client

/-- The nesting of lists and objects that is read in a body. -/
def depth : Nat := 1000

/-- The client of servers whose replies are known. -/
def ofReplies (ask : Address → Reply) : Client where
  get url := (Address.read url).map ask
  refusal url status :=
    match Address.read url with
    | .ok address => s!"status {status} of {address.text}"
    | .error reason => reason
  decode body := (Json.readBytes depth body).mapError Json.Refusal.message

end Vigil.Client
