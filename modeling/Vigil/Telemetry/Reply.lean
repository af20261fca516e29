import Vigil.Json.Basic

/-!
# Replies of a server

What a server says to a request: a status and a body, or nothing at all. A client makes the requests
and reads the bodies. A reply of good status holds a document; everything else is a fault of
telemetry.
-/

namespace Vigil

/-- What came of a request. -/
inductive Reply where
  /-- The server answered. -/
  | answered (status : Int) (body : List UInt8)
  /-- There was no answer. -/
  | failed (reason : String)
  deriving DecidableEq, Repr

/-- What makes requests and reads what is replied. The library takes it from its caller. -/
structure Client where
  /-- What comes of a request to an address. A text that is no address is refused in words. -/
  get : String → Except String Reply
  /-- The words for a status that is no success, in a reply from an address. -/
  refusal : String → Int → String
  /-- The document in a body. A body that holds none is refused in words. -/
  decode : List UInt8 → Except String Json

namespace Reply

/-- Whether a status is a success. -/
def isSuccess (status : Int) : Bool := 200 ≤ status && status ≤ 299

/-- The document in a reply from an address. -/
def document (client : Client) (url : String) : Reply → Except Fault Json
  | .failed reason => .error (.collector s!"Failed to fetch {url}: {reason}")
  | .answered status body =>
    if !isSuccess status then
      .error (.collector s!"Failed to fetch {url}: {client.refusal url status}")
    else
      match client.decode body with
      | .ok j => .ok j
      | .error reason => .error (.collector s!"Invalid JSON from {url}: {reason}")

end Reply

end Vigil
