import GuestHost.Serve.Message
/-!
What is sent back over a connection.
-/
namespace GuestHost.Serve

/-- What became of a request. -/
inductive Outcome where
  | reply (r : Reply)
  | notFound
  | failed
  deriving DecidableEq, Repr

structure Response where
  status : Nat
  contentType : Option String := none
  location : Option String := none
  body : String := ""
  deriving DecidableEq, Repr

namespace Response

/-- A status with a text to read. -/
def plain (status : Nat) (body : String) : Response where
  status := status
  contentType := some textType
  body := body

/-- Whether a text may stand in a header: no control characters but tabs. -/
def isHeaderValue (s : String) : Bool :=
  s.toList.all fun c => c == '\t' || (0x20 ≤ c.toNat && c.toNat != 0x7F)

def ofOutcome : Outcome → Response
  | .reply (.body text contentType) =>
    if isHeaderValue contentType then { status := 200, contentType := some contentType, body := text }
    else plain 500 "failed to parse header value"
  | .reply (.redirect url) => { status := 303, location := some url }
  | .notFound => plain 404 "Not Found"
  | .failed => plain 500 "Internal Server Error"

end Response
end GuestHost.Serve
