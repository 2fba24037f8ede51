import EngineGateway.Text.Utf8

/-!
# Responses

What the gateway makes of an exchange with an engine: a text, octets, or an
error with its reason.  Failures do not travel any further than this.
-/

namespace EngineGateway.Engine

/-- The outcome of a request. -/
inductive Response where
  | text (content : String)
  | binary (content : Bytes)
  | error (reason : String)
  deriving Repr, DecidableEq

namespace Response

/-- A response with nothing to pass on. -/
def empty : Response := .text ""

def isError : Response → Bool
  | .error _ => true
  | .text _ | .binary _ => false

def isBinary : Response → Bool
  | .binary _ => true
  | .text _ | .error _ => false

def isEmpty : Response → Bool
  | .text content | .error content => content.isEmpty
  | .binary content => content.isEmpty

/-- The response as text.  Octets are read as UTF-8 with repair. -/
def asText : Response → String
  | .text content | .error content => content
  | .binary content => Text.Utf8.repair content

end Response
end EngineGateway.Engine
