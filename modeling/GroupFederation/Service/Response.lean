import GroupFederation.Http.Headers
import GroupFederation.Json.Printer

/-!
# Responses of the service

A response has a status, header fields and a body. A body is nothing at all, a JSON value, or plain
text; the header field `content-type` says which.
-/

namespace GroupFederation.Service

/-- What a response carries. -/
inductive Body where
  | empty
  | json (value : Json.Value)
  | text (content : String)
  deriving Repr

/-- An answer of the service. -/
structure Response where
  status : Nat
  headers : Http.Headers
  body : Body
  deriving Repr

namespace Response

/-- An answer without content. -/
def bare (status : Nat) : Response :=
  ⟨status, .empty, .empty⟩

/-- An answer with a JSON value. -/
def json (status : Nat) (value : Json.Value) : Response :=
  ⟨status, ⟨[("content-type", "application/json")]⟩, .json value⟩

/-- An answer with plain text. -/
def text (status : Nat) (content : String) : Response :=
  ⟨status, ⟨[("content-type", "text/plain; charset=utf-8")]⟩, .text content⟩

/-- Give a header field one value. -/
def withHeader (response : Response) (name value : String) : Response :=
  { response with headers := response.headers.insert name value }

/-- The same answer without its content. -/
def withoutBody (response : Response) : Response :=
  { response with body := .empty }

end Response

end GroupFederation.Service
