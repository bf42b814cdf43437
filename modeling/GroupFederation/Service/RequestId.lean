import GroupFederation.Http.Headers

/-!
# Request identifiers

Every answer names the request it belongs to. A caller may choose the identifier; otherwise a fresh
one is made.
-/

namespace GroupFederation.RequestId

/-- The header field that carries the identifier. -/
def headerName : String := "x-request-id"

/-- The identifier chosen by the caller: the first one given, if it is text and not empty. -/
def supplied? (headers : Http.Headers) : Option String :=
  (headers.text? headerName).filter fun identifier => identifier != ""

/-- The identifier of a request, given a fresh one. -/
def choose (fresh : String) (headers : Http.Headers) : String :=
  (supplied? headers).getD fresh

end GroupFederation.RequestId
