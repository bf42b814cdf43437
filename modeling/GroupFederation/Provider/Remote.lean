import GroupFederation.Http.Client
import GroupFederation.Provider.Basic
import GroupFederation.Provider.Config
import GroupFederation.Text.Base64

/-!
# Remote backends

A provider with a remote backend sends one request for each question and makes its reply of the
answer that comes back. It shows its account with every request, unless the address names another
one, and it waits no longer than its timeout.
-/

namespace GroupFederation.Provider

namespace Failure

/-- The failure of a call that got no answer within a limit. -/
def ofTrouble (limit : Nat) : Http.Trouble → Failure
  | .connection => .connection "no answer from the backend"
  | .timeout => .timeout limit

/-- The failure of a call whose answer broke off. -/
def brokenOff : Failure :=
  .decode "the answer broke off"

end Failure

namespace Config

/-- The client of a provider. -/
def client (config : Config) (network : Http.Network) : Http.Client :=
  { network := network, limit := config.timeout }

/-- The headers of a request: the given ones and the account. -/
def headers (config : Config) (fields : List (String × String)) (url : Http.Url) :
    Http.Headers :=
  let account := url.account.getD (config.credentials.username, config.credentials.password)
  ⟨fields ++ [("authorization", Text.Base64.basicAuthorization account.1 account.2)]⟩

/-- The provider's reply that is made of an exchange by reading the answer. -/
def replyTo {α : Type} (config : Config) (exchange : Http.Exchange)
    (read : Http.Answer → Except Failure α) : Reply α :=
  { delay := exchange.elapsed
    outcome := match exchange.result with
      | .error trouble => .failed (.ofTrouble config.timeout trouble)
      | .ok answer => .ofExcept (read answer)
    sent := exchange.arrived }

/-- Ask a JSON resource below the provider's address. -/
def get (config : Config) (network : Http.Network) (resource : String) : Http.Exchange :=
  (config.client network).send "GET" (config.url ++ resource)
    (config.headers [("accept", "application/json")])

/-- Call an operation with an envelope. -/
def call (config : Config) (network : Http.Network) (operation envelope : String) :
    Http.Exchange :=
  (config.client network).send "POST" config.url
    (config.headers
      [("accept", "*/*"), ("content-type", "text/xml; charset=utf-8"), ("soapaction", operation)])
    envelope

end Config

end GroupFederation.Provider
