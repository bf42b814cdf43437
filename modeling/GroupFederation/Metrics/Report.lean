import GroupFederation.Aggregation.Engine
import GroupFederation.Metrics.Exposition
import GroupFederation.Token.Chain

/-!
# The metrics of the service

Four families are reported: answered requests and their latencies by method, route and status,
provider calls by provider, operation and outcome, and look-ups in the decision cache by result. Of
the latencies only the numbers of observations are reported here.
-/

namespace GroupFederation

/-- The labels of an answered request; the path is the template of its route. -/
structure RequestLabel where
  method : String
  path : String
  status : Nat
  deriving DecidableEq, Repr

namespace Report

open Exposition (Family Sample)

def requestSamples (requests : Tally RequestLabel) : List Sample :=
  requests.counts.map fun (label, count) =>
    ⟨[("method", label.method), ("path", label.path), ("status", toString label.status)], count⟩

def requestCounts (requests : Tally RequestLabel) : Family :=
  { name := "http_requests_total"
    help := "Total number of HTTP requests"
    kind := "counter"
    samples := requestSamples requests }

def requestLatencies (requests : Tally RequestLabel) : Family :=
  { name := "http_request_duration_seconds"
    help := "HTTP request duration in seconds"
    kind := "histogram"
    suffix := "_count"
    samples := requestSamples requests }

def providerCalls (calls : Tally Aggregation.CallLabel) : Family :=
  { name := "provider_calls_total"
    help := "Group provider calls by provider, operation and outcome"
    kind := "counter"
    samples := calls.counts.map fun (label, count) =>
      ⟨[("operation", label.operation), ("outcome", label.outcome),
        ("provider", label.provider)], count⟩ }

def cacheLookups (lookups : Tally Token.Lookup) : Family :=
  { name := "token_cache_lookups_total"
    help := "Token decision cache lookups by result"
    kind := "counter"
    samples := lookups.counts.map fun (label, count) =>
      ⟨[("result", match label with | .hit => "hit" | .miss => "miss")], count⟩ }

/-- The text of all families, in the order of their names. -/
def text (requests : Tally RequestLabel) (calls : Tally Aggregation.CallLabel)
    (lookups : Tally Token.Lookup) : String :=
  Exposition.text
    [requestLatencies requests, requestCounts requests, providerCalls calls,
      cacheLookups lookups]

end Report

end GroupFederation
