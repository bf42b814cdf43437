import GroupFederation.Http.Canned
import GroupFederation.Http.Client

/-!
# Requests without the proof of who sends them

A request shows who sends it in its `authorization` fields. A redacted request still has these
fields, but their values are blank. Where a network does not look at those values, the client does
with a redacted request what it does with the request itself: it waits as long, follows the same
redirections, and ends with the same answer or in the same trouble.
-/

namespace GroupFederation.Http

/-- A change at one place of a list, seen through what every element is taken for. -/
theorem map_modify {α β : Type} {view : α → β} {change : α → α} {changed : β → β}
    (commutes : ∀ element, view (change element) = changed (view element)) (elements : List α)
    (place : Nat) :
    (elements.modify place change).map view = (elements.map view).modify place changed := by
  refine List.ext_getElem? fun other => ?_
  simp only [List.getElem?_map, List.getElem?_modify, Option.map_eq_map]
  cases elements[other]? with
  | none => rfl
  | some element => by_cases same : place = other <;> simp [same, commutes]

namespace Headers

/-- A field, blank if it shows who sends a message. -/
def redactField (field : String × String) : String × String :=
  if field.1 = "authorization" then (field.1, "") else field

/-- The headers with all `authorization` fields blank. -/
def redacted (headers : Headers) : Headers :=
  ⟨headers.fields.map redactField⟩

@[simp] theorem fst_redactField (field : String × String) : (redactField field).1 = field.1 := by
  unfold redactField
  split <;> rfl

theorem redactField_of_ne {field : String × String} (other : field.1 ≠ "authorization") :
    redactField field = field :=
  if_neg other

@[simp] theorem redactField_redactField (field : String × String) :
    redactField (redactField field) = redactField field := by
  by_cases shows : field.1 = "authorization"
  · simp [redactField, shows]
  · simp only [redactField_of_ne shows]

@[simp] theorem redacted_redacted (headers : Headers) :
    headers.redacted.redacted = headers.redacted := by
  simp [redacted]

theorem redacted_erase (headers : Headers) (name : String) :
    (headers.erase name).redacted = headers.redacted.erase name := by
  simp [redacted, erase, List.filter_map, Function.comp_def]

theorem redacted_insert {name : String} (other : name ≠ "authorization") (headers : Headers)
    (value : String) :
    (headers.insert name value).redacted = headers.redacted.insert name value := by
  have erased := congrArg fields (headers.redacted_erase name)
  simp only [redacted] at erased
  simp only [insert, redacted, List.map_append, erased]
  simp [redactField, other]

/-- Fields of other names are what they were. -/
theorem values_redacted {name : String} (other : name ≠ "authorization") (headers : Headers) :
    headers.redacted.values name = headers.values name := by
  simp only [values, redacted, List.filter_map, List.map_map, Function.comp_def, fst_redactField]
  apply List.map_congr_left
  intro field member
  have named : field.1 = name := by simpa using (List.mem_filter.mp member).2
  rw [redactField_of_ne (named ▸ other)]

theorem first?_redacted {name : String} (other : name ≠ "authorization") (headers : Headers) :
    headers.redacted.first? name = headers.first? name := by
  rw [first?, first?, values_redacted other]

end Headers

namespace Request

/-- The request without what shows who sends it. -/
def redacted (request : Request) : Request :=
  { request with headers := request.headers.redacted }

@[simp] theorem redacted_redacted (request : Request) :
    request.redacted.redacted = request.redacted := by
  simp [redacted]

theorem redacted_movedTo (request : Request) (url : Url) :
    (request.movedTo url).redacted = request.redacted.movedTo url := by
  simp only [redacted, movedTo, apply_ite Headers.redacted, Headers.redacted_erase]
  rfl

theorem redacted_reading (request : Request) :
    request.reading.redacted = request.redacted.reading := by
  simp [redacted, reading, Headers.redacted_erase]

end Request

/-- A redirection whose next request is redacted. -/
def Redirection.redacted : Redirection → Redirection
  | .none => .none
  | .nowhere => .nowhere
  | .next request => .next request.redacted

/-- Where an answer leads does not depend on who has asked. -/
theorem Request.redacted_redirection (request : Request) (answer : Answer) :
    (request.redirection answer).redacted = request.redacted.redirection answer := by
  have base : request.redacted.url = request.url := rfl
  simp only [redirection, base]
  split
  · rfl
  · cases answer.headers.first? "location" with
    | none => rfl
    | some location =>
        dsimp only
        cases request.url.resolve? location with
        | some url =>
            simp only [Redirection.redacted, apply_ite redacted, redacted_movedTo,
              redacted_reading]
        | none =>
            cases Url.splitScheme? (Url.clean location) with
            | none => rfl
            | some scheme =>
                dsimp only
                split <;> rfl

/-- What becomes of a request does not depend on who sends it. -/
def Network.IgnoresCredentials (network : Network) : Prop :=
  ∀ request, network request.redacted = network request

namespace Canned

/-- A prepared answer is chosen by other things than the `authorization` fields. -/
theorem Route.takes_redacted (route : Route) (request : Request) :
    route.takes request.redacted = route.takes request := by
  have action : request.redacted.headers.first? "soapaction" =
      request.headers.first? "soapaction" :=
    Headers.first?_redacted (by decide) request.headers
  unfold takes
  rw [action]
  rfl

/-- Prepared backends answer everybody alike. -/
theorem ignoresCredentials_network (backends : List Backend) :
    (network backends).IgnoresCredentials := by
  intro request
  simp only [network, Backend.delivery, Route.takes_redacted]
  rfl

end Canned

/-- An exchange whose requests are redacted. -/
def Exchange.redacted (exchange : Exchange) : Exchange :=
  { exchange with arrived := exchange.arrived.map Request.redacted }

/-- The context of a span is written into other fields. -/
theorem redacted_inject (span : Option Trace.SpanContext) (headers : Headers) :
    (Trace.inject span headers).redacted = Trace.inject span headers.redacted := by
  have parent := Headers.redacted_insert (by decide : "traceparent" ≠ "authorization")
  have state := Headers.redacted_insert (by decide : "tracestate" ≠ "authorization")
  cases span with
  | none => rfl
  | some context =>
      simp only [Trace.inject]
      split
      · rfl
      · split <;> simp only [parent, state]

namespace Client

variable {client : Client}

/-- The course of a redacted request is that of the request, redacted. -/
theorem redacted_follow (ignores : client.network.IgnoresCredentials)
    (redirections elapsed : Nat) (arrived : List Request) (request : Request) :
    (client.follow redirections elapsed arrived request).redacted =
      client.follow redirections elapsed (arrived.map Request.redacted) request.redacted := by
  -- No server is reached or none answers; the server hangs up or the answer comes too late; the
  -- answer is the last one; or it leads to a next request, which is followed with fewer left.
  fun_induction follow client redirections elapsed arrived request with
  | case1 redirections elapsed arrived request delivered
  | case2 redirections elapsed arrived request delivered =>
      unfold follow
      simp [ignores request, delivered, Exchange.redacted]
  | case3 redirections elapsed arrived request delay delivered timing
  | case4 redirections elapsed arrived request delay delivered timing
  | case5 redirections elapsed arrived request delay answer delivered timing =>
      unfold follow
      simp [ignores request, delivered, timing, Exchange.redacted]
  | case6 redirections elapsed arrived request delay answer delivered timing leads
  | case7 redirections elapsed arrived request delay answer delivered timing leads
  | case8 elapsed arrived request delay answer delivered timing next leads =>
      unfold follow
      simp [ignores request, delivered, timing, ← request.redacted_redirection, leads,
        Redirection.redacted, Exchange.redacted]
  | case9 elapsed arrived request delay answer delivered timing next leads redirections
      inductionHypothesis =>
      conv => right; unfold follow
      simp [ignores request, delivered, timing, ← request.redacted_redirection, leads,
        Redirection.redacted, inductionHypothesis]

/-- Whoever sends it, a request has the same course. -/
theorem redacted_send (ignores : client.network.IgnoresCredentials) (method address : String)
    {left right : Url → Headers} (alike : ∀ url, (left url).redacted = (right url).redacted)
    (body : String) :
    (client.send method address left body).redacted =
      (client.send method address right body).redacted := by
  unfold send
  cases Url.parse? address with
  | none => rfl
  | some url =>
      simp only [redacted_follow ignores, Request.redacted, redacted_inject, alike]

end Client

end GroupFederation.Http
