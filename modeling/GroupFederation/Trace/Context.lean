import GroupFederation.Http.Headers
import GroupFederation.Text.Quoted

/-!
# Trace context

A call to a backend belongs to the same trace as the request that caused it. The two headers of the
W3C trace context carry that relation: `traceparent` holds the identifiers and the flags as
hexadecimal digits of fixed width, and `tracestate` the entries that other systems have added. A
context whose trace or span is zero says nothing, and nothing is written for it.
-/

namespace GroupFederation.Trace

/-- The position of a span in a trace. -/
structure SpanContext where
  traceId : BitVec 128
  spanId : BitVec 64
  flags : BitVec 8
  state : List (String × String)
  deriving DecidableEq, Repr

namespace SpanContext

/-- Neither identifier may be zero. -/
def isValid (context : SpanContext) : Bool :=
  context.traceId != 0 && context.spanId != 0

/-- The context of a new span below a parent. A sampled span sets the lowest flag and goes on with
the other flags and the entries of its parent; one that is not sampled has neither. -/
def child (parent : SpanContext) (spanId : BitVec 64) (sampled : Bool) : SpanContext :=
  { traceId := parent.traceId
    spanId := spanId
    flags := if sampled then parent.flags ||| 1 else 0
    state := if sampled then parent.state else [] }

/-- The context of a span that starts a trace. -/
def root (traceId : BitVec 128) (spanId : BitVec 64) (sampled : Bool) : SpanContext :=
  child ⟨traceId, 0, 0, []⟩ spanId sampled

/-- The hexadecimal digits of a word, one for every four bits. -/
def hexText {width : Nat} (word : BitVec width) : String :=
  String.ofList (Text.paddedHex (width / 4) word.toNat)

/-- Version, trace, span and flags. -/
def traceparent (context : SpanContext) : String :=
  "00-" ++ hexText context.traceId ++ "-" ++ hexText context.spanId ++ "-" ++
    hexText context.flags

/-- The entries of other systems, in order. -/
def tracestate (context : SpanContext) : String :=
  ",".intercalate (context.state.map fun (key, value) => key ++ "=" ++ value)

end SpanContext

/-- Write the context of the active span into the headers of a call. -/
def inject (active : Option SpanContext) (headers : Http.Headers) : Http.Headers :=
  match active with
  | none => headers
  | some context =>
      if !context.isValid then headers
      else
        let traced := headers.insert "traceparent" context.traceparent
        let state := context.tracestate
        if state == "" || !Http.Headers.isValue state then traced
        else traced.insert "tracestate" state

end GroupFederation.Trace
