import GroupFederation.Proofs.Trace.Position
import GroupFederation.Proofs.Trace.State

/-!
# Writing trace contexts into headers

What the headers of a call hold after a context has been written into them is told name by name. The
position of the span is always the only one there. Its state is written only if there is one, and
nothing takes a state away: one that the headers held before stays beside the new position when the
span has none of its own.
-/

namespace GroupFederation.Trace

open Http (Headers)

/-- The span is in a trace. -/
structure SpanContext.IsInTrace (context : SpanContext) : Prop where
  traceId_ne_zero : context.traceId ≠ 0
  spanId_ne_zero : context.spanId ≠ 0

/-- The span has a state, and one that can be sent. -/
structure SpanContext.SendsState (context : SpanContext) : Prop where
  present : context.state ≠ []
  sendable : Headers.isValue context.tracestate = true

namespace SpanContext

variable {context : SpanContext}

theorem isValid_iff : context.isValid = true ↔ context.IsInTrace := by
  simp only [isValid, Bool.and_eq_true, bne_iff_ne]
  exact ⟨fun ⟨trace, span⟩ => ⟨trace, span⟩, fun inTrace =>
    ⟨inTrace.traceId_ne_zero, inTrace.spanId_ne_zero⟩⟩

instance : Decidable context.IsInTrace :=
  decidable_of_iff _ isValid_iff

theorem sendsState_iff :
    context.SendsState ↔ ¬(context.tracestate == "" || !Headers.isValue context.tracestate) := by
  simp only [Bool.or_eq_true, beq_iff_eq, State.tracestate_eq_empty_iff, Bool.not_eq_true', not_or,
    Bool.not_eq_false]
  exact ⟨fun sends => ⟨sends.present, sends.sendable⟩, fun ⟨present, sendable⟩ =>
    ⟨present, sendable⟩⟩

instance : Decidable context.SendsState :=
  decidable_of_iff _ sendsState_iff.symm

end SpanContext

/-! ## The headers afterwards -/

/-- The fields that say nothing about a trace. -/
def untraced (headers : Headers) : List (String × String) :=
  headers.fields.filter fun field => field.1 != "traceparent" && field.1 != "tracestate"

theorem untraced_insert (headers : Headers) {name : String} (value : String)
    (tracing : name = "traceparent" ∨ name = "tracestate") :
    untraced (headers.insert name value) = untraced headers := by
  have removed : (name != "traceparent" && name != "tracestate") = false := by
    rcases tracing with rfl | rfl <;> rfl
  have kept : (headers.fields.filter fun field => field.1 != name).filter
      (fun field => field.1 != "traceparent" && field.1 != "tracestate") = untraced headers := by
    rw [List.filter_filter, untraced]
    refine List.filter_congr fun field _ => ?_
    by_cases same : field.1 = name
    · rw [same, removed, Bool.false_and]
    · rw [bne_iff_ne.mpr same, Bool.and_true]
  rw [untraced, Headers.insert, List.filter_append, Headers.erase, kept,
    List.filter_cons_of_neg (by simp [removed]), List.filter_nil, List.append_nil]

section Inject

variable {context : SpanContext}

theorem inject_of_isInTrace (inTrace : context.IsInTrace) (headers : Headers) :
    inject (some context) headers =
      if context.SendsState then
        (headers.insert "traceparent" context.traceparent).insert "tracestate" context.tracestate
      else headers.insert "traceparent" context.traceparent := by
  have valid := SpanContext.isValid_iff.mpr inTrace
  simp only [inject, valid, SpanContext.sendsState_iff, ite_not]
  rfl

theorem inject_of_not_isInTrace (outside : ¬context.IsInTrace) (headers : Headers) :
    inject (some context) headers = headers := by
  rw [← SpanContext.isValid_iff] at outside
  simp [inject, outside]

/-- What the headers hold under a name once a context has been written into them. -/
theorem values_inject (inTrace : context.IsInTrace) (headers : Headers) (name : String) :
    (inject (some context) headers).values name =
      if name = "traceparent" then [context.traceparent]
      else if name = "tracestate" ∧ context.SendsState then [context.tracestate]
      else headers.values name := by
  rw [inject_of_isInTrace inTrace]
  by_cases parent : name = "traceparent"
  · subst parent
    have differ : "traceparent" ≠ "tracestate" := by decide
    split <;> simp [Headers.values_insert, Headers.values_insert_of_ne, differ]
  · by_cases state : name = "tracestate"
    · subst state
      split <;> simp_all [Headers.values_insert, Headers.values_insert_of_ne]
    · split <;> simp [Headers.values_insert_of_ne, parent, state]

theorem untraced_inject (inTrace : context.IsInTrace) (headers : Headers) :
    untraced (inject (some context) headers) = untraced headers := by
  rw [inject_of_isInTrace inTrace]
  split
  · rw [untraced_insert _ _ (.inr rfl), untraced_insert _ _ (.inl rfl)]
  · rw [untraced_insert _ _ (.inl rfl)]

end Inject

/-! ## One injection -/

/-- The headers of a call within a span, and the ones that they were before its context was written
into them. -/
structure Carries (context : SpanContext) (before after : Headers) : Prop where
  /-- One position, in the form that it has, and told apart from all others. -/
  position : ∃ text trace span flags, after.values "traceparent" = [text] ∧
    IsTraceparent text trace span flags ∧ Headers.isText text = true ∧
    ∀ position, Position.read? text = some position ↔ position = context.position
  /-- The state of the span and no other is written, and nothing without one. -/
  state : if context.SendsState then
      after.values "tracestate" = [context.tracestate] ∧
        ((∀ entry ∈ context.state, State.IsEntry entry) →
          State.read? context.tracestate = some context.state)
    else after.values "tracestate" = before.values "tracestate"
  others : untraced after = untraced before

/-- A header that tells a position consists of digits and dashes. -/
theorem isText_traceparent (context : SpanContext) :
    Headers.isText context.traceparent = true := by
  have isTraceparent := isTraceparent_traceparent context
  have digits {width : Nat} {word : List Char} (isWord : Text.Hex.IsWord width word) :
      word.all Headers.isTextChar = true := by
    have shown : Text.Hex.alphabet.all Headers.isTextChar = true := by decide
    exact List.all_eq_true.mpr fun digit member =>
      List.all_eq_true.mp shown digit (isWord.mem_alphabet digit member)
  rw [Headers.isText, isTraceparent.rendered]
  simp only [String.toList_append, String.toList_ofList, List.all_append,
    digits isTraceparent.trace, digits isTraceparent.span, digits isTraceparent.flags]
  decide

theorem carries_inject {context : SpanContext} (inTrace : context.IsInTrace) (headers : Headers) :
    Carries context headers (inject (some context) headers) := by
  constructor
  · refine ⟨context.traceparent, _, _, _, ?_, isTraceparent_traceparent context,
      isText_traceparent context, fun position => ?_⟩
    · rw [values_inject inTrace, if_pos rfl]
    · rw [Position.read?_eq_some_iff.mpr rfl, Option.some.injEq, eq_comm]
  · have noParent : "tracestate" ≠ "traceparent" := by decide
    split
    · rename_i sends
      rw [values_inject inTrace, if_neg noParent, if_pos ⟨rfl, sends⟩]
      exact ⟨rfl, State.read?_tracestate sends.present⟩
    · rename_i silent
      rw [values_inject inTrace, if_neg noParent, if_neg (fun both => silent both.2)]
  · exact untraced_inject inTrace headers

theorem position_eq_of_values {left right : SpanContext} (leftInTrace : left.IsInTrace)
    (rightInTrace : right.IsInTrace) {headers others : Headers}
    (same : (inject (some left) headers).values "traceparent" =
      (inject (some right) others).values "traceparent") : left.position = right.position := by
  rw [values_inject leftInTrace, values_inject rightInTrace, if_pos rfl, if_pos rfl,
    List.cons_eq_cons] at same
  have leftRead := Position.read?_eq_some_iff.mpr (rfl : left.traceparent = left.traceparent)
  rw [same.1, Position.read?_eq_some_iff.mpr rfl, Option.some.injEq] at leftRead
  exact leftRead.symm

/-- A context that is in a trace is written into headers whatever they held: one position of the
form that the W3C gives it, from which the trace, the span and the flags are read back bit by bit,
the state of the span if it has one, and nothing else. Contexts that differ in their position are
told apart by that header alone. Without a span, and outside of any trace, the headers stay as they
are. -/
theorem injection_is_faithful (headers : Headers) :
    (∀ context : SpanContext, context.traceId ≠ 0 → context.spanId ≠ 0 →
        Carries context headers (inject (some context) headers)) ∧
      (∀ (left right : SpanContext) (others : Headers), left.IsInTrace → right.IsInTrace →
        left.position ≠ right.position →
          (inject (some left) headers).values "traceparent" ≠
            (inject (some right) others).values "traceparent") ∧
      (∀ context : SpanContext, context.traceId = 0 ∨ context.spanId = 0 →
        inject (some context) headers = headers) ∧
      inject none headers = headers := by
  refine ⟨?_, ?_, ?_, rfl⟩
  · intro context trace span
    exact carries_inject ⟨trace, span⟩ headers
  · intro left right others leftInTrace rightInTrace differ same
    exact differ (position_eq_of_values leftInTrace rightInTrace same)
  · intro context zero
    refine inject_of_not_isInTrace (fun inTrace => ?_) headers
    exact zero.elim inTrace.traceId_ne_zero inTrace.spanId_ne_zero

/-- Leading zeros and all bits of the flags are kept, further fields of one name stay in their
order, and a value that cannot be sent leaves the old state. -/
theorem injection_is_faithful_to_leading_zeros :
    let headers : Headers := .ofFields
      [("Accept", "a"), ("Traceparent", "old"), ("accept", "b"), ("tracestate", "k=v"),
        ("traceparent", "older")]
    let context : SpanContext := ⟨0x0a, 0x0b, 0xfe, [("vendor", "v1"), ("t@system", "")]⟩
    let unsendable : SpanContext := ⟨1, 1, 0, [("vendor", "\x00")]⟩
    let written := "00-0000000000000000000000000000000a-000000000000000b-fe"
    Carries context headers (inject (some context) headers) ∧
      inject (some context) headers = ⟨[("accept", "a"), ("accept", "b"), ("traceparent", written),
        ("tracestate", "vendor=v1,t@system=")]⟩ ∧
      Position.read? written = some context.position ∧
      State.read? "vendor=v1,t@system=" = some context.state ∧
      Carries unsendable headers (inject (some unsendable) headers) ∧
      (inject (some unsendable) headers).values "tracestate" = ["k=v"] ∧
      inject (some { context with spanId := 0 }) headers = headers := by
  intro headers context unsendable written
  obtain ⟨carries, -, outside, -⟩ := injection_is_faithful headers
  exact ⟨carries context (by decide) (by decide), by decide +kernel, by decide +kernel,
    by decide +kernel, carries unsendable (by decide) (by decide), by decide +kernel,
    outside _ (.inr rfl)⟩

/-! ## One injection after another -/

/-- Writing a second context into headers replaces the first one exactly if the first leaves no
state behind: the second has a state of its own, the first has none, or the headers held the very
state of the first before. Everything else is as the second context alone makes it. Whatever state
stands beside the second position is its own exactly if it has one, or nothing was there. -/
theorem reinjection_replaces_iff {older newer : SpanContext} (olderInTrace : older.IsInTrace)
    (newerInTrace : newer.IsInTrace) (headers : Headers) :
    let again := inject (some newer) (inject (some older) headers)
    let alone := inject (some newer) headers
    ((∀ name, again.values name = alone.values name) ↔
        newer.SendsState ∨ ¬older.SendsState ∨ headers.values "tracestate" = [older.tracestate]) ∧
      ((∀ value ∈ again.values "tracestate", newer.SendsState ∧ value = newer.tracestate) ↔
        newer.SendsState ∨ ¬older.SendsState ∧ headers.values "tracestate" = []) ∧
      (∀ name ≠ "tracestate", again.values name = alone.values name) ∧
      untraced again = untraced alone := by
  intro again alone
  have noParent : "tracestate" ≠ "traceparent" := by decide
  have others : ∀ name ≠ "tracestate", again.values name = alone.values name := by
    intro name differ
    by_cases parent : name = "traceparent" <;>
      simp [again, alone, values_inject olderInTrace, values_inject newerInTrace, differ, parent]
  have state : again.values "tracestate" =
      if newer.SendsState then [newer.tracestate]
      else if older.SendsState then [older.tracestate]
      else headers.values "tracestate" := by
    simp [again, values_inject olderInTrace, values_inject newerInTrace]
  have stateAlone : alone.values "tracestate" =
      if newer.SendsState then [newer.tracestate] else headers.values "tracestate" := by
    simp [alone, values_inject newerInTrace]
  have sameState : (∀ name, again.values name = alone.values name) ↔
      again.values "tracestate" = alone.values "tracestate" := by
    refine ⟨fun same => same _, fun same name => ?_⟩
    by_cases isState : name = "tracestate"
    · rw [isState, same]
    · exact others name isState
  refine ⟨?_, ?_, others, ?_⟩
  · rw [sameState, state, stateAlone]
    by_cases sends : newer.SendsState <;> by_cases sent : older.SendsState <;>
      simp [sends, sent, eq_comm]
  · rw [state]
    by_cases sends : newer.SendsState <;> by_cases sent : older.SendsState <;>
      simp [sends, sent, List.eq_nil_iff_forall_not_mem]
  · simp only [again, alone, untraced_inject olderInTrace, untraced_inject newerInTrace]

/-- The state of the second span takes the place of the first one's. -/
theorem reinjection_replaces_iff_both_send :
    let older : SpanContext := ⟨1, 2, 1, [("vendor", "v1")]⟩
    let newer : SpanContext := ⟨3, 4, 0, [("other", "v2")]⟩
    let headers : Headers := .ofFields [("accept", "a"), ("tracestate", "old")]
    older.IsInTrace ∧ newer.IsInTrace ∧ newer.SendsState ∧
      ∀ name, (inject (some newer) (inject (some older) headers)).values name =
        (inject (some newer) headers).values name := by
  intro older newer headers
  have olderInTrace : older.IsInTrace := by decide
  have newerInTrace : newer.IsInTrace := by decide
  have sends : newer.SendsState := by decide
  exact ⟨olderInTrace, newerInTrace, sends,
    (reinjection_replaces_iff olderInTrace newerInTrace headers).1.mpr (.inl sends)⟩

/-- The state of one trace is left beside the position of another one that has none. -/
theorem state_left_in_other_trace :
    let older : SpanContext := ⟨0x4bf92f3577b34da6a3ce929d0e0e4736, 0x00f067aa0ba902b8, 1,
      [("vendor", "v1")]⟩
    let newer : SpanContext := ⟨0x0102030405060708090a0b0c0d0e0f10, 0x00f067aa0ba902b7, 1, []⟩
    let again := inject (some newer) (inject (some older) .empty)
    let alone := inject (some newer) .empty
    let parent := "00-0102030405060708090a0b0c0d0e0f10-00f067aa0ba902b7-01"
    older.IsInTrace ∧ newer.IsInTrace ∧ older.traceId ≠ newer.traceId ∧
      again.values "traceparent" = [parent] ∧ again.values "tracestate" = ["vendor=v1"] ∧
      alone.values "traceparent" = [parent] ∧ alone.values "tracestate" = [] ∧
      ¬∀ name, again.values name = alone.values name := by
  intro older newer again alone parent
  have left : again.values "tracestate" = ["vendor=v1"] := by decide +kernel
  have none : alone.values "tracestate" = [] := by decide +kernel
  refine ⟨by decide, by decide, by decide, by decide +kernel, left, by decide +kernel, none, ?_⟩
  intro same
  have both := same "tracestate"
  rw [left, none] at both
  cases both

end GroupFederation.Trace
