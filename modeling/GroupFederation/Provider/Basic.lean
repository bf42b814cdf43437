import GroupFederation.Group
import GroupFederation.Http.Network
import GroupFederation.Provider.Failure
import GroupFederation.Provider.Routing

/-!
# Providers

A provider is asked four kinds of questions. What it replies may depend on everything it was asked
before; a reply comes after some delay, and it is an answer, a failure, or nothing at all when the
provider breaks down. Whether a provider is asked follows from its place: the authoritative one
takes every question about persons, an external partner those about its own organization.
-/

namespace GroupFederation

/-- What a provider is asked. -/
inductive Query where
  | memberships (person : String)
  | membership (person group : String)
  | members (group : String)
  | allGroups
  deriving DecidableEq, Repr

/-- The name of the question, under which calls are counted. -/
def Query.operation : Query → String
  | .memberships _ => "memberships"
  | .membership _ _ => "membership"
  | .members _ => "members"
  | .allGroups => "all_groups"

/-- What comes of a call. -/
inductive Outcome (α : Type) where
  | answered (value : α)
  | failed (failure : Provider.Failure)
  /-- The provider breaks down while it is asked. In a list or a lookup of groups that ends the task
  of the call and nothing else; a listing of members has no such task, and there it ends the request
  that asks. -/
  | crashed
  deriving DecidableEq, Repr

namespace Outcome

variable {α : Type}

/-- The value of an answer. -/
def value? : Outcome α → Option α
  | answered value => some value
  | failed _ => none
  | crashed => none

/-- The label under which the outcome is counted; a call that breaks down is not counted. -/
def label? : Outcome α → Option String
  | answered _ => some "ok"
  | failed failure => some failure.outcome
  | crashed => none

/-- The outcome of a call that ended with a value or a failure. -/
def ofExcept : Except Provider.Failure α → Outcome α
  | .ok value => .answered value
  | .error failure => .failed failure

def map {β : Type} (change : α → β) : Outcome α → Outcome β
  | answered value => .answered (change value)
  | failed failure => .failed failure
  | crashed => .crashed

end Outcome

/-- The reply to one question: its delay in milliseconds, its outcome, and the requests that were
sent for it. -/
structure Reply (α : Type) where
  delay : Nat := 0
  outcome : Outcome α
  sent : List Http.Request := []
  deriving DecidableEq, Repr

/-- A reply within a limit; what comes later counts as a timeout. A reply exactly at the limit is in
time. -/
def Reply.within {α : Type} (limit : Nat) (reply : Reply α) : Reply α :=
  if reply.delay ≤ limit then reply
  else { reply with delay := limit, outcome := .failed (.timeout limit) }

/-- A group backend. -/
structure Provider where
  name : String
  organization : String
  /-- How long a single call may take, in milliseconds. -/
  timeout : Nat
  isExternal : Bool
  /-- Whether it can list the members of a group. -/
  listsMembers : Bool
  memberships : (earlier : List Query) → (person : String) → Reply (List Group)
  membership : (earlier : List Query) → (person group : String) → Reply (Option Group)
  members : (earlier : List Query) → (group : String) → Reply (List Member)
  allGroups : (earlier : List Query) → Reply (List Group)

namespace Provider

/-- Whether a person of the organization may have memberships here. This rule and the next one are
those of every kind of backend, told apart by the place of the provider alone; kind by kind they are
`Kind.takesMemberships` and `Kind.takesGroup`. -/
def takesMemberships (provider : Provider) (organization : String) : Bool :=
  !provider.isExternal || provider.organization == organization

/-- Whether the group can live here. -/
def takesGroup (provider : Provider) (group : String) : Bool :=
  if provider.isExternal then externalKnows provider.organization group
  else authoritativeKnows provider.organization group

end Provider

theorem Reply.delay_within {α : Type} (limit : Nat) (reply : Reply α) :
    (reply.within limit).delay = min reply.delay limit := by
  simp only [Reply.within]
  split
  · rename_i inTime
    simp [Nat.min_eq_left inTime]
  · rename_i late
    simp [Nat.min_eq_right (Nat.le_of_lt (Nat.lt_of_not_le late))]

/-- Only an answer that comes in time gives a value. -/
theorem Reply.value?_within_eq_some_iff {α : Type} {limit : Nat} {reply : Reply α} {value : α} :
    (reply.within limit).outcome.value? = some value ↔
      reply.outcome = .answered value ∧ reply.delay ≤ limit := by
  simp only [Reply.within]
  split
  · rename_i inTime
    cases reply.outcome <;> simp [Outcome.value?, inTime]
  · rename_i late
    simp [Outcome.value?, late]

end GroupFederation
