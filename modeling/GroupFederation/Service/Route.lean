import GroupFederation.Text.Blank
import GroupFederation.Text.Percent

/-!
# Routes

The service answers on nine routes. A route is a path of fixed segments and parameters; a parameter
takes one segment of the path as it stands in the request, still percent-encoded, and the one at
the end of a path may not be empty. The template of a route names it without anything from a
request.
-/

namespace GroupFederation.Service

/-- A segment of a template. -/
inductive Part where
  | fixed (text : String)
  | parameter (name : String)
  deriving DecidableEq, Repr

/-- Who may use a route. -/
inductive Audience where
  | anyone
  /-- Callers with a valid token. -/
  | authenticated
  /-- Machine clients with a valid token. -/
  | clients
  deriving DecidableEq, Repr

/-- What the service can be asked. -/
inductive Route where
  | health
  | metrics
  | myGroups
  | myGroup
  | userGroups
  | userGroup
  | userExternalGroups
  | allGroups
  | members
  deriving DecidableEq, Repr

namespace Route

def all : List Route :=
  [.health, .metrics, .myGroups, .myGroup, .userGroups, .userGroup, .userExternalGroups,
    .allGroups, .members]

/-- The segments of a route. -/
def parts : Route → List Part
  | .health => [.fixed "health"]
  | .metrics => [.fixed "metrics"]
  | .myGroups => [.fixed "me", .fixed "groups"]
  | .myGroup => [.fixed "me", .fixed "groups", .parameter "group_id"]
  | .userGroups => [.fixed "internal", .fixed "groups", .parameter "user_id"]
  | .userGroup =>
      [.fixed "internal", .fixed "groups", .parameter "user_id", .parameter "group_id"]
  | .userExternalGroups => [.fixed "internal", .fixed "external-groups", .parameter "user_id"]
  | .allGroups => [.fixed "internal", .fixed "all-groups"]
  | .members => [.fixed "members", .parameter "group_id"]

def audience : Route → Audience
  | .health => .anyone
  | .metrics => .anyone
  | .myGroups => .authenticated
  | .myGroup => .authenticated
  | _ => .clients

/-- The route as it is named in metrics. -/
def template (route : Route) : String :=
  String.join (route.parts.map fun
    | .fixed text => "/" ++ text
    | .parameter name => "/:" ++ name)

/-- The segments that the parameters take, each with the name of its parameter. -/
def matchParts : List Part → List String → Option (List (String × String))
  | [], [] => some []
  | .fixed text :: parts, segment :: segments =>
      if segment = text then matchParts parts segments else none
  | .parameter name :: parts, segment :: segments =>
      if parts.isEmpty && segment == "" then none
      else (matchParts parts segments).map ((name, segment) :: ·)
  | _, _ => none

/-- The segments of a path that begins with a slash. -/
def segments? (path : String) : Option (List String) :=
  match path.toList with
  | '/' :: rest => some ((Text.splitOn '/' rest).map String.ofList)
  | _ => none

/-- The route of a path and the segments of its parameters. -/
def find? (path : String) : Option (Route × List (String × String)) := do
  let segments ← segments? path
  all.findSome? fun route => (matchParts route.parts segments).map (route, ·)

/-- The parameters with their escapes undone, or the name of the first one whose bytes are no
text. -/
def decodeParameters : List (String × String) → Except String (List String)
  | [] => .ok []
  | (name, segment) :: rest =>
      match Text.Percent.decodeText? segment with
      | none => .error name
      | some value =>
          match decodeParameters rest with
          | .error name => .error name
          | .ok values => .ok (value :: values)

end Route

end GroupFederation.Service
