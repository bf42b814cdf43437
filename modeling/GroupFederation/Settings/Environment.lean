import GroupFederation.Settings.Path

/-!
# The environment

The service is started in an environment of named texts. A variable whose name begins with `APP__`
says what a setting is worth: the rest of its name is the path of the setting, with two underscores
between one step and the next. Letter case does not count in the name. The value is always a text,
and an empty text is a value too.
-/

namespace GroupFederation.Settings

/-- The variables that the service is started with, each name once. -/
structure Environment where
  bindings : List (String × String)
  deriving DecidableEq, Repr

namespace Environment

/-- The value of a variable. -/
def get? (environment : Environment) (name : String) : Option String :=
  environment.bindings.lookup name

/-- Set a variable that is not set yet. -/
def setMissing (environment : Environment) (name value : String) : Environment :=
  if (environment.get? name).isSome then environment
  else ⟨environment.bindings ++ [(name, value)]⟩

/-- What every name of a setting's variable begins with, in lower case. -/
def leader : List Char := "app__".toList

/-- Write a full stop for every two underscores. -/
def separated : List Char → List Char
  | '_' :: '_' :: rest => '.' :: separated rest
  | character :: rest => character :: separated rest
  | [] => []

/-- The setting that a variable stands for. -/
def settingName? (variableName : String) : Option String :=
  let name := (lowerName variableName).toList
  if leader.isPrefixOf name then some (String.ofList (separated (name.drop leader.length)))
  else none

/-- What the variables say about settings, in order. -/
def assignments (environment : Environment) : List (String × Value) :=
  environment.bindings.filterMap fun (name, value) =>
    (settingName? name).map fun setting => (setting, .text value)

end Environment

end GroupFederation.Settings
