import GroupFederation.Settings.Basic
import GroupFederation.Settings.Dotenv
import GroupFederation.Settings.FileName
import GroupFederation.Settings.Format

/-!
# Loading the settings

Settings come from a file, over which the variables of the environment are laid. The file is the
one that the variable `GROUP_SERVICE_CONFIG` names when the service is started, and it has to be
there; unless the variable names one it is called `configuration`, and a missing file is an empty
one. The ending of its name says in which format it is written; a name without the ending stands for
the first file that there is with one of the known endings. Then a `.env` file sets the variables
that are not set, too late to name the settings file.
-/

namespace GroupFederation.Settings

/-- What the service finds when it is started. -/
structure Surroundings where
  environment : Environment
  /-- The content of the `.env` file, if there is one. -/
  dotenv : Option String
  /-- The content of the file with a given name, if there is one. Names have no segments that lead
  nowhere. -/
  file? : String → Option String
  /-- How settings files are read. -/
  readers : Readers

/-- Why there are no settings. -/
inductive LoadError where
  /-- There is no such file, or its ending is that of no format. -/
  | missingFile (name : String)
  /-- The file is not well formed in its format, or not a table. -/
  | malformedFile (name : String)
  /-- A setting is missing or has a value that it cannot have. -/
  | unsuitable
  deriving DecidableEq, Repr

/-- The variable that names the settings file. -/
def fileVariable : String := "GROUP_SERVICE_CONFIG"

/-- The name of the settings file where none is given, without its ending. -/
def defaultFile : String := "configuration"

namespace Surroundings

/-- The settings file that an operator has named. -/
def namedFile? (surroundings : Surroundings) : Option String :=
  (surroundings.environment.get? fileVariable).filter fun name => name != ""

/-- The content of the file that a name stands for as it is. -/
def exactFile? (surroundings : Surroundings) (name : String) : Option String :=
  if FileName.endsInStep name then surroundings.file? (FileName.plain name) else none

/-- The content of the file that a name stands for with an ending. -/
def endedFile? (surroundings : Surroundings) (name ending : String) : Option String :=
  (FileName.withEnding? name ending).bind surroundings.file?

/-- The format and the content of a settings file. A file of exactly this name counts if its ending
is that of a format; without one the formats are tried with all their endings. -/
def settingsFile? (surroundings : Surroundings) (name : String) : Option (Format × String) :=
  match surroundings.exactFile? name with
  | some content => ((FileName.ending? name).bind Format.ofEnding?).map (·, content)
  | none =>
      surroundings.readers.order.findSome? fun format =>
        format.endings.findSome? fun ending =>
          (surroundings.endedFile? name ending).map (format, ·)

/-- There is no settings file of a name exactly if a file of this very name has no ending that is
that of a format, and otherwise if there is no file with any of the endings. -/
theorem settingsFile?_eq_none_iff {surroundings : Surroundings} {name : String} :
    surroundings.settingsFile? name = none ↔
      if (surroundings.exactFile? name).isSome then
        ∀ ending, FileName.ending? name = some ending → Format.ofEnding? ending = none
      else ∀ format : Format, ∀ ending ∈ format.endings,
        surroundings.endedFile? name ending = none := by
  unfold settingsFile?
  cases surroundings.exactFile? name with
  | some content => simp
  | none =>
      simp only [List.findSome?_eq_none_iff, Option.map_eq_none_iff, Option.isSome_none,
        Bool.false_eq_true, if_false]
      constructor
      · intro missing format
        exact missing format (surroundings.readers.mem_order format)
      · intro missing format _
        exact missing format

/-- The ending of a settings file is one of its format. -/
theorem exists_of_settingsFile?_eq_some {surroundings : Surroundings} {name content : String}
    {format : Format} (found : surroundings.settingsFile? name = some (format, content)) :
    ∃ ending ∈ format.endings,
      (FileName.ending? name = some ending ∧ surroundings.exactFile? name = some content) ∨
        surroundings.endedFile? name ending = some content := by
  unfold settingsFile? at found
  split at found
  · next exact isExact =>
    obtain ⟨chosen, ofEnding, same⟩ := Option.map_eq_some_iff.mp found
    cases same
    obtain ⟨ending, ends, known⟩ := Option.bind_eq_some_iff.mp ofEnding
    exact ⟨ending, Format.ofEnding?_eq_some_iff.mp known, .inl ⟨ends, isExact⟩⟩
  · obtain ⟨tried, -, inFormat⟩ := List.exists_of_findSome?_eq_some found
    obtain ⟨ending, member, withEnding⟩ := List.exists_of_findSome?_eq_some inFormat
    obtain ⟨text, ended, same⟩ := Option.map_eq_some_iff.mp withEnding
    cases same
    exact ⟨ending, member, .inr ended⟩

/-- The entries of a settings file that has been found. -/
def entriesIn (surroundings : Surroundings) (name : String) (file : Format × String) :
    Except LoadError (List (String × Value)) :=
  match surroundings.readers.read? file.1 file.2 with
  | some entries => .ok entries
  | none => .error (.malformedFile name)

/-- The entries of the settings file with a given name, or of the default one. -/
def entriesOf (surroundings : Surroundings) (name : Option String) :
    Except LoadError (List (String × Value)) :=
  match name with
  | some name =>
      match surroundings.settingsFile? name with
      | some file => surroundings.entriesIn name file
      | none => .error (.missingFile name)
  | none =>
      match surroundings.settingsFile? defaultFile with
      | some file => surroundings.entriesIn defaultFile file
      | none => .ok []

/-- The entries of the settings file. -/
def fileEntries (surroundings : Surroundings) : Except LoadError (List (String × Value)) :=
  surroundings.entriesOf surroundings.namedFile?

/-- The environment with what the `.env` file adds to it. -/
def completeEnvironment (surroundings : Surroundings) : Environment :=
  match surroundings.dotenv with
  | some content => Dotenv.load surroundings.environment content
  | none => surroundings.environment

end Surroundings

/-- All settings in one table: those of a file and, over them, those of an environment. -/
def layered (entries : List (String × Value)) (environment : Environment) : Value :=
  (Value.assign (.table []) entries).assign environment.assignments

/-- The settings that the service is started with. -/
def load (surroundings : Surroundings) : Except LoadError Settings :=
  match surroundings.fileEntries with
  | .error error => .error error
  | .ok entries =>
      match ofValue? (layered entries surroundings.completeEnvironment) with
      | some settings => .ok settings
      | none => .error .unsuitable

end GroupFederation.Settings
