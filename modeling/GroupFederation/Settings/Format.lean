import GroupFederation.Json.Reader
import GroupFederation.Settings.Value

/-!
# Formats of settings files

A settings file is written in one of six formats, and the ending of its name says in which. JSON is
read by this library. How the other formats are read is left open: their readers are given, and so
is the order in which the formats are tried for a file whose ending is left out, which nothing
fixes.
-/

namespace GroupFederation.Settings

/-- The formats of settings files. -/
inductive Format where
  | toml
  | json
  | yaml
  | ini
  | ron
  | json5
  deriving DecidableEq, Repr

namespace Format

/-- All formats. -/
def all : List Format :=
  [toml, json, yaml, ini, ron, json5]

theorem mem_all (format : Format) : format ∈ all := by
  cases format <;> decide

/-- What the names of files in the format may end in. -/
def endings : Format → List String
  | toml => ["toml"]
  | json => ["json"]
  | yaml => ["yaml", "yml"]
  | ini => ["ini"]
  | ron => ["ron"]
  | json5 => ["json5"]

/-- The format of files whose names have an ending. -/
def ofEnding? (ending : String) : Option Format :=
  all.find? fun format => format.endings.contains ending

/-- No ending is that of two formats. -/
theorem ofEnding?_eq_some_iff {ending : String} {format : Format} :
    ofEnding? ending = some format ↔ ending ∈ format.endings := by
  constructor
  · intro found
    simpa using List.find?_some found
  · intro member
    have chosen : ∀ ending ∈ format.endings, ofEnding? ending = some format := by
      cases format <;> decide
    exact chosen ending member

end Format

/-- The entries in a text of JSON, if it is a table. -/
def readEntries? (content : String) : Option (List (String × Value)) := do
  let json ← (Json.read content).filter (Json.Value.isTransferable 0)
  match ← Value.ofJson? json with
  | .table entries => some entries
  | _ => none

/-- How settings files are read. -/
structure Readers where
  /-- The entries in a text of a format, if it is a table. -/
  read? : Format → String → Option (List (String × Value))
  /-- The formats in the order in which they are tried. -/
  order : List Format
  read?_json : read? .json = readEntries?
  mem_order : ∀ format, format ∈ order

/-- Readers of JSON and of nothing else. -/
def Readers.ofJson : Readers where
  read?
    | .json => readEntries?
    | _ => fun _ => none
  order := Format.all
  read?_json := rfl
  mem_order := Format.mem_all

end GroupFederation.Settings
