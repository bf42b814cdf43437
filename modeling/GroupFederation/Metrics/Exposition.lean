/-!
# Metrics text

A metric family has a name, a help text and a kind; its samples are lines with labels and a value.
Labels are written in the order of their names, and the backslash, the quote and the line feed are
escaped in their values, so that a sample is one line whatever its labels hold.
-/

namespace GroupFederation.Exposition

/-- How one character of a label value is written. -/
def labelChar : Char → List Char
  | '\\' => ['\\', '\\']
  | '"' => ['\\', '"']
  | '\n' => ['\\', 'n']
  | other => [other]

/-- A label value between its quotes. -/
def labelValue (value : String) : String :=
  String.ofList ('"' :: value.toList.flatMap labelChar ++ ['"'])

/-- One sample: the labels of the metric and its count. -/
structure Sample where
  labels : List (String × String)
  count : Nat
  deriving DecidableEq, Repr

/-- The line of a sample. -/
def Sample.line (name : String) (sample : Sample) : String :=
  name ++ "\x7b" ++
    ",".intercalate (sample.labels.map fun (label, value) => label ++ "=" ++ labelValue value) ++
    "\x7d " ++ toString sample.count

/-- Compare label values one after the other, as texts. -/
def valuesAtMost : List (String × String) → List (String × String) → Bool
  | [], _ => true
  | _ :: _, [] => false
  | (_, left) :: lefts, (_, right) :: rights =>
      left < right || (left == right && valuesAtMost lefts rights)

/-- A metric family. -/
structure Family where
  name : String
  help : String
  kind : String
  /-- What stands between the name of the family and the labels of its samples. -/
  suffix : String := ""
  samples : List Sample
  deriving Repr

namespace Family

/-- The lines of the samples, in the order of their label values. -/
def sampleLines (family : Family) : List String :=
  (family.samples.mergeSort fun left right => valuesAtMost left.labels right.labels).map
    (Sample.line (family.name ++ family.suffix))

/-- Help, kind and samples; a family without samples is not shown. -/
def lines (family : Family) : List String :=
  if family.samples.isEmpty then []
  else
    ["# HELP " ++ family.name ++ " " ++ family.help,
      "# TYPE " ++ family.name ++ " " ++ family.kind] ++ family.sampleLines

end Family

/-- The text of several families, each line ended by a line feed. -/
def text (families : List Family) : String :=
  String.join ((families.flatMap Family.lines).map (· ++ "\n"))

end GroupFederation.Exposition
