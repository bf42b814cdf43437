import GroupFederation.Text.Blank

/-!
# Names of files

A file is named by segments between slashes. An empty segment and a full stop lead nowhere, so a
name means the same without them; but a name that ends in one asks for a directory. A name that
begins with a slash does not start from the working directory.

The last segment of a file's name may have an ending, behind its last full stop. A full stop in
front of everything else hides the file and has no ending behind it.
-/

namespace GroupFederation.Settings.FileName

/-- Whether a segment leads somewhere. -/
def isStep (segment : List Char) : Bool :=
  !segment.isEmpty && segment != ['.']

/-- The segments of a name that lead somewhere. -/
def steps (name : String) : List String :=
  ((Text.splitOn '/' name.toList).filter isStep).map String.ofList

/-- Whether a name may be that of a file. -/
def endsInStep (name : String) : Bool :=
  match (Text.splitOn '/' name.toList).getLast? with
  | some segment => isStep segment
  | none => false

/-- The name without the segments that lead nowhere. -/
def plain (name : String) : String :=
  (if name.toList.head? = some '/' then "/" else "") ++ "/".intercalate (steps name)

/-- The ending of a segment. -/
def endingOf? (segment : List Char) : Option String :=
  match Text.cutAt '.' segment.reverse with
  | (ending, some front) => if front.isEmpty then none else some (String.ofList ending.reverse)
  | (_, none) => none

/-- The ending of the name of a file. -/
def ending? (name : String) : Option String :=
  (Text.splitOn '/' name.toList).getLast?.bind endingOf?

/-- The name with an ending. A name that leads nowhere or ends in the directory above is not that of
a file, and gets none. -/
def withEnding? (name ending : String) : Option String :=
  match (steps name).getLast? with
  | none => none
  | some last => if last == ".." then none else some (plain name ++ "." ++ ending)

/-- An ending is what stands behind the last full stop, if something stands before it. -/
theorem endingOf?_eq_some_iff {segment : List Char} {ending : String} :
    endingOf? segment = some ending ↔
      ∃ front, front ≠ [] ∧ segment = front ++ '.' :: ending.toList ∧ '.' ∉ ending.toList := by
  unfold endingOf?
  constructor
  · intro ends
    split at ends
    · next back front cut =>
      obtain ⟨whole, absent⟩ := Text.cutAt_eq_some_iff.mp cut
      split at ends
      · cases ends
      · next filled =>
        cases ends
        refine ⟨front.reverse, by simpa using filled, ?_, by simpa using absent⟩
        rw [← List.reverse_inj, whole]
        simp
    · cases ends
  · rintro ⟨front, filled, rfl, absent⟩
    have cut : Text.cutAt '.' (front ++ '.' :: ending.toList).reverse =
        (ending.toList.reverse, some front.reverse) :=
      Text.cutAt_eq_some_iff.mpr ⟨by simp, by simpa using absent⟩
    rw [cut]
    simp [filled]

end GroupFederation.Settings.FileName
