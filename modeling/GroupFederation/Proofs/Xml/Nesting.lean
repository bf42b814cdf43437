import GroupFederation.Proofs.Xml.Tree

/-!
# How elements are nested

An element is closed by its own name, and only if it is the innermost one that is open. A text may
end while elements are open: such a text is well nested, but not finished. Whether a text is well
nested can be told from its signs and from its pieces, in which blank text, literal text and empty
elements are left out: what is left out opens and closes nothing for good, and space around a text
makes no difference to its references.
-/

namespace GroupFederation.Xml

/-! ## Well-nested texts -/

/-- The elements that are open behind a sign, the innermost one first. -/
def Sign.nest (opened : List (List Char)) : Sign → Option (List (List Char))
  | .character _ => some opened
  | .opened name => some (name :: opened)
  | .closed name =>
      match opened with
      | [] => none
      | last :: outer => if name = last then some outer else none

def Sign.isOpening : Sign → Bool
  | .opened _ => true
  | _ => false

/-- The signs of a text. -/
def signs? (document : String) : Option (List Sign) :=
  let source := Text.Utf8.withoutMark document.toList
  readSigns (source.length + 1) source

/-- The elements that are open at the end of a text, if it is well nested. -/
def leftOpen? (document : String) : Option (List (List Char)) :=
  (signs? document).bind (·.foldlM Sign.nest [])

/-- Whether there is an element in a text. -/
def hasElement (document : String) : Bool :=
  ((signs? document).getD []).any Sign.isOpening

/-- Whether there is an element in a text, and every element in it is closed before its end. -/
def isFinished (document : String) : Bool :=
  leftOpen? document == some [] && hasElement document

/-! ## References in a text with space around it -/

theorem ne_of_isSpace {character : Char} (space : isSpace character = true) :
    character ≠ '&' ∧ character ≠ ';' := by
  constructor <;> rintro rfl <;> exact absurd space (by decide)

theorem isSome_unescapeFrom_append {space : List Char}
    (blank : ∀ character ∈ space, isSpace character = true) (name : Option (List Char))
    (text : List Char) :
    (unescapeFrom name (text ++ space)).isSome = (unescapeFrom name text).isSome := by
  induction text generalizing name with
  | nil =>
      rw [List.nil_append]
      induction space generalizing name with
      | nil => rfl
      | cons character space inductionHypothesis =>
          obtain ⟨first, rest⟩ := List.forall_mem_cons.mp blank
          obtain ⟨noStart, noEnd⟩ := ne_of_isSpace first
          cases name with
          | none =>
              have passed : unescapeFrom none (character :: space) =
                  (unescapeFrom none space).map (character :: ·) := by
                rw [unescapeFrom, if_neg noStart]
              rw [passed, Option.isSome_map, inductionHypothesis rest]
          | some name =>
              have passed : unescapeFrom (some name) (character :: space) =
                  unescapeFrom (some (character :: name)) space := by
                rw [unescapeFrom, if_neg noEnd, if_neg noStart]
              rw [passed, inductionHypothesis rest]
              rfl
  | cons character text inductionHypothesis =>
      cases name with
      | none =>
          rw [List.cons_append, unescapeFrom, unescapeFrom]
          split
          · exact inductionHypothesis _
          · rw [Option.isSome_map, Option.isSome_map, inductionHypothesis]
      | some name =>
          rw [List.cons_append, unescapeFrom, unescapeFrom]
          split
          · cases entity? name.reverse with
            | none => rfl
            | some meant =>
                have same := inductionHypothesis none
                cases shorter : unescapeFrom none text <;>
                  cases longer : unescapeFrom none (text ++ space) <;> simp_all
          · split
            · rfl
            · exact inductionHypothesis _

/-- Space around a text makes no difference to its references. -/
theorem isSome_unescape?_trimmed (text : List Char) :
    (unescape? (trimmed text)).isSome = (unescape? text).isSome := by
  have front : (unescape? (text.dropWhile isSpace)).isSome = (unescape? text).isSome := by
    induction text with
    | nil => rfl
    | cons character text inductionHypothesis =>
        rw [List.dropWhile_cons]
        split
        · next space =>
          rw [inductionHypothesis, unescape?, unescape?, unescapeFrom,
            if_neg (ne_of_isSpace space).1, Option.isSome_map]
        · rfl
  obtain ⟨space, blank, split⟩ := Text.exists_append_dropEndWhile isSpace (text.dropWhile isSpace)
  rw [← front, split, trimmed]
  exact (isSome_unescapeFrom_append blank none _).symm

/-! ## Pieces -/

/-- The elements that are open behind a piece. -/
def Piece.nest (opened : List (List Char)) : Piece → Option (List (List Char))
  | .text content => (unescape? content).map fun _ => opened
  | .opening content => some (tagName content :: opened)
  | .closing content => Sign.nest opened (.closed (Text.dropEndWhile isSpace content))
  | .skipped => some opened

theorem foldlM_nest_characters (text : List Char) (opened : List (List Char)) :
    (text.map Sign.character).foldlM Sign.nest opened = some opened := by
  induction text with
  | nil => rfl
  | cons character text inductionHypothesis => exact inductionHypothesis

theorem skipPast_eq_map (mark text : List Char) :
    skipPast mark text = (readUpTo mark text).map Prod.snd := by
  induction text with
  | nil => rfl
  | cons character text inductionHypothesis =>
      rw [skipPast, readUpTo]
      split
      · rfl
      · rw [inductionHypothesis, Option.map_map]
        rfl

/-- Markup opens and closes the same elements as a piece and as signs. -/
theorem map_nest_readMarkup (text : List Char) (opened : List (List Char)) :
    (readMarkup text).map (fun found => (found.1.nest opened, found.2)) =
      (readMark text).map fun found => (found.1.foldlM Sign.nest opened, found.2) := by
  unfold readMark
  split
  · next rest =>
    rw [readMarkup, skipDeclaration]
    split
    · rw [skipPast_eq_map, Option.map_map, Option.map_map, Option.map_map]
      refine congrArg (Option.map · _) (funext fun found => ?_)
      simp [Function.comp_def, Piece.nest, foldlM_nest_characters]
    · rfl
  · rw [readMarkup, Option.map_map, Option.map_map]
    rfl
  · rw [readMarkup, Option.map_map, Option.map_map]
    rfl
  · rw [readMarkup, Option.map_map, Option.map_map]
    refine congrArg (Option.map · _) (funext fun found => ?_)
    simp [Piece.nest]
  · next noLiteral noDeclaration noInstruction noClosing =>
    unfold readMarkup
    split
    · rfl
    · next rest => exact (noDeclaration rest rfl).elim
    · next rest => exact (noInstruction rest rfl).elim
    · next rest => exact (noClosing rest rfl).elim
    · rw [Option.map_map, Option.map_map]
      refine congrArg (Option.map · _) (funext fun found => ?_)
      dsimp only [Function.comp]
      split <;> simp [Piece.nest, Sign.nest]

/-- The text in front of markup passes as a piece exactly if its references can be read. -/
theorem foldlM_nest_text (text : List Char) (opened : List (List Char)) :
    (if (trimmed text).isEmpty then [] else [Piece.text (trimmed text)]).foldlM Piece.nest opened =
      (unescape? text).map fun _ => opened := by
  have same := isSome_unescape?_trimmed text
  split
  · next nothing =>
    rw [List.isEmpty_iff.mp nothing] at same
    obtain ⟨characters, read⟩ := Option.isSome_iff_exists.mp same.symm
    rw [read]
    rfl
  · cases read : unescape? text with
    | none =>
        rw [read, Option.isSome_none, Option.isSome_eq_false_iff, Option.isNone_iff_eq_none] at same
        simp [Piece.nest, same]
    | some characters =>
        rw [read] at same
        obtain ⟨others, read⟩ := Option.isSome_iff_exists.mp same
        simp [Piece.nest, read]

theorem bind_nest_map (texts : List Piece) (piece : Piece) (pieces? : Option (List Piece))
    (opened : List (List Char)) :
    (pieces?.map (texts ++ piece :: ·)).bind (·.foldlM Piece.nest opened) =
      (texts.foldlM Piece.nest opened).bind fun inner => (piece.nest inner).bind fun inner =>
        pieces?.bind (·.foldlM Piece.nest inner) := by
  cases pieces? with
  | none => simp
  | some pieces => simp [List.foldlM_append]

theorem bind_nest_map_signs (text : List Char) (signs : List Sign) (signs? : Option (List Sign))
    (opened : List (List Char)) :
    (signs?.map fun others => text.map .character ++ (signs ++ others)).bind
        (·.foldlM Sign.nest opened) =
      (signs.foldlM Sign.nest opened).bind fun inner =>
        signs?.bind (·.foldlM Sign.nest inner) := by
  cases signs? with
  | none => simp
  | some others => simp [List.foldlM_append, foldlM_nest_characters]

/-- The pieces of a text leave the same elements open as its signs. -/
theorem bind_nest_readPieces (bound : Nat) (source : List Char) (opened : List (List Char)) :
    (readPieces bound source).bind (·.foldlM Piece.nest opened) =
      (readSigns bound source).bind (·.foldlM Sign.nest opened) := by
  induction bound generalizing source opened with
  | zero => rfl
  | succ bound inductionHypothesis =>
      have front := foldlM_nest_text (source.takeWhile (· != '<')) opened
      rw [readPieces, readSigns]
      generalize (if (trimmed (source.takeWhile (· != '<'))).isEmpty then []
        else [Piece.text (trimmed (source.takeWhile (· != '<')))]) = texts at front ⊢
      cases source.dropWhile (· != '<') with
      | nil =>
          rw [Option.bind_some, front]
          cases unescape? (source.takeWhile (· != '<')) with
          | none => rfl
          | some characters => exact (foldlM_nest_characters characters opened).symm
      | cons bracket rest =>
          have markup := map_nest_readMarkup rest opened
          dsimp only
          cases read : readMarkup rest with
          | none =>
              rw [read, Option.map_none, eq_comm, Option.map_eq_none_iff] at markup
              cases unescape? (source.takeWhile (· != '<')) <;> simp [markup]
          | some found =>
              obtain ⟨piece, behind⟩ := found
              rw [read, Option.map_some, eq_comm, Option.map_eq_some_iff] at markup
              obtain ⟨⟨signs, rest⟩, readAsSigns, same⟩ := markup
              obtain ⟨nested, rfl⟩ := Prod.mk.inj same
              dsimp only
              rw [bind_nest_map, front]
              cases unescape? (source.takeWhile (· != '<')) with
              | none => rfl
              | some characters =>
                  dsimp only
                  rw [readAsSigns]
                  dsimp only
                  rw [bind_nest_map_signs, nested, Option.map_some, Option.bind_some]
                  exact congrArg _ (funext (inductionHypothesis rest))

end GroupFederation.Xml
