import GroupFederation.Http.Url
import GroupFederation.Proofs.Text.Encoding
import Mathlib.Data.List.TakeWhile

/-!
# Addresses below an address

What a partner is asked for lies below the partner's address: names are written behind it, each
after a slash. Read as a whole, such an address leads to the same server, and its path goes along
the partner's own segments and then along the names, as long as none of them consists of one dot or
of two. The dots would be resolved, so that the path would be another one.
-/

namespace GroupFederation.Http.Url

open Text.Percent (encodeSegment)

/-! ## Segments of a path -/

/-- Names, each behind a slash. -/
def writePath (names : List (List Char)) : List Char :=
  names.flatMap ('/' :: ·)

theorem splitSlashes_ne_nil (text : List Char) : splitSlashes text ≠ [] := by
  cases text with
  | nil => simp [splitSlashes]
  | cons character text =>
      rw [splitSlashes]
      split
      · simp
      · split <;> simp

theorem splitSlashes_append (front behind : List Char) :
    splitSlashes (front ++ '/' :: behind) = splitSlashes front ++ splitSlashes behind := by
  induction front with
  | nil => rfl
  | cons character front inductionHypothesis =>
      rw [List.cons_append, splitSlashes, splitSlashes, inductionHypothesis]
      cases splits : splitSlashes front with
      | nil => exact absurd splits (splitSlashes_ne_nil front)
      | cons piece pieces =>
          split <;> rfl

theorem splitSlashes_of_plain {name : List Char}
    (plain : ∀ character ∈ name, isSlash character = false) : splitSlashes name = [name] := by
  induction name with
  | nil => rfl
  | cons character name inductionHypothesis =>
      obtain ⟨first, rest⟩ := List.forall_mem_cons.mp plain
      rw [splitSlashes, if_neg (by simp [first]), inductionHypothesis rest]

/-- Names are found between the slashes that were put in front of them. -/
theorem splitSlashes_writePath {name : List Char} {names : List (List Char)}
    (plain : ∀ other ∈ name :: names, ∀ character ∈ other, isSlash character = false) :
    splitSlashes (name ++ writePath names) = name :: names := by
  induction names generalizing name with
  | nil =>
      rw [writePath, List.flatMap_nil, List.append_nil]
      exact splitSlashes_of_plain (plain name (.head _))
  | cons next names inductionHypothesis =>
      obtain ⟨first, rest⟩ := List.forall_mem_cons.mp plain
      rw [writePath, List.flatMap_cons, List.cons_append, ← writePath, splitSlashes_append,
        splitSlashes_of_plain first, inductionHypothesis rest]
      rfl

/-- Different names make different paths. -/
theorem writePath_injective {names others : List (List Char)}
    (plain : ∀ name ∈ names, ∀ character ∈ name, isSlash character = false)
    (plainOthers : ∀ name ∈ others, ∀ character ∈ name, isSlash character = false)
    (same : writePath names = writePath others) : names = others := by
  cases names with
  | nil =>
      cases others with
      | nil => rfl
      | cons other others => cases same
  | cons name names =>
      cases others with
      | nil => cases same
      | cons other others =>
          have inside := congrArg splitSlashes (List.cons.inj same).2
          exact (splitSlashes_writePath plain).symm.trans
            (inside.trans (splitSlashes_writePath plainOthers))

/-- Whether a segment is resolved and not kept. -/
def IsDots (segment : List Char) : Prop :=
  isSingleDot segment = true ∨ isDoubleDot segment = true

instance (segment : List Char) : Decidable (IsDots segment) :=
  inferInstanceAs (Decidable (_ ∨ _))

/-- Without dots the path goes along all segments. -/
theorem walk_of_not_isDots {segments : List (List Char)}
    (dotless : ∀ segment ∈ segments, ¬IsDots segment) (directory : List String) :
    walk directory segments = directory ++ segments.map encodePathPart := by
  induction segments generalizing directory with
  | nil => rw [walk, List.map_nil, List.append_nil]
  | cons segment segments inductionHypothesis =>
      obtain ⟨first, rest⟩ := List.forall_mem_cons.mp dotless
      obtain ⟨noSingle, noDouble⟩ := not_or.mp first
      cases segments with
      | nil => rw [walk, if_neg noDouble, if_neg noSingle]; rfl
      | cons next segments =>
          rw [walk, if_neg noDouble, if_neg noSingle, inductionHypothesis rest,
            List.append_assoc]
          · rfl
          · simp

/-! ## Names that stand for themselves -/

/-- Whether a name is a segment of a path as it is written. -/
structure IsPlain (name : List Char) : Prop where
  stays : ∀ character ∈ name, isPathChar character = true ∧ isSlash character = false
  dotless : ¬IsDots name

/-- A character between the first and the last one that stand for themselves. -/
theorem toNat_of_isPathChar {character : Char} (isPath : isPathChar character = true) :
    0x21 ≤ character.toNat ∧ character.toNat ≤ 0x7E := by
  simp only [isPathChar, Bool.and_eq_true, decide_eq_true_eq] at isPath
  exact isPath.1

/-- A name that stands for itself is not encoded any more. -/
theorem encodePathPart_of_isPlain {name : List Char} (plain : IsPlain name) :
    encodePathPart name = String.ofList name := by
  have encoded : Text.Percent.encodeBytes isPathChar (Text.Utf8.encode name) = name := by
    have stays := plain.stays
    clear plain
    induction name with
    | nil => rfl
    | cons character name inductionHypothesis =>
        obtain ⟨⟨isPath, -⟩, rest⟩ := List.forall_mem_cons.mp stays
        have range := toNat_of_isPathChar isPath
        have byte : (UInt8.ofNat character.toNat).toNat = character.toNat :=
          Text.Utf8.toNat_ofNat_of_lt (by omega)
        rw [Text.Utf8.encode, List.flatMap_cons, Text.Utf8.encodeChar_of_lt (by omega),
          ← Text.Utf8.encode, Text.Percent.encodeBytes, List.singleton_append, List.flatMap_cons,
          ← Text.Percent.encodeBytes, inductionHypothesis rest]
        dsimp only
        rw [byte, Char.ofNat_toNat, isPath, if_pos (by simp; omega)]
        rfl
  rw [encodePathPart, encoded]

/-! ### Names that are encoded as a segment -/

theorem plainDots_cons {character : Char} {rest : List Char}
    (noDot : character = '%' →
      ∀ behind, rest ≠ '2' :: 'e' :: behind ∧ rest ≠ '2' :: 'E' :: behind) :
    plainDots (character :: rest) = character :: plainDots rest := by
  rw [plainDots]
  · exact fun behind isSign same => (noDot isSign behind).1 same
  · exact fun behind isSign same => (noDot isSign behind).2 same

/-- No escape of a byte that is not kept stands for a dot. -/
theorem plainDots_escape {byte : UInt8} (noDot : byte ≠ 0x2E) (rest : List Char) :
    plainDots (Text.Percent.escape byte ++ rest) =
      Text.Percent.escape byte ++ plainDots rest := by
  have isByte := byte.toNat_lt
  have noSign {value : Nat} (isDigit : value < 16) {behind : List Char} :
      plainDots (Text.Percent.digit value :: behind) =
        Text.Percent.digit value :: plainDots behind :=
    plainDots_cons fun isSign => absurd isSign (Text.Percent.digit_ne_sign isDigit)
  have isSmall {value : Nat} (isDigit : value < 16) : Text.Percent.digit value ≠ 'e' := by
    revert value
    decide
  rw [Text.Percent.escape, List.cons_append, List.cons_append, List.cons_append, List.nil_append,
    plainDots_cons, noSign (by omega), noSign (by omega)]
  · rfl
  · intro _ behind
    simp only [ne_eq, List.cons.injEq]
    constructor
    · rintro ⟨-, isE, -⟩
      exact isSmall (by omega) isE
    · rintro ⟨isTwo, isE, -⟩
      apply noDot
      apply Text.Percent.escape_injective
      rw [Text.Percent.escape, isTwo, isE]
      rfl

/-- An encoded segment has no encoded dots. -/
theorem plainDots_encodeSegment (text : String) :
    plainDots (encodeSegment text).toList = (encodeSegment text).toList := by
  rw [Text.Percent.toList_encodeSegment]
  induction Text.Utf8.ofText text with
  | nil => rfl
  | cons byte bytes inductionHypothesis =>
      rw [Text.Percent.encodeBytes_cons]
      split
      · next kept =>
        rw [Bool.and_eq_true] at kept
        have noSign := Text.Percent.ne_sign_of_isSegmentChar kept.2
        rw [List.singleton_append, plainDots_cons fun isSign => absurd isSign noSign,
          inductionHypothesis]
      · next escaped =>
        have noDot : byte ≠ 0x2E := by
          rintro rfl
          exact escaped (by decide)
        rw [plainDots_escape noDot, inductionHypothesis]

/-- What stands for itself in a segment stands for itself in a path, and is no slash. -/
theorem isPathChar_of_isSegmentChar {character : Char}
    (isSegment : Text.Percent.isSegmentChar character = true) :
    isPathChar character = true ∧ isSlash character = false := by
  have all : ∀ code < 128, Text.Percent.isSegmentChar (Char.ofNat code) = true →
      isPathChar (Char.ofNat code) = true ∧ isSlash (Char.ofNat code) = false := by
    decide
  have ascii := Text.Percent.ascii_of_isSegmentChar isSegment
  rw [← Char.ofNat_toNat character] at isSegment ⊢
  exact all _ ascii isSegment

/-- The segment of a text is plain, unless the text consists of one dot or of two. -/
theorem isPlain_encodeSegment {text : String} (noDot : text ≠ ".") (noDots : text ≠ "..") :
    IsPlain (encodeSegment text).toList := by
  constructor
  · intro character member
    rcases Text.Percent.of_mem_encodeSegment member with isSegment | rfl
    · exact isPathChar_of_isSegmentChar isSegment
    · decide
  · have original {dots : String} (same : (encodeSegment text).toList = dots.toList)
        (plain : Text.Percent.decodeText? dots = some dots) : text = dots := by
      have read := Text.Percent.decodeText?_encodeSegment text
      rw [String.toList_inj.mp same, plain] at read
      exact (Option.some.inj read).symm
    rw [IsDots, isSingleDot, isDoubleDot, plainDots_encodeSegment, beq_iff_eq, beq_iff_eq]
    rintro (single | double)
    · exact noDot (original single (by decide))
    · exact noDots (original double (by decide))

/-! ## Addresses below an address -/

/-- Whether a character is not passed over: it is no tab and no line end. -/
def isKept (character : Char) : Bool :=
  character != '\t' && character != '\n' && character != '\r'

/-- Whether a character belongs to the name of a server, its port or an account. -/
def isPlaceChar (character : Char) : Bool :=
  !isSlash character && character != '?' && character != '#'

/-- The address of a partner as it may be written: a server without an account in front of it, and
a path without dots, a query or a fragment. -/
structure Base where
  place : List Char
  host : String
  port : Nat
  /-- Empty, or with a slash in front. -/
  path : List Char
  isPlace : readAuthority? false place = some (none, host, port)
  place_plain : ∀ character ∈ place, isPlaceChar character = true ∧ isKept character = true
  path_begins : ∀ character ∈ path.head?, isSlash character = true
  path_plain : ∀ character ∈ path,
    character ≠ '?' ∧ character ≠ '#' ∧ isKept character = true
  dotless : ∀ piece ∈ splitSlashes path.tail, ¬IsDots piece

namespace Base

def written (base : Base) : String :=
  "http://" ++ String.ofList (base.place ++ base.path)

/-- The pieces of the path. -/
def pieces (base : Base) : List (List Char) :=
  match base.path with
  | [] => []
  | _ :: path => splitSlashes path

/-- The segments of the path. -/
def segments (base : Base) : List String :=
  base.pieces.map encodePathPart

theorem place_ne_nil (base : Base) : base.place ≠ [] := by
  intro nothing
  have isPlace := base.isPlace
  have noHost : readAuthority? false [] = none := rfl
  rw [nothing, noHost] at isPlace
  cases isPlace

theorem not_isDots_of_mem_pieces (base : Base) : ∀ piece ∈ base.pieces, ¬IsDots piece := by
  intro piece member
  apply base.dotless
  unfold pieces at member
  split at member
  · cases member
  · next same => rwa [same, List.tail_cons]

end Base

/-- A character of plain names in a path. -/
theorem of_mem_writePath {names : List (List Char)} (plain : ∀ name ∈ names, IsPlain name)
    {character : Char} (member : character ∈ writePath names) :
    isPathChar character = true := by
  obtain ⟨name, inNames, member⟩ := List.mem_flatMap.mp member
  rcases List.mem_cons.mp member with rfl | member
  · decide
  · exact ((plain name inNames).stays character member).1

/-- Plain names end no path. -/
theorem ends_of_mem_writePath {names : List (List Char)} (plain : ∀ name ∈ names, IsPlain name)
    {character : Char} (member : character ∈ writePath names) :
    character ≠ '?' ∧ character ≠ '#' ∧ isKept character = true := by
  have isPath := of_mem_writePath plain member
  refine ⟨?_, ?_, ?_⟩
  · rintro rfl
    exact absurd isPath (by decide)
  · rintro rfl
    exact absurd isPath (by decide)
  · simp only [isKept, Bool.and_eq_true, bne_iff_ne]
    refine ⟨⟨?_, ?_⟩, ?_⟩ <;> rintro rfl <;> exact absurd isPath (by decide)

/-- Nothing is cleaned away from an address below an address. -/
theorem clean_below (base : Base) {names : List (List Char)} (filled : names ≠ [])
    (plain : ∀ name ∈ names, IsPlain name) :
    clean (base.written ++ String.ofList (writePath names)) =
      "http://".toList ++ (base.place ++ (base.path ++ writePath names)) := by
  have notEmpty : writePath names ≠ [] := by
    obtain ⟨name, others, rfl⟩ := List.exists_cons_of_ne_nil filled
    exact List.cons_ne_nil _ _
  have toList : (base.written ++ String.ofList (writePath names)).toList =
      "http://".toList ++ (base.place ++ (base.path ++ writePath names)) := by
    simp [Base.written, String.toList_append]
  have front : ("http://".toList ++ (base.place ++ (base.path ++ writePath names))).dropWhile
      (· ≤ ' ') = "http://".toList ++ (base.place ++ (base.path ++ writePath names)) :=
    List.dropWhile_cons_of_neg (by decide)
  have back : Text.dropEndWhile (· ≤ ' ')
      ("http://".toList ++ (base.place ++ (base.path ++ writePath names))) =
        "http://".toList ++ (base.place ++ (base.path ++ writePath names)) := by
    have visible := toNat_of_isPathChar (of_mem_writePath plain (List.getLast_mem notEmpty))
    rw [← List.dropLast_concat_getLast notEmpty, ← List.append_assoc, ← List.append_assoc,
      ← List.append_assoc, Text.dropEndWhile_append_singleton, if_neg]
    rw [decide_eq_true_eq]
    exact Nat.not_le_of_lt visible.1
  rw [clean, toList, front, back, List.filter_eq_self]
  intro character member
  rcases List.mem_append.mp member with inScheme | member
  · have all : "http://".toList.all isKept = true := by decide
    exact List.all_eq_true.mp all character inScheme
  · rcases List.mem_append.mp member with inPlace | member
    · exact (base.place_plain character inPlace).2
    · rcases List.mem_append.mp member with inPath | inNames
      · exact (base.path_plain character inPath).2.2
      · exact (ends_of_mem_writePath plain inNames).2.2

/-- The scheme is what stands in front of the first colon. -/
theorem splitScheme?_http (behind : List Char) :
    splitScheme? ("http:".toList ++ behind) = some ("http", behind) := by
  have cut : Text.cutAt ':' ("http:".toList ++ behind) = ("http".toList, some behind) :=
    Text.cutAt_eq_some_iff.mpr ⟨rfl, by decide⟩
  rw [splitScheme?, cut]
  rfl

/-- The path behind a server goes along the pieces and then along the names. -/
theorem splitSlashes_below (base : Base) {names : List (List Char)} (filled : names ≠ [])
    (plain : ∀ name ∈ names, IsPlain name) :
    ∃ first rest, base.path ++ writePath names = first :: rest ∧ isSlash first = true ∧
      splitSlashes rest = base.pieces ++ names := by
  obtain ⟨name, others, rfl⟩ := List.exists_cons_of_ne_nil filled
  have inside : splitSlashes (name ++ writePath others) = name :: others :=
    splitSlashes_writePath fun other member character inOther =>
      ((plain other member).stays character inOther).2
  cases path : base.path with
  | nil =>
      refine ⟨'/', name ++ writePath others, rfl, rfl, ?_⟩
      rw [inside, Base.pieces, path]
      rfl
  | cons first rest =>
      refine ⟨first, rest ++ writePath (name :: others), rfl,
        base.path_begins first (by rw [path]; rfl), ?_⟩
      rw [writePath, List.flatMap_cons, List.cons_append, ← writePath, splitSlashes_append,
        inside, Base.pieces, path]

/-- An address below the address of a partner leads to the partner's server, along its segments and
then along the names. -/
theorem parse?_below (base : Base) {names : List (List Char)} (filled : names ≠ [])
    (plain : ∀ name ∈ names, IsPlain name) :
    parse? (base.written ++ String.ofList (writePath names)) =
      some
        { isSecure := false
          account := none
          host := base.host
          port := base.port
          segments := base.segments ++ names.map String.ofList
          query := none } := by
  obtain ⟨first, rest, path, isFirst, pieces⟩ := splitSlashes_below base filled plain
  have scheme : splitScheme? ("http://".toList ++ (base.place ++ (base.path ++ writePath names))) =
      some ("http", '/' :: '/' :: (base.place ++ (first :: rest))) := by
    rw [path]
    exact splitScheme?_http _
  have server : ('/' :: '/' :: (base.place ++ first :: rest)).dropWhile isSlash =
      base.place ++ first :: rest := by
    obtain ⟨begin, others, place⟩ := List.exists_cons_of_ne_nil base.place_ne_nil
    have noSlash : isSlash begin = false := by
      have isPlace := (base.place_plain begin (by rw [place]; exact .head _)).1
      simp only [isPlaceChar, Bool.and_eq_true, Bool.not_eq_true'] at isPlace
      exact isPlace.1.1
    rw [List.dropWhile_cons_of_pos (by decide), List.dropWhile_cons_of_pos (by decide), place,
      List.cons_append, List.dropWhile_cons_of_neg (by simp [noSlash])]
  have inPlace : ∀ character ∈ base.place, isPlaceChar character = true :=
    fun character member => (base.place_plain character member).1
  have outside : ¬isPlaceChar first = true := by simp [isPlaceChar, isFirst]
  have taken : (base.place ++ first :: rest).takeWhile isPlaceChar = base.place := by
    rw [List.takeWhile_append_of_pos inPlace, List.takeWhile_cons_of_neg outside, List.append_nil]
  have dropped : (base.place ++ first :: rest).dropWhile isPlaceChar = first :: rest := by
    rw [List.dropWhile_append_of_pos inPlace, List.dropWhile_cons_of_neg outside]
  have cut : cutPath (first :: rest) = (first :: rest, none) := by
    have ends : ∀ character ∈ first :: rest, character ≠ '?' ∧ character ≠ '#' := by
      rw [← path]
      intro character member
      rcases List.mem_append.mp member with inPath | inNames
      · exact ⟨(base.path_plain character inPath).1, (base.path_plain character inPath).2.1⟩
      · obtain ⟨noQuery, noFragment, -⟩ := ends_of_mem_writePath plain inNames
        exact ⟨noQuery, noFragment⟩
    have noFragment : (first :: rest).takeWhile (· != '#') = first :: rest := by
      rw [List.takeWhile_eq_self_iff]
      exact fun character member => by simpa using (ends character member).2
    have noQuery : ∀ character ∈ first :: rest, (character != '?') = true :=
      fun character member => by simpa using (ends character member).1
    rw [cutPath, noFragment, Text.cutAt, List.takeWhile_eq_self_iff.mpr noQuery,
      List.dropWhile_eq_nil_iff.mpr noQuery]
  have walked : walk [] (splitSlashes rest) = base.segments ++ names.map String.ofList := by
    rw [pieces, walk_of_not_isDots, List.nil_append, List.map_append, Base.segments]
    · exact congrArg _ (List.map_congr_left fun name member =>
        encodePathPart_of_isPlain (plain name member))
    · intro piece member
      rcases List.mem_append.mp member with inPieces | inNames
      · exact base.not_isDots_of_mem_pieces piece inPieces
      · exact (plain piece inNames).dotless
  unfold isPlaceChar at taken dropped
  rw [parse?, clean_below base filled plain, scheme]
  simp only [Option.bind_eq_bind, Option.bind_some, isSecureScheme?, readAfterScheme?, server,
    taken, dropped, base.isPlace, cut, walked, Option.map_none]

/-- The target of such an address is its segments, each behind a slash. -/
theorem toList_target {url : Url} (filled : url.segments ≠ []) (noQuery : url.query = none) :
    url.target.toList = writePath (url.segments.map String.toList) := by
  have written {segments : List (List Char)} (filled : segments ≠ []) :
      '/' :: ['/'].intercalate segments = writePath segments := by
    induction segments with
    | nil => exact absurd rfl filled
    | cons segment segments inductionHypothesis =>
        cases segments with
        | nil => simp [writePath]
        | cons next segments =>
            rw [List.intercalate_cons_cons, writePath, List.flatMap_cons, ← writePath,
              ← inductionHypothesis (List.cons_ne_nil _ _)]
            simp
  rw [target, noQuery, path, String.append_empty, String.toList_append,
    String.toList_intercalate, ← written]
  · rfl
  · simpa using filled

end GroupFederation.Http.Url
