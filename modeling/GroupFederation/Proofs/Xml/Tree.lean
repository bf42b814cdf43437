import GroupFederation.Proofs.Xml.Document

/-!
# What a document says

A document says which elements there are and which characters stand in them. How it is written makes
no difference to that: a character may be written as a reference or in a section of literal text,
comments and instructions say nothing, and an element without content may be closed in the tag that
opens it. So the same tree may be written in many ways, and every one of them is read as this tree,
with all of its space. A text in which an element is left open is not a document and has no tree.
-/

namespace GroupFederation.Xml

/-! ## Trees -/

/-- What the content of an element says, from its beginning to its end. -/
inductive Tree where
  | nil
  | character (character : Char) (rest : Tree)
  | element (name : String) (inner rest : Tree)
  deriving DecidableEq, Repr

namespace Tree

/-- A text in front of a tree. -/
def ofText (text : List Char) (rest : Tree) : Tree :=
  text.foldr .character rest

@[simp] theorem ofText_nil (rest : Tree) : ofText [] rest = rest := rfl

@[simp] theorem ofText_cons (first : Char) (text : List Char) (rest : Tree) :
    ofText (first :: text) rest = .character first (ofText text rest) := rfl

/-- Whether there is nothing but space. -/
def isBlank : Tree → Bool
  | .nil => true
  | .character first rest => isSpace first && rest.isBlank
  | .element _ _ _ => false

/-- The name of the only element, and what is in it; around it there is nothing but space. -/
def root? : Tree → Option (String × Tree)
  | .nil => none
  | .character first rest => if isSpace first then rest.root? else none
  | .element name inner rest => if rest.isBlank then some (name, inner) else none

/-- The elements alone. -/
def shape : Tree → Tree
  | .nil => .nil
  | .character _ rest => rest.shape
  | .element name inner rest => .element name inner.shape rest.shape

/-- The characters that stand in no element. -/
def text : Tree → List Char
  | .nil => []
  | .character first rest => first :: rest.text
  | .element _ _ rest => rest.text

/-- The texts of all elements to which a path of names leads. -/
def textsAt (path : List String) : Tree → List String
  | .nil => []
  | .character _ rest => rest.textsAt path
  | .element name inner rest =>
      match path with
      | [] => rest.textsAt path
      | first :: further =>
          (if name ≠ first then []
            else if further.isEmpty then [String.ofList inner.text]
            else inner.textsAt further) ++ rest.textsAt path

@[simp] theorem shape_ofText (text : List Char) (rest : Tree) :
    (ofText text rest).shape = rest.shape := by
  induction text with
  | nil => rfl
  | cons first text inductionHypothesis => exact inductionHypothesis

@[simp] theorem text_ofText (text : List Char) (rest : Tree) :
    (ofText text rest).text = text ++ rest.text := by
  induction text with
  | nil => rfl
  | cons first text inductionHypothesis => exact congrArg (first :: ·) inductionHypothesis

end Tree

/-! ## Reading a tree -/

/-- A character, or the beginning or the end of an element by the whole of its name. -/
inductive Sign where
  | character (character : Char)
  | opened (name : List Char)
  | closed (name : List Char)
  deriving DecidableEq, Repr

/-- What stands in front of the first occurrence of a mark, and what follows the mark. -/
def readUpTo (mark : List Char) : List Char → Option (List Char × List Char)
  | [] => none
  | character :: rest =>
      if mark.isPrefixOf (character :: rest) then some ([], (character :: rest).drop mark.length)
      else (readUpTo mark rest).map fun (text, rest) => (character :: text, rest)

/-- The signs of the markup behind an opening bracket, and what follows it. -/
def readMark : List Char → Option (List Sign × List Char)
  | '!' :: '[' :: rest =>
      if beginsWith "CDATA[".toList rest then
        (readUpTo [']', ']', '>'] (rest.drop 6)).map fun (text, rest) =>
          (text.map .character, rest)
      else none
  | '!' :: rest => (skipDeclaration rest).map fun rest => ([], rest)
  | '?' :: rest => (skipInstruction rest).map fun rest => ([], rest)
  | '/' :: rest =>
      (readTag none rest).map fun (content, rest) =>
        ([.closed (Text.dropEndWhile isSpace content)], rest)
  | rest =>
      (readTag none rest).map fun (content, rest) =>
        if content.getLast? = some '/' then
          ([.opened (tagName content.dropLast), .closed (tagName content.dropLast)], rest)
        else ([.opened (tagName content)], rest)

/-- The signs of a document. The bound is on the number of its markups. -/
def readSigns : (bound : Nat) → List Char → Option (List Sign)
  | 0, _ => none
  | bound + 1, source =>
      match unescape? (source.takeWhile (· != '<')), source.dropWhile (· != '<') with
      | none, _ => none
      | some text, [] => some (text.map .character)
      | some text, _ :: rest =>
          match readMark rest with
          | none => none
          | some (signs, rest) =>
              (readSigns bound rest).map fun others => text.map .character ++ (signs ++ others)

/-- Trees that are put together from their ends: the tree of the innermost content, and for every
element that has been closed, but not opened, its name and what follows it. -/
structure Growth where
  tree : Tree
  outer : List (List Char × Tree)

/-- Put a sign in front. -/
def Growth.add (growth : Growth) : Sign → Option Growth
  | .character character => some { growth with tree := .character character growth.tree }
  | .closed name => some ⟨.nil, (name, growth.tree) :: growth.outer⟩
  | .opened name =>
      match growth.outer with
      | [] => none
      | (last, after) :: outer =>
          if name = last then some ⟨.element (localName name) growth.tree after, outer⟩ else none

/-- What signs grow to, put in front of what has grown already. -/
def grow? (growth : Growth) : List Sign → Option Growth
  | [] => some growth
  | sign :: signs => (grow? growth signs).bind (·.add sign)

/-- The tree of a document, if it is one in which every element is closed. -/
def tree? (document : String) : Option Tree :=
  let source := Text.Utf8.withoutMark document.toList
  match (readSigns (source.length + 1) source).bind (grow? ⟨.nil, []⟩) with
  | some ⟨tree, []⟩ => some tree
  | _ => none

/-- Whether a text is a document, which has an element, with nothing but space around it. -/
def isComplete (document : String) : Bool :=
  ((tree? document).bind Tree.root?).isSome

/-! ## What is written, and what it says -/

namespace Aside

def signs : Aside → List Sign
  | .comment _ _ => []
  | .literal text _ => text.map .character
  | .instruction _ _ _ => []
  | .empty tag => [.opened tag.name.written, .closed tag.name.written]

/-- The tree of some markup in front of a tree. -/
def before (aside : Aside) (rest : Tree) : Tree :=
  match aside with
  | .comment _ _ => rest
  | .literal text _ => .ofText text rest
  | .instruction _ _ _ => rest
  | .empty tag => .element tag.localName .nil rest

end Aside

namespace Content

def signs : Content → List Sign
  | .text data => data.meaning.map .character
  | .element before tag inner after =>
      before.meaning.map .character ++
        .opened tag.name.written :: (inner.signs ++ .closed tag.name.written :: after.signs)
  | .skipped before aside after => before.meaning.map .character ++ (aside.signs ++ after.signs)

/-- The tree of some content in front of a tree. -/
def before (content : Content) (rest : Tree) : Tree :=
  match content with
  | .text data => .ofText data.meaning rest
  | .element data tag inner after =>
      .ofText data.meaning (.element tag.localName (inner.before .nil) (after.before rest))
  | .skipped data aside after => .ofText data.meaning (aside.before (after.before rest))

/-- What the content says. -/
def meaning (content : Content) : Tree :=
  content.before .nil

end Content

/-! ### Signs -/

/-- A text ends where its closing mark was put. -/
theorem EndsAt.readUpTo_eq {mark text : List Char} (ends : EndsAt mark text) (filled : mark ≠ [])
    (rest : List Char) : readUpTo mark (text ++ (mark ++ rest)) = some (text, rest) := by
  induction text with
  | nil =>
      obtain ⟨first, others, rfl⟩ := List.exists_cons_of_ne_nil filled
      simp [readUpTo]
  | cons character text inductionHypothesis =>
      rw [List.cons_append, readUpTo, ends.not_isPrefixOf, if_neg Bool.false_ne_true,
        inductionHypothesis ends.tail]
      rfl

namespace Tag

/-- Markup that begins with the name of an element is an opening tag or an empty element. -/
theorem readMark_of_opening (tag : Tag) (behind : List Char) :
    readMark (tag.opening ++ behind) =
      (readTag none (tag.opening ++ behind)).map fun (content, rest) =>
        if content.getLast? = some '/' then
          ([.opened (tagName content.dropLast), .closed (tagName content.dropLast)], rest)
        else ([.opened (tagName content)], rest) := by
  obtain ⟨first, others, same, isName⟩ := tag.name.exists_written_eq_cons
  rw [opening, same, List.cons_append, List.cons_append]
  unfold readMark
  split
  · next literal => cases (List.cons.inj literal).1; cases isName
  · next declaration => cases declaration; cases isName
  · next instruction => cases instruction; cases isName
  · next closing => cases closing; cases isName
  · rfl

theorem readMark_opening (tag : Tag) (rest : List Char) :
    readMark (tag.opening ++ '>' :: rest) = some ([.opened tag.name.written], rest) := by
  rw [readMark_of_opening, tag.passes_opening.readTag_eq]
  simp [tag.getLast?_opening, tag.tagName_opening]

theorem readMark_empty (tag : Tag) (rest : List Char) :
    readMark (tag.opening ++ '/' :: '>' :: rest) =
      some ([.opened tag.name.written, .closed tag.name.written], rest) := by
  have passes : Passes (tag.opening ++ ['/']) :=
    tag.passes_opening.append (passes_of_plain (by simp))
  have split : tag.opening ++ '/' :: '>' :: rest = (tag.opening ++ ['/']) ++ '>' :: rest := by
    simp
  rw [readMark_of_opening, split, passes.readTag_eq]
  simp [tag.tagName_opening]

theorem readMark_closing (tag : Tag) (rest : List Char) :
    readMark ('/' :: (tag.closing ++ '>' :: rest)) = some ([.closed tag.name.written], rest) := by
  rw [readMark, tag.passes_closing.readTag_eq]
  simp [tag.dropEndWhile_closing]

end Tag

theorem Aside.readMark_written (aside : Aside) (rest : List Char) :
    readMark (aside.written ++ rest) = some (aside.signs, rest) := by
  cases aside with
  | comment text ends =>
      have skipped := ends.skipPast_eq (by decide) rest
      simpa [written, readMark, skipDeclaration, signs] using skipped
  | literal text ends =>
      have found := ends.readUpTo_eq (by decide) rest
      rw [List.cons_append, List.cons_append, List.cons_append, List.nil_append] at found
      simp [written, readMark, beginsWith, found, signs]
  | instruction text begins ends =>
      have markup := Aside.readMarkup_written (.instruction text begins ends) rest
      simp only [written, List.cons_append, readMarkup, Option.map_eq_some_iff] at markup
      obtain ⟨found, skipped, same⟩ := markup
      simp only [written, List.cons_append, readMark, skipped, Option.map_some, signs]
      rw [(Prod.mk.inj same).2]
  | empty tag =>
      rw [written, List.append_assoc]
      exact tag.readMark_empty rest

theorem unescape?_nil : unescape? [] = some [] := rfl

/-- A text in front of markup. -/
theorem readSigns_text (data : CharacterData) {rest : List Char} (ends : EndsText rest)
    (bound : Nat) :
    readSigns (bound + 1) (data.written ++ rest) =
      (readSigns (bound + 1) rest).map (data.meaning.map .character ++ ·) := by
  have inText : ∀ character ∈ data.written, (character != '<') = true := by
    intro character member
    simpa using fun same : character = '<' => data.bracket_not_mem_written (same ▸ member)
  rw [readSigns, readSigns, List.takeWhile_append_of_pos inText,
    List.dropWhile_append_of_pos inText]
  cases rest with
  | nil => simp [data.unescape?_written, unescape?_nil]
  | cons first rest =>
      obtain rfl := ends first rfl
      cases mark : readMark rest with
      | none => simp [mark, data.unescape?_written, unescape?_nil]
      | some found => simp [mark, data.unescape?_written, unescape?_nil, Function.comp_def]

/-- Markup and what follows it. -/
theorem readSigns_mark {source rest : List Char} {signs : List Sign}
    (mark : readMark source = some (signs, rest)) (bound : Nat) :
    readSigns (bound + 1) ('<' :: source) = (readSigns bound rest).map (signs ++ ·) := by
  rw [readSigns]
  simp [mark, unescape?_nil]

/-- The content of an element is read as its signs, up to where it ends. -/
theorem readSigns_written (content : Content) {rest : List Char} (ends : EndsText rest)
    (bound : Nat) :
    readSigns (content.tags + (bound + 1)) (content.written ++ rest) =
      (readSigns (bound + 1) rest).map (content.signs ++ ·) := by
  induction content generalizing rest bound with
  | text data =>
      rw [Content.tags, Nat.zero_add]
      exact readSigns_text data ends bound
  | element before tag inner after inInner inAfter =>
      have enough : (Content.element before tag inner after).tags + (bound + 1) =
          inner.tags + (after.tags + (bound + 1) + 1) + 1 := by
        simp only [Content.tags]
        omega
      rw [enough, Content.written]
      simp only [List.append_assoc, List.cons_append]
      rw [readSigns_text before (endsText_markup _), readSigns_mark (tag.readMark_opening _),
        inInner (endsText_markup _), readSigns_mark (tag.readMark_closing _), inAfter ends]
      simp [Content.signs, Function.comp_def]
  | skipped before aside after inAfter =>
      have enough : (Content.skipped before aside after).tags + (bound + 1) =
          after.tags + (bound + 1) + 1 := by
        simp only [Content.tags]
        omega
      rw [enough, Content.written]
      simp only [List.append_assoc, List.cons_append]
      rw [readSigns_text before (endsText_markup _), readSigns_mark (aside.readMark_written _),
        inAfter ends]
      simp [Content.signs, Function.comp_def]

/-! ### Trees -/

theorem grow?_append (former latter : List Sign) (growth : Growth) :
    grow? growth (former ++ latter) = (grow? growth latter).bind (grow? · former) := by
  induction former with
  | nil => simp [grow?]
  | cons sign former inductionHypothesis =>
      simp only [List.cons_append, grow?, inductionHypothesis, Option.bind_assoc]

theorem grow?_text (text : List Char) (growth : Growth) :
    grow? growth (text.map .character) = some { growth with tree := .ofText text growth.tree } := by
  induction text with
  | nil => rfl
  | cons character text inductionHypothesis =>
      rw [List.map_cons, grow?, inductionHypothesis]
      rfl

theorem Aside.grow?_signs (aside : Aside) (growth : Growth) :
    grow? growth aside.signs = some { growth with tree := aside.before growth.tree } := by
  cases aside with
  | comment text ends => rfl
  | literal text ends => exact grow?_text text growth
  | instruction text begins ends => rfl
  | empty tag =>
      simp [signs, grow?, Growth.add, before, Tag.localName, QualifiedName.localName_written]

/-- The signs of some content grow to its tree. -/
theorem Content.grow?_signs (content : Content) (growth : Growth) :
    grow? growth content.signs = some { growth with tree := content.before growth.tree } := by
  induction content generalizing growth with
  | text data => exact grow?_text data.meaning growth
  | element data tag inner after inInner inAfter =>
      simp only [signs, grow?_append, grow?, inAfter, inInner, Growth.add, Option.bind_some,
        if_true, grow?_text, before, Tag.localName, QualifiedName.localName_written]
  | skipped data aside after inAfter =>
      simp only [signs, grow?_append, inAfter, aside.grow?_signs, Option.bind_some, grow?_text,
        before]

theorem readSigns_content (content : Content) :
    readSigns (content.written.length + 1) content.written = some content.signs := by
  obtain ⟨bound, enough⟩ := Nat.exists_eq_add_of_le content.tags_le_length
  have read := readSigns_written content endsText_nil bound
  rw [List.append_nil] at read
  rw [enough, Nat.add_assoc, read, readSigns]
  simp [unescape?_nil]

/-- However content is written, reading it gives what it says. -/
theorem tree?_written (content : Content) (unmarked : content.written.head? ≠ some '\ufeff') :
    tree? (String.ofList content.written) = some content.meaning := by
  rw [tree?, String.toList_ofList, withoutMark_of_head? unmarked]
  simp only [readSigns_content, Option.bind_some, content.grow?_signs, Content.meaning]

/-- A text around an element is nothing but space. -/
theorem Tree.root?_ofText {text : List Char} {rest : Tree} {root : String × Tree}
    (found : (ofText text rest).root? = some root) :
    text.all isSpace = true ∧ rest.root? = some root := by
  induction text with
  | nil => exact ⟨rfl, found⟩
  | cons first text inductionHypothesis =>
      rw [ofText_cons, root?] at found
      split at found
      · next space =>
        obtain ⟨blank, found⟩ := inductionHypothesis found
        exact ⟨by simp [space, blank], found⟩
      · cases found

/-- A text of nothing but space does not begin with a byte order mark. -/
theorem head?_of_blank {data : CharacterData} (blank : data.meaning.all isSpace = true)
    {rest : List Char} (ends : EndsText rest) :
    (data.written ++ rest).head? ≠ some '\ufeff' := by
  cases data with
  | nil =>
      intro marked
      exact absurd (ends _ marked) (by decide)
  | cons letter data =>
      cases letter with
      | plain character isPlain =>
          rintro marked
          obtain rfl : character = '\ufeff' := Option.some.inj marked
          exact absurd (List.all_eq_true.mp blank '\ufeff' (.head _)) (by decide)
      | named entity => intro marked; exact absurd (Option.some.inj marked) (by decide)
      | numbered numeral => intro marked; exact absurd (Option.some.inj marked) (by decide)

/-- Content that says a document does not begin with a byte order mark. -/
theorem Content.head?_written_of_root? {content : Content} {root : String × Tree}
    (document : content.meaning.root? = some root) :
    content.written.head? ≠ some '\ufeff' := by
  cases content with
  | text data =>
      rw [written, ← List.append_nil data.written]
      exact head?_of_blank (Tree.root?_ofText document).1 endsText_nil
  | element data tag inner after =>
      exact head?_of_blank (Tree.root?_ofText document).1 (endsText_markup _)
  | skipped data aside after =>
      exact head?_of_blank (Tree.root?_ofText document).1 (endsText_markup _)

end GroupFederation.Xml
