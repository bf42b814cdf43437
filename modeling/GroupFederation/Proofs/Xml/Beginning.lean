import GroupFederation.Proofs.Xml.Nesting

/-!
# Beginnings of documents

A document may be cut off anywhere: in a text or between two markups, so that elements are left
open, or within a reference or markup, of which a fragment is left. Every beginning of a document is
of this form. A fragment cannot be read, as nothing that is read of a text depends on what follows.
-/

namespace GroupFederation.Xml

/-! ## What is read does not depend on what follows -/

variable {text content rest : List Char}

theorem length_le_of_skipPast {mark : List Char} (found : skipPast mark text = some rest) :
    mark.length ≤ text.length := by
  induction text with
  | nil => cases found
  | cons character text inductionHypothesis =>
      rw [skipPast] at found
      split at found
      · next begins => exact (List.isPrefixOf_iff_prefix.mp begins).length_le
      · exact Nat.le_succ_of_le (inductionHypothesis found)

theorem skipPast_append {mark : List Char} (found : skipPast mark text = some rest)
    (further : List Char) : skipPast mark (text ++ further) = some (rest ++ further) := by
  induction text with
  | nil => cases found
  | cons character text inductionHypothesis =>
      rw [skipPast] at found
      rw [List.cons_append, skipPast]
      split at found
      · next begins =>
        have isPrefix := List.isPrefixOf_iff_prefix.mp begins
        have stillBegins : mark.isPrefixOf (character :: (text ++ further)) = true :=
          List.isPrefixOf_iff_prefix.mpr (isPrefix.trans (List.prefix_append (character :: text) _))
        obtain rfl := Option.some.inj found
        rw [if_pos stillBegins, ← List.cons_append,
          List.drop_append_of_le_length isPrefix.length_le]
      · next begins =>
        have longEnough := Nat.le_succ_of_le (length_le_of_skipPast found)
        rw [if_neg, inductionHypothesis found]
        intro stillBegins
        apply begins
        rw [List.isPrefixOf_iff_prefix] at stillBegins ⊢
        exact List.prefix_of_prefix_length_le stillBegins
          (List.prefix_append (character :: text) further) longEnough

/-- A character in front of what is read with and without more behind it. -/
theorem map_cons_append {former latter : Option (List Char × List Char)} {character : Char}
    {further : List Char}
    (read : former.map (fun found => (character :: found.1, found.2)) = some (content, rest))
    (longer : ∀ {inner}, former = some (inner, rest) → latter = some (inner, rest ++ further)) :
    latter.map (fun found => (character :: found.1, found.2)) =
      some (content, rest ++ further) := by
  obtain ⟨⟨inner, behind⟩, found, same⟩ := Option.map_eq_some_iff.mp read
  obtain ⟨rfl, rfl⟩ := Prod.mk.inj same
  rw [longer found]
  rfl

theorem readTag_append {quote : Option Char} (read : readTag quote text = some (content, rest))
    (further : List Char) : readTag quote (text ++ further) = some (content, rest ++ further) := by
  induction text generalizing quote content with
  | nil => cases read
  | cons character text inductionHypothesis =>
      rw [List.cons_append]
      cases quote with
      | some mark =>
          rw [readTag] at read ⊢
          exact map_cons_append read inductionHypothesis
      | none =>
          rw [readTag] at read ⊢
          dsimp only at read ⊢
          split at read
          · next isEnd =>
            obtain ⟨rfl, rfl⟩ := Prod.mk.inj (Option.some.inj read)
            rw [if_pos isEnd]
          · next noEnd =>
            rw [if_neg noEnd]
            exact map_cons_append read inductionHypothesis

theorem readDoctype_append {depth : Nat} (read : readDoctype depth text = some (content, rest))
    (further : List Char) :
    readDoctype depth (text ++ further) = some (content, rest ++ further) := by
  induction text generalizing depth content with
  | nil => cases read
  | cons character text inductionHypothesis =>
      rw [List.cons_append]
      unfold readDoctype at read ⊢
      dsimp only at read ⊢
      split at read
      · next opens =>
        rw [if_pos opens]
        exact map_cons_append read inductionHypothesis
      · next opens =>
        rw [if_neg opens]
        split at read
        · next closes =>
          rw [if_pos closes]
          cases depth with
          | zero =>
              obtain ⟨rfl, rfl⟩ := Prod.mk.inj (Option.some.inj read)
              rfl
          | succ depth => exact map_cons_append read inductionHypothesis
        · next closes =>
          rw [if_neg closes]
          exact map_cons_append read inductionHypothesis

theorem beginsWith_append {keyword : List Char} (begins : beginsWith keyword text = true)
    (further : List Char) :
    keyword.length ≤ text.length ∧ beginsWith keyword (text ++ further) = true := by
  have length : keyword.length ≤ text.length := by
    have same := congrArg List.length (beq_iff_eq.mp begins)
    simp only [List.length_map, List.length_take] at same
    omega
  refine ⟨length, ?_⟩
  rw [beginsWith, List.take_append_of_le_length length]
  exact begins

theorem skipDeclaration_append (read : skipDeclaration text = some rest) (further : List Char) :
    skipDeclaration (text ++ further) = some (rest ++ further) := by
  unfold skipDeclaration at read
  split at read
  · next comment => exact skipPast_append read further
  · next literal =>
    split at read
    · next begins =>
      obtain ⟨length, begins⟩ := beginsWith_append begins further
      have dropped : (literal ++ further).drop 6 = literal.drop 6 ++ further :=
        List.drop_append_of_le_length length
      rw [List.cons_append, skipDeclaration, if_pos begins, dropped]
      exact skipPast_append read further
    · cases read
  · next noComment noLiteral =>
    simp only [Option.bind_eq_bind, Option.bind_eq_some_iff] at read
    obtain ⟨⟨content, behind⟩, found, isDoctype⟩ := read
    -- with what follows the text is no comment and no literal text either
    unfold skipDeclaration
    split
    · next comment =>
      rcases text with _ | ⟨first, _ | ⟨second, text⟩⟩
      · cases found
      · cases (List.cons.inj comment).1
        cases found
      · cases (List.cons.inj comment).1
        cases (List.cons.inj (List.cons.inj comment).2).1
        exact (noComment text rfl).elim
    · next literal =>
      rcases text with _ | ⟨first, text⟩
      · cases found
      · cases (List.cons.inj literal).1
        exact (noLiteral text rfl).elim
    · rw [readDoctype_append found further]
      simp only [Option.bind_eq_bind, Option.bind_some]
      split at isDoctype
      · next counts => rw [if_pos counts, ← Option.some.inj isDoctype]
      · cases isDoctype

theorem skipInstruction_append (read : skipInstruction text = some rest) (further : List Char) :
    skipInstruction (text ++ further) = some (rest ++ further) := by
  unfold skipInstruction at read
  split at read
  · cases read
  · next noEnd =>
    have found := skipPast_append read further
    cases text with
    | nil => cases read
    | cons first text =>
        rw [List.cons_append, skipInstruction]
        · exact found
        · rintro behind same
          exact noEnd text (by rw [(List.cons.inj same).1])

/-- Markup that is read to its end is read the same whatever follows. -/
theorem readMarkup_append {piece : Piece} (read : readMarkup text = some (piece, rest))
    (further : List Char) : readMarkup (text ++ further) = some (piece, rest ++ further) := by
  unfold readMarkup at read
  split at read
  · cases read
  · next declaration =>
    obtain ⟨behind, found, same⟩ := Option.map_eq_some_iff.mp read
    obtain ⟨rfl, rfl⟩ := Prod.mk.inj same
    rw [List.cons_append, readMarkup, skipDeclaration_append found]
    rfl
  · next instruction =>
    obtain ⟨behind, found, same⟩ := Option.map_eq_some_iff.mp read
    obtain ⟨rfl, rfl⟩ := Prod.mk.inj same
    rw [List.cons_append, readMarkup, skipInstruction_append found]
    rfl
  · next closing =>
    obtain ⟨⟨inner, behind⟩, found, same⟩ := Option.map_eq_some_iff.mp read
    obtain ⟨rfl, rfl⟩ := Prod.mk.inj same
    rw [List.cons_append, readMarkup, readTag_append found]
    rfl
  · next noDeclaration noInstruction noClosing =>
    obtain ⟨⟨inner, behind⟩, found, same⟩ := Option.map_eq_some_iff.mp read
    obtain ⟨rfl, rfl⟩ := Prod.mk.inj same
    cases text with
    | nil => cases found
    | cons first text =>
        rw [List.cons_append, readMarkup, ← List.cons_append, readTag_append found]
        · rfl
        · exact List.cons_ne_nil _ _
        · rintro behind same
          exact noDeclaration text (by rw [(List.cons.inj same).1])
        · rintro behind same
          exact noInstruction text (by rw [(List.cons.inj same).1])
        · rintro behind same
          exact noClosing text (by rw [(List.cons.inj same).1])

/-- What is left of markup that is read to its end cannot be read. -/
theorem readMarkup_of_append {piece : Piece} {further : List Char}
    (read : readMarkup (text ++ further) = some (piece, [])) (cut : further ≠ []) :
    readMarkup text = none := by
  cases found : readMarkup text with
  | none => rfl
  | some markup =>
      have stillRead := readMarkup_append found further
      rw [read] at stillRead
      have same := (Prod.mk.inj (Option.some.inj stillRead)).2
      exact absurd (List.append_eq_nil_iff.mp same.symm).2 cut

/-! ## Beginnings -/

/-- What is left of a reference or of markup. -/
inductive Fragment where
  | reference (name : List Char) (unended : IsClosed name)
  | markup (text : List Char) (unended : readMarkup text = none)

def Fragment.written : Fragment → List Char
  | .reference name _ => '&' :: name
  | .markup text _ => '<' :: text

/-- The beginning of some content. It ends in a text, behind which a fragment may be left, and
elements may be open there. -/
inductive Beginning where
  | text (data : CharacterData) (fragment : Option Fragment)
  | element (before : CharacterData) (tag : Tag) (inner : Content) (after : Beginning)
  | skipped (before : CharacterData) (aside : Aside) (after : Beginning)
  /-- An element that is left open. -/
  | inside (before : CharacterData) (tag : Tag) (inner : Beginning)

namespace Beginning

def written : Beginning → List Char
  | .text data fragment => data.written ++ fragment.elim [] Fragment.written
  | .element before tag inner after =>
      before.written ++ '<' :: (tag.opening ++ '>' :: (inner.written ++
        '<' :: '/' :: (tag.closing ++ '>' :: after.written)))
  | .skipped before aside after => before.written ++ '<' :: (aside.written ++ after.written)
  | .inside before tag inner =>
      before.written ++ '<' :: (tag.opening ++ '>' :: inner.written)

/-- The number of tags, and of all other markup. -/
def tags : Beginning → Nat
  | .text _ _ => 0
  | .element _ _ inner after => inner.tags + after.tags + 2
  | .skipped _ _ after => after.tags + 1
  | .inside _ _ inner => inner.tags + 1

theorem tags_le_length (beginning : Beginning) : beginning.tags ≤ beginning.written.length := by
  induction beginning with
  | text data fragment => exact Nat.zero_le _
  | element before tag inner after inAfter =>
      have inInner := inner.tags_le_length
      simp only [tags, written, List.length_append, List.length_cons]
      omega
  | skipped before aside after inAfter =>
      simp only [tags, written, List.length_append, List.length_cons]
      omega
  | inside before tag inner inInner =>
      simp only [tags, written, List.length_append, List.length_cons]
      omega

end Beginning

/-! ## Every beginning is of this form -/

theorem prefix_append_iff {front former latter : List Char} :
    front <+: former ++ latter ↔
      front <+: former ∨ ∃ others, front = former ++ others ∧ others <+: latter := by
  constructor
  · intro begins
    rcases List.prefix_or_prefix_of_prefix begins (List.prefix_append former latter) with
      inFormer | ⟨others, rfl⟩
    · exact .inl inFormer
    · exact .inr ⟨others, rfl, (List.prefix_append_right_inj former).mp begins⟩
  · rintro (inFormer | ⟨others, rfl, begins⟩)
    · exact inFormer.trans (List.prefix_append former latter)
    · exact (List.prefix_append_right_inj former).mpr begins

/-- A letter is cut off within a reference, or not at all. -/
theorem Letter.exists_of_prefix {letter : Letter} {front : List Char}
    (begins : front <+: letter.written) :
    front = letter.written ∨
      ∃ fragment : Option Fragment, front = fragment.elim [] Fragment.written := by
  have reference {name : List Char} (closed : IsClosed name) {front : List Char}
      (begins : front <+: reference name) :
      front = reference name ∨
        ∃ fragment : Option Fragment, front = fragment.elim [] Fragment.written := by
    cases front with
    | nil => exact .inr ⟨none, rfl⟩
    | cons first front =>
        obtain ⟨rfl, inside⟩ := List.cons_prefix_cons.mp begins
        rcases prefix_append_iff.mp inside with inName | ⟨others, rfl, atEnd⟩
        · have stillClosed : IsClosed front := fun character member =>
            closed character (inName.subset member)
          exact .inr ⟨some (.reference front stillClosed), rfl⟩
        · rcases List.prefix_cons_iff.mp atEnd with rfl | ⟨last, rfl, nothing⟩
          · rw [List.append_nil]
            exact .inr ⟨some (.reference name closed), rfl⟩
          · rw [List.prefix_nil.mp nothing]
            exact .inl rfl
  cases letter with
  | plain character isPlain =>
      rcases List.prefix_cons_iff.mp begins with rfl | ⟨last, rfl, nothing⟩
      · exact .inr ⟨none, rfl⟩
      · rw [List.prefix_nil.mp nothing]
        exact .inl rfl
  | named entity => exact reference entity.isClosed_name begins
  | numbered numeral => exact reference numeral.isClosed_name begins

/-- A text is cut off behind a letter or within a reference. -/
theorem CharacterData.exists_of_prefix {data : CharacterData} {front : List Char}
    (begins : front <+: data.written) :
    ∃ (former : CharacterData) (fragment : Option Fragment),
      front = former.written ++ fragment.elim [] Fragment.written := by
  induction data generalizing front with
  | nil => exact ⟨[], none, List.prefix_nil.mp begins⟩
  | cons letter data inductionHypothesis =>
      rcases prefix_append_iff.mp begins with inLetter | ⟨others, rfl, beginsRest⟩
      · rcases Letter.exists_of_prefix inLetter with rfl | ⟨fragment, rfl⟩
        · exact ⟨[letter], none, by simp [written]⟩
        · exact ⟨[], fragment, rfl⟩
      · obtain ⟨former, fragment, rfl⟩ := inductionHypothesis beginsRest
        exact ⟨letter :: former, fragment, by simp [written]⟩

/-- Markup is cut off in front of it, within it or behind it. -/
theorem prefix_markup {markup behind front : List Char} {piece : Piece}
    (read : readMarkup markup = some (piece, [])) (begins : front <+: '<' :: (markup ++ behind)) :
    (∃ fragment : Option Fragment, front = fragment.elim [] Fragment.written) ∨
      ∃ others, front = '<' :: (markup ++ others) ∧ others <+: behind := by
  cases front with
  | nil => exact .inl ⟨none, rfl⟩
  | cons first front =>
      obtain ⟨rfl, inside⟩ := List.cons_prefix_cons.mp begins
      rcases prefix_append_iff.mp inside with ⟨further, rfl⟩ | ⟨others, rfl, beginsRest⟩
      · by_cases cut : further = []
        · exact .inr ⟨[], by simp [cut], List.nil_prefix⟩
        · exact .inl ⟨some (.markup front (readMarkup_of_append read cut)), rfl⟩
      · exact .inr ⟨others, rfl, beginsRest⟩

/-- Content with a fragment behind it. -/
def Content.followedBy (content : Content) (fragment : Option Fragment) : Beginning :=
  match content with
  | .text data => .text data fragment
  | .element before tag inner after => .element before tag inner (after.followedBy fragment)
  | .skipped before aside after => .skipped before aside (after.followedBy fragment)

theorem Content.written_followedBy (content : Content) (fragment : Option Fragment) :
    (content.followedBy fragment).written =
      content.written ++ fragment.elim [] Fragment.written := by
  induction content with
  | text data => rfl
  | element before tag inner after _ inAfter =>
      simp [followedBy, Beginning.written, written, inAfter]
  | skipped before aside after inAfter =>
      simp [followedBy, Beginning.written, written, inAfter]

/-- Wherever content is cut off, what is left is a beginning. -/
theorem Content.exists_beginning {content : Content} {front : List Char}
    (begins : front <+: content.written) : ∃ beginning : Beginning, beginning.written = front := by
  -- a text in front of markup is cut off in it, or the markup is reached
  have text {before : CharacterData} {behind front : List Char}
      (begins : front <+: before.written ++ behind) :
      (∃ beginning : Beginning, beginning.written = front) ∨
        ∃ others, front = before.written ++ others ∧ others <+: behind := by
    rcases prefix_append_iff.mp begins with inText | found
    · obtain ⟨former, fragment, rfl⟩ := CharacterData.exists_of_prefix inText
      exact .inl ⟨.text former fragment, rfl⟩
    · exact .inr found
  induction content generalizing front with
  | text data =>
      obtain ⟨former, fragment, rfl⟩ := CharacterData.exists_of_prefix begins
      exact ⟨.text former fragment, rfl⟩
  | element before tag inner after inInner inAfter =>
      rcases text begins with found | ⟨others, rfl, beginsTag⟩
      · exact found
      rw [List.append_cons] at beginsTag
      rcases prefix_markup (tag.readMarkup_opening []) beginsTag with
        ⟨fragment, rfl⟩ | ⟨others, rfl, beginsInner⟩
      · exact ⟨.text before fragment, rfl⟩
      rcases prefix_append_iff.mp beginsInner with inside | ⟨others, rfl, beginsEnd⟩
      · obtain ⟨beginning, rfl⟩ := inInner inside
        exact ⟨.inside before tag beginning, by simp [Beginning.written]⟩
      rw [List.append_cons, ← List.cons_append] at beginsEnd
      rcases prefix_markup (tag.readMarkup_closing []) beginsEnd with
        ⟨fragment, rfl⟩ | ⟨others, rfl, beginsAfter⟩
      · exact ⟨.inside before tag (inner.followedBy fragment), by
          simp [Beginning.written, Content.written_followedBy]⟩
      · obtain ⟨beginning, rfl⟩ := inAfter beginsAfter
        exact ⟨.element before tag inner beginning, by simp [Beginning.written]⟩
  | skipped before aside after inAfter =>
      rcases text begins with found | ⟨others, rfl, beginsAside⟩
      · exact found
      have read := aside.readMarkup_written []
      rw [List.append_nil] at read
      rcases prefix_markup read beginsAside with ⟨fragment, rfl⟩ | ⟨others, rfl, beginsAfter⟩
      · exact ⟨.text before fragment, rfl⟩
      · obtain ⟨beginning, rfl⟩ := inAfter beginsAfter
        exact ⟨.skipped before aside beginning, rfl⟩

/-! ## Fragments cannot be read -/

/-- Letters are read as what they stand for, whatever follows. -/
theorem unescapeFrom_append (data : CharacterData) (behind : List Char) :
    unescapeFrom none (data.written ++ behind) =
      (unescapeFrom none behind).map (data.meaning ++ ·) := by
  induction data with
  | nil => simp [CharacterData.written, CharacterData.meaning]
  | cons letter data inductionHypothesis =>
      have first : CharacterData.written (letter :: data) ++ behind =
          letter.written ++ (CharacterData.written data ++ behind) := by
        simp [CharacterData.written]
      rw [first, unescapeFrom_written, inductionHypothesis]
      simp [CharacterData.meaning, Function.comp_def]

/-- What is left of a reference cannot be read. -/
theorem unescapeFrom_of_isClosed {name : List Char} (closed : IsClosed name)
    (before : List Char) : unescapeFrom (some before) name = none := by
  induction name generalizing before with
  | nil => rfl
  | cons character name inductionHypothesis =>
      obtain ⟨noEnd, noStart, -⟩ := closed character (.head _)
      rw [unescapeFrom, if_neg noEnd, if_neg noStart]
      exact inductionHypothesis (fun other member => closed other (.tail _ member)) _

theorem unescape?_of_isClosed (data : CharacterData) {name : List Char}
    (closed : IsClosed name) : unescape? (data.written ++ '&' :: name) = none := by
  rw [unescape?, unescapeFrom_append, unescapeFrom, if_pos rfl, unescapeFrom_of_isClosed closed]
  rfl

/-- Nor can it be read without the space around it. -/
theorem unescape?_trimmed_of_isClosed (data : CharacterData) {name : List Char}
    (closed : IsClosed name) : unescape? (trimmed (data.written ++ '&' :: name)) = none := by
  have same := isSome_unescape?_trimmed (data.written ++ '&' :: name)
  rw [unescape?_of_isClosed data closed] at same
  exact Option.isNone_iff_eq_none.mp (Option.isSome_eq_false_iff.mp same)

/-- No markup begins in a text with what is left of a reference behind it. -/
theorem bracket_not_mem_of_isClosed (data : CharacterData) {name : List Char}
    (closed : IsClosed name) : '<' ∉ data.written ++ '&' :: name := by
  intro member
  rcases List.mem_append.mp member with inText | inFragment
  · exact data.bracket_not_mem_written inText
  · rcases List.mem_cons.mp inFragment with isStart | inName
    · exact absurd isStart (by decide)
    · exact (closed '<' inName).2.2 rfl

theorem takeWhile_of_not_mem {source : List Char} (noMarkup : '<' ∉ source) :
    source.takeWhile (· != '<') = source ∧ source.dropWhile (· != '<') = [] := by
  have inText : ∀ character ∈ source, (character != '<') = true := by
    intro character member
    simpa using fun same : character = '<' => noMarkup (same ▸ member)
  exact ⟨List.takeWhile_eq_self_iff.mpr inText, List.dropWhile_eq_nil_iff.mpr inText⟩

end GroupFederation.Xml
