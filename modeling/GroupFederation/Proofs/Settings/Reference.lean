import GroupFederation.Proofs.Settings.Variables

/-!
# Values that refer to no variable

Only through a dollar sign does a value in a `.env` file refer to a variable. A file without one
defines the same in every environment.
-/

namespace GroupFederation.Settings.Dotenv

section

variable {characters rest line begun : List Char} {name : String}

/-! ## Values -/

/-- In the name of a variable. -/
def Mode.isNaming : Mode → Bool
  | .named _ _ => true
  | .braced _ _ => true
  | _ => false

theorem readValue_eq (environment other : Environment) {mode : Mode}
    (noName : mode.isNaming = false) (noReference : '$' ∉ characters) :
    readValue environment mode characters = readValue other mode characters := by
  induction characters generalizing mode with
  | nil =>
      cases mode with
      | named | braced => cases noName
      | plain | escaped | literal | ended => rfl
  | cons character rest inductionHypothesis =>
      simp only [List.mem_cons, not_or] at noReference
      obtain ⟨noDollar, noReference⟩ := noReference
      have behind (next : Mode) (noName : next.isNaming = false) :
          readValue environment next rest = readValue other next rest :=
        inductionHypothesis noName noReference
      cases mode with
      | named | braced => cases noName
      | plain isQuoted =>
          simp only [readValue, Ne.symm noDollar, if_false, behind (.escaped isQuoted) rfl,
            behind (.plain !isQuoted) rfl, behind (.plain true) rfl, behind (.plain false) rfl,
            behind .literal rfl, behind .ended rfl]
      | escaped isQuoted => simp only [readValue, behind (.plain isQuoted) rfl]
      | literal => simp only [readValue, behind (.plain false) rfl, behind .literal rfl]
      | ended => simp only [readValue, behind .ended rfl]

/-! ## Lines -/

theorem subset_of_readName? (found : readName? characters = some (name, rest)) :
    rest ⊆ characters := by
  unfold readName? at found
  split at found
  · cases found
  · split at found
    · obtain ⟨-, rfl⟩ := Prod.mk.inj (Option.some.inj found)
      exact (List.dropWhile_sublist _).subset
    · cases found

theorem subset_of_behindEquals? (found : behindEquals? characters = some rest) :
    rest ⊆ characters := by
  unfold behindEquals? at found
  split at found
  · next value equals =>
      obtain rfl := Option.some.inj found
      refine fun character member => (List.dropWhile_sublist Text.isBlank).subset ?_
      rw [equals]
      exact List.mem_cons_of_mem _ ((List.dropWhile_sublist _).subset member)
  · cases found

theorem subset_of_readAssignment? (found : readAssignment? line = some (name, rest)) :
    rest ⊆ line := by
  unfold readAssignment? at found
  simp only [Option.bind_eq_bind, Option.bind_eq_some_iff] at found
  obtain ⟨⟨first, behind⟩, isFirst, found⟩ := found
  have outer := subset_of_readName? isFirst
  dsimp only at found
  split at found
  · next value equals =>
      obtain ⟨-, rfl⟩ := Prod.mk.inj (Option.some.inj found)
      exact List.Subset.trans (subset_of_behindEquals? equals) outer
  · split at found
    · simp only [Option.bind_eq_some_iff, Option.some_inj, Prod.mk.injEq] at found
      obtain ⟨⟨second, further⟩, isSecond, value, equals, -, rfl⟩ := found
      have inner :=
        List.Subset.trans (subset_of_behindEquals? equals) (subset_of_readName? isSecond)
      exact List.Subset.trans inner (List.Subset.trans (List.dropWhile_sublist _).subset outer)
    · cases found

theorem readVariable?_eq (environment other : Environment) (noReference : '$' ∉ line) :
    readVariable? environment line = readVariable? other line := by
  unfold readVariable?
  cases found : readAssignment? line with
  | none => rfl
  | some assignment =>
      have noReference : '$' ∉ assignment.2 := fun member =>
        noReference (subset_of_readAssignment? found member)
      have value := readValue_eq environment other
        (rfl : (Mode.plain false).isNaming = false) noReference
      simp only [Option.bind_eq_bind, Option.bind_some, value]

theorem subset_of_mem_stretches {stretch : List Char} (member : stretch ∈ stretches characters) :
    stretch ⊆ characters := by
  fun_induction stretches characters generalizing stretch with
  | case1 => cases member
  | case2 rest inductionHypothesis =>
      rcases List.mem_cons.mp member with rfl | behind
      · simp
      · exact List.subset_cons_of_subset _ (inductionHypothesis behind)
  | case3 character rest noLineFeed single inductionHypothesis =>
      obtain rfl := List.mem_singleton.mp member
      simp
  | case4 character rest noLineFeed first others split inductionHypothesis =>
      rw [split] at inductionHypothesis
      rcases List.mem_cons.mp member with rfl | behind
      · exact List.cons_subset_cons _ (inductionHypothesis List.mem_cons_self)
      · exact List.subset_cons_of_subset _
          (inductionHypothesis (List.mem_cons_of_mem _ behind))

theorem follow_subset (reading : Reading) (characters : List Char) :
    (follow reading characters).1 ⊆ characters := by
  fun_induction follow reading characters with
  | case1 => exact List.Subset.refl _
  | case2 => exact List.nil_subset _
  | case3 reading character rest noComment before ending found inductionHypothesis =>
      rw [found] at inductionHypothesis
      exact List.cons_subset_cons _ inductionHypothesis

theorem withoutLineFeed_subset (line : List Char) : withoutLineFeed line ⊆ line := by
  unfold withoutLineFeed
  intro character member
  rw [← List.mem_reverse]
  split at member
  · next rest reversed =>
      rw [reversed]
      simp [List.mem_reverse.mp member]
  · next rest noReturn reversed =>
      rw [reversed]
      simp [List.mem_reverse.mp member]
  · exact List.mem_reverse.mpr member

theorem not_mem_of_mem_lines {reading : Reading} {stretches : List (List Char)}
    (begins : '$' ∉ begun) (noReference : ∀ stretch ∈ stretches, '$' ∉ stretch)
    (member : some line ∈ lines begun reading stretches) : '$' ∉ line := by
  induction stretches generalizing begun reading with
  | nil =>
      unfold lines at member
      split at member <;> simp at member
  | cons stretch rest inductionHypothesis =>
      obtain ⟨noStretch, noRest⟩ := List.forall_mem_cons.mp noReference
      have further {reading : Reading} {begun : List Char} (begins : '$' ∉ begun)
          (member : some line ∈ lines begun reading rest) : '$' ∉ line :=
        inductionHypothesis begins noRest member
      have together : '$' ∉ begun ++ stretch := by simp [begins, noStretch]
      unfold lines at member
      dsimp only at member
      split at member
      · rcases List.mem_cons.mp member with same | behind
        · cases same
          exact List.not_mem_nil
        · exact further List.not_mem_nil behind
      · split at member
        · next before ended =>
            rcases List.mem_cons.mp member with same | behind
            · have inside := follow_subset reading stretch
              rw [ended] at inside
              obtain rfl := Option.some.inj same
              simp only [List.mem_append, not_or]
              exact ⟨begins, fun dollar => noStretch (inside dollar)⟩
            · exact further List.not_mem_nil behind
        · rcases List.mem_cons.mp member with same | behind
          · obtain rfl := Option.some.inj same
            exact fun dollar => together (withoutLineFeed_subset _ dollar)
          · exact further List.not_mem_nil behind
        · exact further together member

/-- The definitions in lines without a dollar sign do not depend on the environment. -/
theorem definitionsIn_eq (environment other : Environment) {lines : List (Option (List Char))}
    (noReference : ∀ line, some line ∈ lines → '$' ∉ line) :
    definitionsIn environment lines = definitionsIn other lines := by
  induction lines generalizing environment other with
  | nil => rfl
  | cons line rest inductionHypothesis =>
      cases line with
      | none => rfl
      | some line =>
          have further (environment other : Environment) :
              definitionsIn environment rest = definitionsIn other rest :=
            inductionHypothesis environment other fun line member =>
              noReference line (List.mem_cons_of_mem _ member)
          have noReference := noReference line List.mem_cons_self
          have trimmed : '$' ∉ Text.dropEndWhile Text.isBlank (line.dropWhile Text.isBlank) := by
            obtain ⟨dropped, -, split⟩ :=
              Text.exists_append_dropEndWhile Text.isBlank (line.dropWhile Text.isBlank)
            refine fun dollar => noReference ((List.dropWhile_sublist Text.isBlank).subset ?_)
            rw [split]
            exact List.mem_append_left _ dollar
          unfold definitionsIn
          dsimp only
          split
          · exact further environment other
          · rw [readVariable?_eq environment other trimmed]
            cases readVariable? other
                (Text.dropEndWhile Text.isBlank (line.dropWhile Text.isBlank)) with
            | none => rfl
            | some definition => exact congrArg (definition :: ·) (further _ _)

/-- A `.env` file without a dollar sign defines the same in every environment. -/
theorem definitions_eq (environment other : Environment) {content : String}
    (noReference : '$' ∉ content.toList) :
    definitions environment content = definitions other content := by
  have marked : '$' ∉ Text.Utf8.withoutMark content.toList := by
    unfold Text.Utf8.withoutMark
    split
    · next rest marked =>
        rw [marked] at noReference
        exact fun dollar => noReference (List.mem_cons_of_mem _ dollar)
    · exact noReference
  refine definitionsIn_eq environment other fun line member => ?_
  exact not_mem_of_mem_lines List.not_mem_nil
    (fun stretch isStretch dollar => marked (subset_of_mem_stretches isStretch dollar)) member

end

end GroupFederation.Settings.Dotenv
