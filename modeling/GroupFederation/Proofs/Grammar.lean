import GroupFederation.Proofs.Provider.Routing

/-!
# The grammar of names

Whatever is said about a text as a name follows from one description: it is a name of a family if it
has parts that can stand in one, and then only one pair of parts fits. Line breaks in the
organization and further colons in the local name change nothing about that. The namespaces differ
before the organization begins, so that no text is a name of both families.
-/

namespace GroupFederation.Urn

/-- The text is a fully qualified name of the family, with the given parts. -/
structure IsNameOf (family : Namespace) (text : String) (urn : Urn) : Prop where
  rendered : text = family.text ++ urn.organization ++ ":" ++ urn.localName
  wellFormed : urn.IsWellFormed

section IsNameOf

variable {family : Namespace} {text : String} {urn : Urn}

theorem isNameOf_iff_split? : IsNameOf family text urn ↔ split? family text = some urn := by
  rw [split?_eq_some_iff]
  exact ⟨fun named => ⟨named.rendered, named.wellFormed⟩, fun ⟨rendered, wellFormed⟩ =>
    ⟨rendered, wellFormed⟩⟩

theorem isQualified_iff_exists :
    isQualified family text = true ↔ ∃ urn, IsNameOf family text urn := by
  simp only [isNameOf_iff_split?]
  exact Option.isSome_iff_exists

namespace IsNameOf

/-- A name has one pair of parts. -/
theorem unique (named : IsNameOf family text urn) {other : Urn}
    (otherwise : IsNameOf family text other) : other = urn := by
  rw [isNameOf_iff_split?] at named otherwise
  exact Option.some.inj (otherwise.symm.trans named)

theorem organization? (named : IsNameOf family text urn) :
    Urn.organization? family text = some urn.organization := by
  rw [Urn.organization?, isNameOf_iff_split?.mp named, Option.map_some]

theorem localPart (named : IsNameOf family text urn) :
    Urn.localPart family text = urn.localName := by
  rw [Urn.localPart, isNameOf_iff_split?.mp named]

theorem isQualified (named : IsNameOf family text urn) : Urn.isQualified family text = true :=
  isQualified_iff_exists.mpr ⟨urn, named⟩

end IsNameOf

theorem organization?_of_not_isQualified (unqualified : isQualified family text = false) :
    organization? family text = none := by
  rw [organization?, split?_eq_none_of_not_isQualified unqualified, Option.map_none]

end IsNameOf

/-! ## Refusals -/

theorem requireGroup_of_isQualified {text : String} (qualified : isQualified .group text = true) :
    requireGroup text = .ok text := by
  rw [requireGroup, if_pos qualified]

theorem requireGroup_of_not_isQualified {text : String}
    (unqualified : isQualified .group text = false) :
    requireGroup text = .error ⟨.group, text⟩ := by
  simp [requireGroup, unqualified]

theorem requirePerson_of_isNameOf {text : String} {urn : Urn} (named : IsNameOf .person text urn) :
    requirePerson text = .ok urn.organization := by
  rw [requirePerson, named.organization?]

theorem requirePerson_of_not_isQualified {text : String}
    (unqualified : isQualified .person text = false) :
    requirePerson text = .error ⟨.person, text⟩ := by
  rw [requirePerson, organization?_of_not_isQualified unqualified]

/-- The wording of a refusal begins with what is refused. -/
theorem exists_message_eq (refusal : Malformed) :
    ∃ rest, refusal.message = refusal.text ++ rest := by
  simp only [Malformed.message, String.append_assoc]
  exact ⟨_, rfl⟩

theorem isMalformedGroup_iff {text : String} :
    isMalformedGroup text = true ↔
      (∃ rest, text = "urn:" ++ rest) ∧ isQualified .group text = false := by
  rw [isMalformedGroup, Bool.and_eq_true, isPrefixOf_urn_iff, Bool.not_eq_true']

/-- The namespaces differ within their own length. -/
theorem not_both_families {text : String} {group person : Urn}
    (isGroup : IsNameOf .group text group) (isPerson : IsNameOf .person text person) : False := by
  have same : "urn:collab:group:" ++ (group.organization ++ ":" ++ group.localName) =
      "urn:collab:person:" ++ (person.organization ++ ":" ++ person.localName) := by
    have rendered := isGroup.rendered.symm.trans isPerson.rendered
    simpa only [Namespace.text, String.append_assoc] using rendered
  have eleventh := congrArg (fun name => name.toList[11]?) same
  simp at eleventh

/-! ## All texts -/

/-- A text is taken for a fully qualified name of a family exactly if it consists of the namespace,
an organization that is not empty and has no colon, a colon, and a local name that is not empty and
stays on one line. These parts are the only ones, and they are the organization and the local name
that are found. Any other text has no organization and is its own local name; it is refused by name,
and it is a malformed name of a group exactly if it begins as a URN. No text is a name of a group
and of a person. -/
theorem names_have_one_grammar (text : String) :
    (∀ family,
      (isQualified family text = true ↔ ∃ urn, IsNameOf family text urn) ∧
        (∀ urn, IsNameOf family text urn →
          (∀ other, IsNameOf family text other → other = urn) ∧
            organization? family text = some urn.organization ∧
            localPart family text = urn.localName) ∧
        (isQualified family text = false →
          organization? family text = none ∧ localPart family text = text)) ∧
      (isQualified .group text = true →
        requireGroup text = .ok text ∧ isMalformedGroup text = false) ∧
      (isQualified .group text = false →
        requireGroup text = .error ⟨.group, text⟩ ∧
          (isMalformedGroup text = true ↔ ∃ rest, text = "urn:" ++ rest)) ∧
      (∀ urn, IsNameOf .person text urn → requirePerson text = .ok urn.organization) ∧
      (isQualified .person text = false → requirePerson text = .error ⟨.person, text⟩) ∧
      (∀ family, ∃ rest, (Malformed.mk family text).message = text ++ rest) ∧
      ¬(isQualified .group text = true ∧ isQualified .person text = true) := by
  refine ⟨fun family => ⟨isQualified_iff_exists, ?_, ?_⟩, ?_, ?_, ?_, ?_, ?_, ?_⟩
  · intro urn named
    exact ⟨fun other => named.unique, named.organization?, named.localPart⟩
  · intro unqualified
    exact ⟨organization?_of_not_isQualified unqualified,
      localPart_of_not_isQualified unqualified⟩
  · intro qualified
    refine ⟨requireGroup_of_isQualified qualified, ?_⟩
    rw [isMalformedGroup, qualified, Bool.not_true, Bool.and_false]
  · intro unqualified
    refine ⟨requireGroup_of_not_isQualified unqualified, ?_⟩
    rw [isMalformedGroup_iff]
    exact and_iff_left unqualified
  · intro urn
    exact requirePerson_of_isNameOf
  · exact requirePerson_of_not_isQualified
  · intro family
    exact exists_message_eq ⟨family, text⟩
  · rintro ⟨group, person⟩
    obtain ⟨_, isGroup⟩ := isQualified_iff_exists.mp group
    obtain ⟨_, isPerson⟩ := isQualified_iff_exists.mp person
    exact not_both_families isGroup isPerson

/-- A line break in the organization and colons in the local name belong to a name; a line break at
the end of the local name spoils it. -/
theorem names_have_one_grammar_with_line_breaks :
    let name := "urn:collab:group:a\nb:c:d:"
    let broken := "urn:collab:person:a:b\n"
    IsNameOf .group name ⟨"a\nb", "c:d:"⟩ ∧ localPart .group name = "c:d:" ∧
      requireGroup name = .ok name ∧ isMalformedGroup name = false ∧
      isQualified .person broken = false ∧ localPart .person broken = broken ∧
      requirePerson broken = .error ⟨.person, broken⟩ ∧
      isQualified .group broken = false ∧ isMalformedGroup broken = true := by
  intro name broken
  have named : IsNameOf .group name ⟨"a\nb", "c:d:"⟩ :=
    ⟨by decide, by decide, by decide, by decide, by decide⟩
  have noPerson : isQualified .person broken = false := by decide
  have noGroup : isQualified .group broken = false := by decide
  obtain ⟨forms, accepted, -⟩ := names_have_one_grammar name
  obtain ⟨otherForms, -, refused, -, refusedPerson, -⟩ := names_have_one_grammar broken
  have qualified := (forms .group).1.mpr ⟨_, named⟩
  exact ⟨named, ((forms .group).2.1 _ named).2.2, (accepted qualified).1, (accepted qualified).2,
    noPerson, ((otherForms .person).2.2 noPerson).2, refusedPerson noPerson, noGroup,
    (refused noGroup).2.mpr ⟨"collab:person:a:b\n", by decide⟩⟩

end GroupFederation.Urn
