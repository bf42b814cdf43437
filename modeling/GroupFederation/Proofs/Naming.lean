import GroupFederation.Provider.Routing
import GroupFederation.Text.Blank
import Mathlib.Data.List.Infix

/-!
# Fully qualified names

A text is a fully qualified name of a family in at most one way: the organization ends at the first
colon behind the namespace, and what follows is the local name. So a name is known when its
organization and its local name are.
-/

namespace GroupFederation.Urn

/-- Parts that a fully qualified name can have. -/
structure IsWellFormed (urn : Urn) : Prop where
  organization_ne_empty : urn.organization ≠ ""
  colon_not_mem : ':' ∉ urn.organization.toList
  localName_ne_empty : urn.localName ≠ ""
  newline_not_mem : '\n' ∉ urn.localName.toList

theorem splitParts?_eq_some_iff {rest : List Char} {urn : Urn} :
    splitParts? rest = some urn ↔
      rest = urn.organization.toList ++ ':' :: urn.localName.toList ∧ urn.IsWellFormed := by
  constructor
  · intro parts
    unfold splitParts? at parts
    cases remains : rest.dropWhile (· != ':') with
    | nil => simp [remains] at parts
    | cons first back =>
        have cut : Text.cutAt ':' rest = (rest.takeWhile (· != ':'), some back) := by
          simp [Text.cutAt, remains]
        obtain ⟨whole, absent⟩ := Text.cutAt_eq_some_iff.mp cut
        simp only [remains] at parts
        split at parts
        · cases parts
        · next good =>
            simp only [Bool.or_eq_true, List.isEmpty_iff, List.contains_iff_mem, not_or] at good
            obtain ⟨⟨organizationFilled, localFilled⟩, oneLine⟩ := good
            cases parts
            exact ⟨by simpa using whole, by simpa using organizationFilled, by simpa using absent,
              by simpa using localFilled, by simpa using oneLine⟩
  · rintro ⟨whole, wellFormed⟩
    have cut := Text.cutAt_eq_some_iff.mpr ⟨whole, wellFormed.colon_not_mem⟩
    obtain ⟨taken, dropped⟩ := Prod.mk.inj cut
    have organizationFilled := wellFormed.organization_ne_empty
    have localFilled := wellFormed.localName_ne_empty
    unfold splitParts?
    cases remains : rest.dropWhile (· != ':') with
    | nil => simp [remains] at dropped
    | cons first back =>
        simp only [remains, Option.some.injEq] at dropped
        simp [taken, dropped, wellFormed.newline_not_mem, organizationFilled, localFilled]

/-- A fully qualified name is its namespace, its organization, a colon and its local name. -/
theorem split?_eq_some_iff {family : Namespace} {text : String} {urn : Urn} :
    split? family text = some urn ↔ text = render family urn ∧ urn.IsWellFormed := by
  have whole : text = render family urn ↔
      family.text.toList ++ (urn.organization.toList ++ ':' :: urn.localName.toList) =
        text.toList := by
    rw [← String.toList_inj]
    simp only [render, leader, String.toList_append, List.append_assoc]
    exact eq_comm
  simp only [split?, Option.bind_eq_some_iff, List.isPrefixOf?_eq_some_iff_append_eq,
    splitParts?_eq_some_iff]
  constructor
  · rintro ⟨rest, begins, rfl, wellFormed⟩
    exact ⟨whole.mpr begins, wellFormed⟩
  · rintro ⟨same, wellFormed⟩
    exact ⟨_, whole.mp same, rfl, wellFormed⟩

theorem organization?_eq_some_iff {family : Namespace} {text organization : String} :
    organization? family text = some organization ↔
      ∃ localName, text = render family ⟨organization, localName⟩ ∧
        IsWellFormed ⟨organization, localName⟩ := by
  simp only [organization?, Option.map_eq_some_iff, split?_eq_some_iff]
  constructor
  · rintro ⟨urn, named, rfl⟩
    exact ⟨urn.localName, named⟩
  · rintro ⟨localName, named⟩
    exact ⟨_, named, rfl⟩

/-- The parts of a name are those that it was made of, if it has any. -/
theorem eq_of_split?_render {family : Namespace} {urn other : Urn}
    (colonFree : ':' ∉ urn.organization.toList)
    (split : split? family (render family urn) = some other) : other = urn := by
  obtain ⟨same, wellFormed⟩ := split?_eq_some_iff.mp split
  simp only [render, leader, String.append_assoc, String.append_right_inj] at same
  have characters : urn.organization.toList ++ ':' :: urn.localName.toList =
      other.organization.toList ++ ':' :: other.localName.toList := by
    simpa using congrArg String.toList same
  have cut := Text.cutAt_eq_some_iff.mpr ⟨characters, wellFormed.colon_not_mem⟩
  rw [Text.cutAt_eq_some_iff.mpr ⟨rfl, colonFree⟩] at cut
  simp only [Prod.mk.injEq, Option.some.injEq, String.toList_inj] at cut
  cases urn
  cases other
  simp_all

/-- A name made of an organization and a text is fully qualified if the text can be a local name. -/
theorem isQualified_render_iff {family : Namespace} {urn : Urn}
    (owned : urn.organization ≠ "") (colonFree : ':' ∉ urn.organization.toList) :
    isQualified family (render family urn) = true ↔
      urn.localName ≠ "" ∧ '\n' ∉ urn.localName.toList := by
  constructor
  · intro qualified
    obtain ⟨other, split⟩ := Option.isSome_iff_exists.mp qualified
    obtain rfl := eq_of_split?_render colonFree split
    have wellFormed := (split?_eq_some_iff.mp split).2
    exact ⟨wellFormed.localName_ne_empty, wellFormed.newline_not_mem⟩
  · rintro ⟨filled, oneLine⟩
    exact Option.isSome_iff_exists.mpr
      ⟨urn, split?_eq_some_iff.mpr ⟨rfl, owned, colonFree, filled, oneLine⟩⟩

/-- Names of one organization with one local name are one name. -/
theorem eq_of_parts {family : Namespace} {left right organization : String}
    (leftOwner : organization? family left = some organization)
    (rightOwner : organization? family right = some organization)
    (sameLocal : localPart family left = localPart family right) : left = right := by
  simp only [organization?, Option.map_eq_some_iff] at leftOwner rightOwner
  obtain ⟨leftUrn, leftSplit, leftSame⟩ := leftOwner
  obtain ⟨rightUrn, rightSplit, rightSame⟩ := rightOwner
  simp only [localPart, leftSplit, rightSplit] at sameLocal
  have sameUrn : leftUrn = rightUrn := by
    cases leftUrn
    cases rightUrn
    simp_all
  rw [(split?_eq_some_iff.mp leftSplit).1, (split?_eq_some_iff.mp rightSplit).1, sameUrn]

/-- A text that is made like a name, of the organization of another name and some text, is that name
when both have one local name. -/
theorem render_eq_of_localPart {family : Namespace} {urn : Urn} {text : String}
    (owner : organization? family text = some urn.organization) (filled : urn.localName ≠ "")
    (sameLocal : localPart family (render family urn) = localPart family text) :
    render family urn = text := by
  obtain ⟨other, split, sameOwner⟩ := Option.map_eq_some_iff.mp owner
  have wellFormed := (split?_eq_some_iff.mp split).2
  have colonFree := sameOwner ▸ wellFormed.colon_not_mem
  cases parts : split? family (render family urn) with
  | some own =>
      obtain rfl := eq_of_split?_render colonFree parts
      exact eq_of_parts (by simp [organization?, parts]) owner sameLocal
  | none =>
      -- Nothing but a line break can keep the text from being a name, and no local name has one.
      have broken : '\n' ∈ urn.localName.toList := by
        by_contra oneLine
        have named : split? family (render family urn) = some urn := split?_eq_some_iff.mpr
          ⟨rfl, ⟨sameOwner ▸ wellFormed.organization_ne_empty, colonFree, filled, oneLine⟩⟩
        rw [parts] at named
        cases named
      have oneLine := wellFormed.newline_not_mem
      simp only [localPart, parts, split] at sameLocal
      rw [← sameLocal] at oneLine
      simp [render, broken] at oneLine

end GroupFederation.Urn
