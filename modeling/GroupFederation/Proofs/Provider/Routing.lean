import GroupFederation.Proofs.Naming
import GroupFederation.Provider.Build
import GroupFederation.Provider.Fake
import GroupFederation.Registry

/-!
# Who is asked about a name

Every text is a group's name in exactly one of three ways: it is fully qualified, it claims to be a
URN without being fully qualified, or it is a local name of the home institution. The form of a name
and the place of a provider decide together whether the provider is asked about it. A fully qualified
name goes to the providers of its organization, external or not; a malformed one goes nowhere; and a
local name goes to the providers that are not external.
-/

namespace GroupFederation

namespace Urn

/-- The forms that a group's name can have. -/
inductive Form where
  | qualified (urn : Urn)
  | malformed
  | unqualified
  deriving DecidableEq, Repr

/-- Whether a text is a group's name of a form. -/
inductive IsOfForm : String → Form → Prop where
  | qualified {urn : Urn} (wellFormed : urn.IsWellFormed) :
      IsOfForm (render .group urn) (.qualified urn)
  | malformed {rest : String}
      (unreadable : ∀ urn : Urn, urn.IsWellFormed → "urn:" ++ rest ≠ render .group urn) :
      IsOfForm ("urn:" ++ rest) .malformed
  | unqualified {text : String} (noUrn : ∀ rest, text ≠ "urn:" ++ rest) :
      IsOfForm text .unqualified

/-- The form of a text, found by taking it apart. -/
def formOf (text : String) : Form :=
  match split? .group text with
  | some urn => .qualified urn
  | none => if "urn:".toList.isPrefixOf text.toList then .malformed else .unqualified

theorem isPrefixOf_urn_iff {text : String} :
    "urn:".toList.isPrefixOf text.toList = true ↔ ∃ rest, text = "urn:" ++ rest := by
  rw [List.isPrefixOf_iff_prefix]
  constructor
  · rintro ⟨rest, same⟩
    refine ⟨String.ofList rest, ?_⟩
    rw [← String.toList_inj]
    simpa using same.symm
  · rintro ⟨rest, rfl⟩
    exact ⟨rest.toList, by rw [String.toList_append]⟩

/-- A fully qualified name is a URN. -/
theorem exists_render_group_eq (urn : Urn) : ∃ rest, render .group urn = "urn:" ++ rest := by
  refine ⟨"collab:group:" ++ urn.organization ++ ":" ++ urn.localName, ?_⟩
  simp only [render, leader, Namespace.text, ← String.append_assoc]
  rfl

theorem isOfForm_formOf (text : String) : IsOfForm text (formOf text) := by
  unfold formOf
  cases split : split? .group text with
  | some urn =>
      obtain ⟨rfl, wellFormed⟩ := split?_eq_some_iff.mp split
      exact .qualified wellFormed
  | none =>
      have unreadable (urn : Urn) (wellFormed : urn.IsWellFormed) : text ≠ render .group urn := by
        intro same
        rw [split?_eq_some_iff.mpr ⟨same, wellFormed⟩] at split
        cases split
      by_cases isUrn : "urn:".toList.isPrefixOf text.toList = true
      · obtain ⟨rest, rfl⟩ := isPrefixOf_urn_iff.mp isUrn
        simp only [isUrn, if_true]
        exact .malformed unreadable
      · simp only [isUrn]
        exact .unqualified fun rest same => isUrn (isPrefixOf_urn_iff.mpr ⟨rest, same⟩)

theorem formOf_eq {text : String} {form : Form} (isOfForm : IsOfForm text form) :
    formOf text = form := by
  cases isOfForm with
  | qualified wellFormed => simp [formOf, split?_eq_some_iff.mpr ⟨rfl, wellFormed⟩]
  | @malformed rest unreadable =>
      have split : split? .group ("urn:" ++ rest) = none := by
        refine Option.eq_none_iff_forall_ne_some.mpr fun urn found => ?_
        obtain ⟨same, wellFormed⟩ := split?_eq_some_iff.mp found
        exact unreadable urn wellFormed same
      simp only [formOf, split, isPrefixOf_urn_iff.mpr ⟨rest, rfl⟩, if_true]
  | unqualified noUrn =>
      have split : split? .group text = none := by
        refine Option.eq_none_iff_forall_ne_some.mpr fun urn found => ?_
        obtain ⟨rest, same⟩ := exists_render_group_eq urn
        exact noUrn rest ((split?_eq_some_iff.mp found).1.trans same)
      have noPrefix : "urn:".toList.isPrefixOf text.toList ≠ true := by
        intro isUrn
        obtain ⟨rest, same⟩ := isPrefixOf_urn_iff.mp isUrn
        exact noUrn rest same
      simp only [formOf, split, noPrefix]
      rfl

/-- No text is without a form, and none has two. -/
theorem existsUnique_form (text : String) : ∃! form, IsOfForm text form :=
  ⟨formOf text, isOfForm_formOf text, fun _ other => (formOf_eq other).symm⟩

namespace Form

/-- Whether names of the form are asked of a provider. -/
def admits : Form → Provider → Bool
  | .qualified urn, provider => provider.organization == urn.organization
  | .malformed, _ => false
  | .unqualified, provider => !provider.isExternal

end Form

end Urn

/-- Routing looks at the form of a name and at nothing else of it. -/
theorem Provider.takesGroup_eq_admits (provider : Provider) (group : String) :
    provider.takesGroup group = (Urn.formOf group).admits provider := by
  cases split : Urn.split? .group group with
  | some urn =>
      have sameOwner : (urn.organization == provider.organization) =
          (provider.organization == urn.organization) := BEq.comm
      simp only [takesGroup, externalKnows, authoritativeKnows, Urn.organization?,
        Urn.isMalformedGroup, Urn.isQualified, Urn.formOf, Urn.Form.admits, split]
      simp [sameOwner]
  | none =>
      simp only [takesGroup, externalKnows, authoritativeKnows, Urn.organization?,
        Urn.isMalformedGroup, Urn.isQualified, Urn.formOf, split]
      cases isUrn : "urn:".toList.isPrefixOf group.toList <;>
        cases external : provider.isExternal <;> simp [Urn.Form.admits, external]

namespace Registry

/-- Every text is a group's name of exactly one form. The providers that are asked about a fully
qualified one are those of its organization; none is asked about a malformed one, and about any other
name those that are not external. For a person's memberships these are asked as well, and of the
external ones those of the person's organization. In each case they come in the order of the
registry. -/
theorem routing_partition (registry : Registry) :
    (∀ group, ∃! form, Urn.IsOfForm group form) ∧
    (∀ urn : Urn, urn.IsWellFormed → registry.forGroup (Urn.render .group urn) =
      registry.providers.filter fun provider => provider.organization == urn.organization) ∧
    (∀ group, Urn.IsOfForm group .malformed → registry.forGroup group = []) ∧
    (∀ group, Urn.IsOfForm group .unqualified → registry.forGroup group =
      registry.providers.filter fun provider => !provider.isExternal) ∧
    ∀ organization, registry.forMemberships organization =
      registry.providers.filter fun provider =>
        !provider.isExternal || provider.organization == organization := by
  have routed {group : String} {form : Urn.Form} (isOfForm : Urn.IsOfForm group form) :
      registry.forGroup group = registry.providers.filter form.admits := by
    apply List.filter_congr
    intro provider _
    rw [provider.takesGroup_eq_admits, Urn.formOf_eq isOfForm]
  refine ⟨Urn.existsUnique_form, fun urn wellFormed => ?_, fun group malformed => ?_,
    fun group unqualified => ?_, fun organization => rfl⟩
  · exact routed (.qualified wellFormed)
  · rw [routed malformed]
    exact List.filter_eq_nil_iff.mpr fun _ _ => Bool.false_ne_true
  · exact routed unqualified

/-- A registry with a provider of every kind. A colon in the local name does not change the
organization, a line break makes the name a malformed one, and so does a missing local name. -/
theorem routing_partition_every_kind :
    let configured (kind : Provider.Kind) (name organization : String) :=
      Provider.ofConfig .unplugged
        ⟨kind, "http://" ++ name ++ ".test", ⟨"user", "secret"⟩, 500, organization, name, false⟩
    let registry := ofList [configured .voot2 "north" "example.org",
      configured .openSocial "south" "partner.org", configured .grouper "home" "example.org",
      Provider.Fake.simulated ⟨"trial", "partner.org", true, 500, [], none⟩ .success]
    let asked (group : String) := (registry.forGroup group).map Provider.name
    let urn : Urn := ⟨"partner.org", "course:math"⟩
    urn.IsWellFormed ∧ Urn.render .group urn = "urn:collab:group:partner.org:course:math" ∧
      asked "urn:collab:group:partner.org:course:math" = ["south", "trial"] ∧
      Urn.IsOfForm "urn:collab:group:example.org:course\nmath" .malformed ∧
      asked "urn:collab:group:example.org:course\nmath" = [] ∧
      Urn.IsOfForm "urn:collab:group:example.org:" .malformed ∧
      asked "urn:collab:group:example.org:" = [] ∧
      Urn.IsOfForm "course:math" .unqualified ∧ asked "course:math" = ["home"] ∧
      (registry.forMemberships "partner.org").map Provider.name = ["home", "south", "trial"] := by
  intro configured registry asked urn
  have wellFormed : urn.IsWellFormed := ⟨by decide, by decide, by decide, by decide⟩
  have name : Urn.render .group urn = "urn:collab:group:partner.org:course:math" := by decide
  have broken : Urn.IsOfForm "urn:collab:group:example.org:course\nmath" .malformed :=
    Urn.isOfForm_formOf _
  have empty : Urn.IsOfForm "urn:collab:group:example.org:" .malformed := Urn.isOfForm_formOf _
  have plain : Urn.IsOfForm "course:math" .unqualified := Urn.isOfForm_formOf _
  obtain ⟨-, qualified, malformed, unqualified, memberships⟩ := registry.routing_partition
  refine ⟨wellFormed, name, ?_, broken, ?_, empty, ?_, plain, ?_, ?_⟩
  · rw [← name]
    exact (congrArg (List.map Provider.name) (qualified urn wellFormed)).trans (by decide)
  · exact congrArg (List.map Provider.name) (malformed _ broken)
  · exact congrArg (List.map Provider.name) (malformed _ empty)
  · exact (congrArg (List.map Provider.name) (unqualified _ plain)).trans (by decide)
  · exact (congrArg (List.map Provider.name) (memberships "partner.org")).trans (by decide)

end Registry

end GroupFederation
