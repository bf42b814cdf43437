import GroupFederation.Proofs.Service.Admission

/-!
# What the guards let through

Each guard of the service is described by what it lets through, without the order in which it looks
at things, and by the statuses of its refusals. Nothing that a guard says about a request is a fault
of the service itself.
-/

namespace GroupFederation

open Service (Response Route)

namespace Access

/-- The first `authorization` field reads as the scheme `bearer` in any case, a space, and a
token. -/
def Shows (headers : Http.Headers) (token : String) : Prop :=
  ∃ value scheme rest, headers.first? "authorization" = some value ∧
    Http.Headers.isText value = true ∧
    (Text.trim value).toList = scheme ++ ' ' :: rest ∧
    Text.lower (String.ofList scheme) = "bearer" ∧
    token = Text.trim (String.ofList rest) ∧ token ≠ ""

/-- A scheme that is `bearer` in some case holds no space. -/
theorem space_not_mem_of_bearer {scheme : List Char}
    (bearer : Text.lower (String.ofList scheme) = "bearer") : ' ' ∉ scheme := by
  intro member
  have folded : scheme.map Char.toLower = "bearer".toList := by
    rw [← bearer]
    simp [Text.lower]
  have space : ' '.toLower ∈ "bearer".toList := folded ▸ List.mem_map_of_mem member
  revert space
  decide

theorem tokenOf?_eq_some_iff {value token : String} :
    tokenOf? value = some token ↔
      ∃ scheme rest, (Text.trim value).toList = scheme ++ ' ' :: rest ∧
        Text.lower (String.ofList scheme) = "bearer" ∧
        token = Text.trim (String.ofList rest) ∧ token ≠ "" := by
  constructor
  · intro accepted
    unfold tokenOf? at accepted
    split at accepted
    · rename_i scheme rest cut
      dsimp only at accepted
      split at accepted
      · rename_i fits
        simp only [Bool.and_eq_true, beq_iff_eq, bne_iff_ne] at fits
        cases accepted
        exact ⟨scheme, rest, (Text.cutAt_eq_some_iff.mp cut).1, fits.1, rfl, fits.2⟩
      · cases accepted
    · cases accepted
  · rintro ⟨scheme, rest, parts, bearer, rfl, nonempty⟩
    have cut := Text.cutAt_eq_some_iff.mpr ⟨parts, space_not_mem_of_bearer bearer⟩
    simp [tokenOf?, cut, bearer, nonempty]

theorem bearerToken?_eq_some_iff {headers : Http.Headers} {token : String} :
    bearerToken? headers = some token ↔ Shows headers token := by
  simp only [bearerToken?, Http.Headers.text?, Option.bind_eq_some_iff, Option.filter_eq_some_iff,
    tokenOf?_eq_some_iff, Shows]
  constructor
  · rintro ⟨value, ⟨first, isText⟩, scheme, rest, described⟩
    exact ⟨value, scheme, rest, first, isText, described⟩
  · rintro ⟨value, scheme, rest, first, isText, described⟩
    exact ⟨value, ⟨first, isText⟩, scheme, rest, described⟩

theorem requireToken_eq_ok_iff {headers : Http.Headers} {token : String} :
    requireToken headers = .ok token ↔ Shows headers token := by
  rw [← bearerToken?_eq_some_iff, requireToken]
  cases bearerToken? headers <;> simp

theorem requireScope_eq_ok_iff {scope : String} {verdict : Verdict} :
    requireScope scope verdict = .ok () ↔ verdict.valid = true ∧ scope ∈ verdict.scopes := by
  unfold requireScope Verdict.hasScope
  cases verdict.valid <;> by_cases granted : scope ∈ verdict.scopes <;> simp [granted]

theorem requireClient_eq_ok_iff {verdict : Verdict} :
    requireClient (some verdict) = .ok () ↔ verdict.principal = none := by
  cases principal : verdict.principal <;>
    simp [requireClient, requireVerdict, Verdict.isClientCredentials, principal]

end Access

namespace Service

/-! ## What it takes to go on -/

theorem bind_eq_ok_iff {ε α β : Type} {attempt : Except ε α} {next : α → Except ε β} {value : β} :
    (attempt >>= next) = .ok value ↔ ∃ middle, attempt = .ok middle ∧ next middle = .ok value := by
  cases attempt <;> simp [bind, Except.bind]

theorem exists_bind_eq_ok_iff {ε α β : Type} {attempt : Except ε α} {next : α → Except ε β} :
    (∃ value, (attempt >>= next) = .ok value) ↔
      ∃ middle, attempt = .ok middle ∧ ∃ value, next middle = .ok value := by
  cases attempt <;> simp [bind, Except.bind]

theorem exists_map_eq_ok_iff {ε α β : Type} {attempt : Except ε α} {change : α → β} :
    (∃ value, change <$> attempt = .ok value) ↔ ∃ value, attempt = .ok value := by
  cases attempt <;> simp [Functor.map, Except.map]

theorem exists_unit_iff {property : Unit → Prop} : (∃ value, property value) ↔ property () := by
  constructor
  · rintro ⟨⟨⟩, holds⟩
    exact holds
  · intro holds
    exact ⟨(), holds⟩

theorem refusing_eq_ok_iff {α : Type} {attempt : Except ServiceError α} {value : α} :
    refusing attempt = .ok value ↔ attempt = .ok value := by
  cases attempt with
  | error error => exact ⟨fun same => (by cases same), fun same => (by cases same)⟩
  | ok result => exact ⟨fun same => (by cases same; rfl), fun same => (by cases same; rfl)⟩

theorem exists_userOf_eq_ok_iff {verdict : Verdict} :
    (∃ user, userOf verdict = .ok user) ↔ verdict.principal ≠ none := by
  unfold userOf
  cases verdict.principal <;> simp

theorem exists_requirePerson_eq_ok_iff {name : String} :
    (∃ organization, wellFormed (Urn.requirePerson name) = .ok organization) ↔
      Urn.isQualified .person name = true := by
  simp only [Urn.requirePerson, Urn.organization?, Urn.isQualified]
  cases Urn.split? .person name <;> simp [wellFormed]

theorem exists_requireGroup_eq_ok_iff {name : String} :
    (∃ accepted, wellFormed (Urn.requireGroup name) = .ok accepted) ↔
      Urn.isQualified .group name = true := by
  unfold Urn.requireGroup
  cases Urn.isQualified .group name <;> simp [wellFormed]

/-! ## How guards refuse -/

/-- The statuses of refusals. -/
def refusals : List Nat := [401, 403, 400, 404, 405]

/-- What stands in place of a value has a property. -/
def FailsWith {ε α : Type} (property : ε → Prop) (attempt : Except ε α) : Prop :=
  ∀ error, attempt = .error error → property error

/-- Only refusals stand in place of a value. -/
def Refuses {α : Type} (attempt : Except Response α) : Prop :=
  FailsWith (fun response => response.status ∈ refusals) attempt

/-- Only errors that are refusals stand in place of a value. -/
def Objects {α : Type} (attempt : Except ServiceError α) : Prop :=
  FailsWith (fun error => error.status ∈ refusals) attempt

section FailsWith

variable {ε α β : Type} {property : ε → Prop}

theorem FailsWith.ok (value : α) : FailsWith property (.ok value) := by
  intro error failed
  cases failed

theorem FailsWith.error {error : ε} (holds : property error) :
    FailsWith property (.error error : Except ε α) := by
  intro other failed
  cases failed
  exact holds

theorem FailsWith.bind {attempt : Except ε α} {next : α → Except ε β}
    (first : FailsWith property attempt) (later : ∀ value, FailsWith property (next value)) :
    FailsWith property (attempt >>= next) := by
  cases attempt with
  | error error => exact .error (first error rfl)
  | ok value => exact later value

end FailsWith

theorem status_response (error : ServiceError) : error.response.status = error.status := by
  unfold ServiceError.response
  dsimp only
  split <;> rfl

theorem Objects.refuses {α : Type} {attempt : Except ServiceError α} (objects : Objects attempt) :
    Refuses (refusing attempt) := by
  cases attempt with
  | ok value => exact .ok value
  | error error =>
      apply FailsWith.error
      rw [status_response]
      exact objects error rfl

theorem objects_requireToken (headers : Http.Headers) : Objects (Access.requireToken headers) := by
  unfold Access.requireToken
  split
  · exact .ok _
  · exact .error (by decide)

theorem objects_requireScope (scope : String) (verdict : Verdict) :
    Objects (Access.requireScope scope verdict) := by
  unfold Access.requireScope
  split
  · exact .error (by decide)
  · split
    · exact .error (by simp [ServiceError.status, refusals])
    · exact .ok ()

theorem objects_requireClient (verdict : Verdict) :
    Objects (Access.requireClient (some verdict)) := by
  simp only [Access.requireClient, Access.requireVerdict]
  split
  · exact .ok ()
  · exact .error (by decide)

theorem objects_userOf (verdict : Verdict) : Objects (userOf verdict) := by
  unfold userOf
  split
  · exact .error (by decide)
  · exact .ok _

theorem objects_wellFormed {α : Type} (attempt : Except Urn.Malformed α) :
    Objects (wellFormed attempt) := by
  cases attempt with
  | ok value => exact .ok value
  | error refusal =>
      exact .error (by simp [ServiceError.ofMalformed, ServiceError.status, refusals])

end Service

end GroupFederation
