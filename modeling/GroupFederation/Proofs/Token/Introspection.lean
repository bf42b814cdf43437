import GroupFederation.Http.Canned
import GroupFederation.Proofs.Json.Record
import GroupFederation.Proofs.Naming
import GroupFederation.Proofs.Text.Encoding
import GroupFederation.Proofs.Text.Words
import GroupFederation.Token.Introspection

/-!
# From introspection answers to verdicts

The body of an answer is a record, and the verdict is known from what it says about its fields.
Scopes may be written as a list or as one text, and the organization may go by each of its names:
the verdict does not depend on it.
-/

namespace GroupFederation.Token

open Json (Value)

namespace Introspection

/-! ## What a record says of a token -/

/-- Scopes as they may be written: texts in a list, or words in one text. -/
inductive AreScopes : Value → List String → Prop where
  | listed (scopes : List String) : AreScopes (.array (scopes.map Value.ofText)) scopes
  | joined {scopes : List String} {text : String} (areWords : Text.AreWordsOf scopes text.toList) :
      AreScopes (.ofText text) scopes

theorem itemsSound_map_ofText (texts : List String) :
    Value.itemsSound (texts.map Value.ofText) = true := by
  induction texts with
  | nil => rfl
  | cons text texts inductionHypothesis =>
      simp [Value.itemsSound, Value.isSound, Value.ofText, inductionHypothesis]

theorem itemsNesting_map_ofText (texts : List String) :
    Value.itemsNesting (texts.map Value.ofText) = 0 := by
  induction texts with
  | nil => rfl
  | cons text texts inductionHypothesis =>
      simp [Value.itemsNesting, Value.nesting, Value.ofText, inductionHypothesis]

theorem AreScopes.isTransferable {value : Value} {scopes : List String}
    (areScopes : AreScopes value scopes) : value.isTransferable 1 = true := by
  cases areScopes with
  | listed =>
      simp [Value.isTransferable, Value.isSound, Value.nesting, itemsSound_map_ofText,
        itemsNesting_map_ofText, Value.nestingLimit]
  | joined areWords =>
      simp [Value.isTransferable, Value.isSound, Value.nesting, Value.ofText, Value.nestingLimit]

theorem mapM_text?_eq_some_iff {items : List Value} {texts : List String} :
    items.mapM Value.text? = some texts ↔ items = texts.map Value.ofText := by
  simp only [Json.mapM_eq_some_iff, Value.text?_eq_some_iff]
  rw [← List.forall₂_map_right_iff (R := (· = ·)), List.forall₂_eq_eq_eq]

theorem scopes?_eq_some_iff {value : Value} {scopes : List String} :
    scopes? value = some scopes ↔ AreScopes value scopes := by
  constructor
  · intro read
    unfold scopes? at read
    split at read
    · cases read
    · cases value with
      | string literal =>
          obtain ⟨text, isText, rfl⟩ := Option.map_eq_some_iff.mp read
          rw [Json.Literal.eq_ofText isText]
          exact .joined (Text.words_eq_iff.mp rfl)
      | array items =>
          rw [mapM_text?_eq_some_iff.mp read]
          exact .listed scopes
      | _ => cases read
  · intro areScopes
    have transferable := areScopes.isTransferable
    cases areScopes with
    | listed =>
        rw [scopes?, if_neg (by simp [transferable])]
        exact mapM_text?_eq_some_iff.mpr rfl
    | @joined _ text areWords =>
        have read : scopes? (.ofText text) = (Json.Literal.ofText text).text?.map Text.words :=
          if_neg (by simp [transferable])
        rw [read, Json.Literal.text?_ofText, Option.map_some, Text.words_eq_iff.mpr areWords]

/-- A value is a text. -/
abbrev IsText (value : Value) (text : String) : Prop :=
  value = .ofText text

/-- A value is a time in seconds. -/
abbrev AreSeconds (value : Value) (seconds : Int) : Prop :=
  seconds? value = some seconds

/-- What a record says of a token. A field that is missing or null says nothing, but null does not
say whether the token is active. -/
@[mk_iff]
structure IsSaidIn (said : Introspection) (value : Value) : Prop where
  record : value.IsRecord fields
  isActive : value.field? ["active"] 0 = some (.bool said.isActive) ∨
    value.field? ["active"] 0 = none ∧ said.isActive = false
  subject : Json.Slot.IsLenient IsText (value.field? ["sub"] 1) said.subject
  userName : Json.Slot.IsLenient IsText (value.field? ["user_name"] 2) said.userName
  scopes : Json.Slot.IsLenient AreScopes (value.field? ["scope"] 3) said.scopes
  clientId : Json.Slot.IsLenient IsText (value.field? ["client_id"] 4) said.clientId
  organization : Json.Slot.IsLenient IsText (value.field? organizationNames 5) said.organization
  expiry : Json.Slot.IsLenient AreSeconds (value.field? ["exp"] 6) said.expiry

theorem fields?_eq (value : Value) :
    value.fields? fields =
      [value.field? ["active"] 0, value.field? ["sub"] 1, value.field? ["user_name"] 2,
        value.field? ["scope"] 3, value.field? ["client_id"] 4, value.field? organizationNames 5,
        value.field? ["exp"] 6] := by
  simp [Value.fields?, fields]

theorem lenient_scopes?_eq_some_iff {slot : Json.Slot} {result : Option (List String)} :
    slot.lenient scopes? = some result ↔ Json.Slot.IsLenient AreScopes slot.value? result :=
  Json.Slot.lenient_eq_some_iff (fun _ _ => scopes?_eq_some_iff) rfl

theorem lenient_seconds?_eq_some_iff {slot : Json.Slot} {result : Option Int} :
    slot.lenient seconds? = some result ↔ Json.Slot.IsLenient AreSeconds slot.value? result :=
  Json.Slot.lenient_eq_some_iff (fun _ _ => Iff.rfl) rfl

theorem withDefault_truth?_eq_some_iff {slot : Json.Slot} {result : Bool} :
    slot.withDefault false Value.truth? = some result ↔
      slot.value? = some (.bool result) ∨ slot.value? = none ∧ result = false := by
  simp [Json.Slot.withDefault_eq_some_iff, Value.truth?_eq_some_iff]

/-- A record is decoded to what it says. -/
theorem ofJson?_eq_some_iff {value : Value} {said : Introspection} :
    ofJson? value = some said ↔ said.IsSaidIn value := by
  constructor
  · intro read
    unfold ofJson? at read
    split at read
    case h_1 active subject userName scopes clientId organization expiry slots =>
      obtain ⟨record, told⟩ := Json.Slot.read?_iff.mp ⟨_, slots, rfl⟩
      simp only [fields?_eq, List.map_cons, List.map_nil, List.cons.injEq, and_true] at told
      obtain ⟨isActive, isSubject, isUserName, areScopes, isClientId, isOrganization, isExpiry⟩ :=
        told
      simp only [Option.bind_eq_bind, Option.bind_eq_some_iff, Option.some_inj,
        Json.Slot.lenient_text?_eq_some_iff, lenient_scopes?_eq_some_iff,
        lenient_seconds?_eq_some_iff, withDefault_truth?_eq_some_iff, ← isActive, ← isSubject,
        ← isUserName, ← areScopes, ← isClientId, ← isOrganization, ← isExpiry] at read
      obtain ⟨_, first, _, second, _, third, _, fourth, _, fifth, _, sixth, _, seventh, rfl⟩ := read
      exact ⟨record, first, second, third, fourth, fifth, sixth, seventh⟩
    case h_2 => cases read
  · intro isSaid
    obtain ⟨slots, read, told⟩ := Json.Slot.read?_iff.mpr ⟨isSaid.record, fields?_eq value⟩
    simp only [List.map_eq_cons_iff, List.map_eq_nil_iff] at told
    obtain ⟨active, _, rfl, isActive, subject, _, rfl, isSubject, userName, _, rfl, isUserName,
      scopes, _, rfl, areScopes, clientId, _, rfl, isClientId, organization, _, rfl, isOrganization,
      expiry, _, rfl, isExpiry, rfl⟩ := told
    rw [ofJson?, read]
    simp only [Option.bind_eq_bind, Option.bind_eq_some_iff, Option.some_inj,
      Json.Slot.lenient_text?_eq_some_iff, lenient_scopes?_eq_some_iff,
      lenient_seconds?_eq_some_iff, withDefault_truth?_eq_some_iff, isActive, isSubject,
      isUserName, areScopes, isClientId, isOrganization, isExpiry]
    exact ⟨_, isSaid.isActive, _, isSaid.subject, _, isSaid.userName, _, isSaid.scopes, _,
      isSaid.clientId, _, isSaid.organization, _, isSaid.expiry, rfl⟩

/-! ## Records that say the same -/

/-- A record is written in another way: its scopes in a list and not in one text, or its
organization under another name. -/
inductive Respelled : Value → Value → Prop where
  | scopes {scopes : List String} {text : String} {value other : Value}
      (areWords : Text.AreWordsOf scopes text.toList)
      (differ : Json.DifferAt "scope" 3 (.ofText text) (.array (scopes.map Value.ofText)) value
        other) : Respelled value other
  | organization {value other : Value} (renamed : Json.Renamed organizationNames value other) :
      Respelled value other

theorem AreScopes.isLenient_iff {value : Value} {scopes : List String}
    (areScopes : AreScopes value scopes) {result : Option (List String)} :
    Json.Slot.IsLenient AreScopes (some value) result ↔ result = some scopes := by
  have decoded := scopes?_eq_some_iff.mpr areScopes
  constructor
  · intro isLenient
    cases isLenient with
    | null => cases decoded
    | given others => exact (scopes?_eq_some_iff.mpr others).symm.trans decoded
  · rintro rfl
    exact .given areScopes

/-- Records that agree in all fields but the scopes, and in what these mean, say the same. -/
theorem IsSaidIn.congr {value other : Value} {said : Introspection}
    (records : value.IsRecord fields ↔ other.IsRecord fields)
    (same : ∀ names ∈ fields, "scope" ∉ names → ∀ place ≠ 3,
      value.field? names place = other.field? names place)
    (sameScopes : Json.Slot.IsLenient AreScopes (value.field? ["scope"] 3) said.scopes ↔
      Json.Slot.IsLenient AreScopes (other.field? ["scope"] 3) said.scopes) :
    said.IsSaidIn value ↔ said.IsSaidIn other := by
  rw [isSaidIn_iff, isSaidIn_iff, records, sameScopes,
    same ["active"] (by decide) (by decide) 0 (by decide),
    same ["sub"] (by decide) (by decide) 1 (by decide),
    same ["user_name"] (by decide) (by decide) 2 (by decide),
    same ["client_id"] (by decide) (by decide) 4 (by decide),
    same organizationNames (by decide) (by decide) 5 (by decide),
    same ["exp"] (by decide) (by decide) 6 (by decide)]

/-- No name of the organization is a name of another field. -/
theorem organizationNames_together : ∀ names ∈ fields, ∀ name ∈ organizationNames,
    ∀ other ∈ organizationNames, names.contains name = names.contains other := by
  decide

theorem Respelled.isSaidIn_iff {value other : Value} (respelled : Respelled value other)
    {said : Introspection} : said.IsSaidIn value ↔ said.IsSaidIn other := by
  cases respelled with
  | @scopes scopes text _ _ areWords differ =>
      refine IsSaidIn.congr differ.isRecord_iff
        (fun names _ unnamed place away => differ.field?_eq away unnamed) ?_
      rcases differ.field?_cases (List.mem_singleton_self _) with equal | ⟨joined, listed⟩
      · rw [equal]
      · rw [joined, listed, (AreScopes.joined areWords).isLenient_iff,
          (AreScopes.listed scopes).isLenient_iff]
  | organization renamed =>
      have same (names : List String) (isField : names ∈ fields) (place : Nat) :
          value.field? names place = other.field? names place :=
        renamed.field?_eq (organizationNames_together names isField)
      refine IsSaidIn.congr (renamed.isRecord_iff organizationNames_together)
        (fun names isField _ place _ => same names isField place) ?_
      rw [same ["scope"] (by decide) 3]

theorem Respelled.ofJson?_eq {value other : Value} (respelled : Respelled value other) :
    ofJson? value = ofJson? other :=
  Option.ext fun said => by
    rw [ofJson?_eq_some_iff, ofJson?_eq_some_iff, respelled.isSaidIn_iff]

/-! ## The verdict on what is said -/

/-- A verdict that accepts a token of which something is said. -/
structure IsAcceptance (said : Introspection) (issuer : String) (verdict : Verdict) : Prop where
  valid : verdict.valid = true
  issuer : verdict.issuer = some issuer
  isClientCredentials : verdict.isClientCredentials = true ↔
    said.userName = none ∧ (said.subject = none ∨ said.subject = said.clientId)
  principal : verdict.isClientCredentials = false →
    verdict.principal = said.userName.or said.subject
  organization (organization : String) : verdict.organization = some organization ↔
    said.organization = some organization ∨ said.organization = none ∧ ∃ localName,
      Urn.IsWellFormed ⟨organization, localName⟩ ∧
        verdict.principal = some (Urn.render .person ⟨organization, localName⟩)
  clientId : verdict.clientId = said.clientId
  scopes : verdict.scopes = said.scopes.getD []
  expiresAt : verdict.expiresAt = said.expiry.bind Timestamp.ofSeconds?

/-- The verdict on a token of which something is said. -/
structure IsVerdictOn (said : Introspection) (issuer : String) (verdict : Verdict) : Prop where
  inactive : said.isActive = false → verdict = .invalid
  active : said.isActive = true → said.IsAcceptance issuer verdict

section Verdict

variable {said : Introspection} {issuer : String} {verdict other : Verdict}

theorem principal_eq_none_iff :
    said.principal = none ↔
      said.userName = none ∧ (said.subject = none ∨ said.subject = said.clientId) := by
  rw [principal, Option.or_eq_none_iff]
  refine and_congr_right fun _ => ?_
  cases said.subject with
  | none => simp
  | some subject => simp [@eq_comm _ (some subject)]

/-- Who a token belongs to is its user or else its subject. -/
theorem principal_eq_or (belongs : said.principal ≠ none) :
    said.principal = said.userName.or said.subject := by
  cases user : said.userName with
  | some userName => rw [principal, user, Option.some_or, Option.some_or]
  | none =>
      rw [principal, user, Option.none_or] at belongs ⊢
      obtain ⟨subject, found⟩ := Option.ne_none_iff_exists'.mp belongs
      rw [found, Option.none_or, Option.eq_some_of_filter_eq_some found]

theorem isAcceptance_verdict (active : said.isActive = true) :
    said.IsAcceptance issuer (said.verdict issuer) := by
  have written : said.verdict issuer =
      { valid := true
        principal := said.principal
        clientId := said.clientId
        scopes := said.scopes.getD []
        organization := said.organization.or (said.principal.bind (Urn.organization? .person))
        expiresAt := said.expiry.bind Timestamp.ofSeconds?
        issuer := some issuer } := by
    simp [verdict, active]
  rw [written]
  refine ⟨rfl, rfl, ?isClientCredentials, ?principal, fun organization => ?organization, rfl, rfl,
    rfl⟩
  case isClientCredentials => rw [Verdict.isClientCredentials, Option.isNone_iff_eq_none,
    principal_eq_none_iff]
  case principal =>
    intro belongs
    refine principal_eq_or fun none => ?_
    simp [Verdict.isClientCredentials, none] at belongs
  case organization =>
    simp only [Option.or_eq_some_iff, Option.bind_eq_some_iff, Urn.organization?_eq_some_iff]
    refine or_congr_right (and_congr_right fun _ => ?_)
    constructor
    · rintro ⟨principal, belongs, localName, rfl, wellFormed⟩
      exact ⟨localName, wellFormed, belongs⟩
    · rintro ⟨localName, wellFormed, belongs⟩
      exact ⟨_, belongs, localName, rfl, wellFormed⟩

theorem IsAcceptance.principal_unique (accepts : said.IsAcceptance issuer verdict)
    (otherAccepts : said.IsAcceptance issuer other) : verdict.principal = other.principal := by
  cases machine : verdict.isClientCredentials with
  | true =>
      have otherMachine := otherAccepts.isClientCredentials.mpr
        (accepts.isClientCredentials.mp machine)
      rw [Verdict.isClientCredentials, Option.isNone_iff_eq_none] at machine otherMachine
      rw [machine, otherMachine]
  | false =>
      have otherMachine : other.isClientCredentials = false := by
        rw [← Bool.not_eq_true, otherAccepts.isClientCredentials, ← accepts.isClientCredentials,
          machine]
        exact Bool.false_ne_true
      rw [accepts.principal machine, otherAccepts.principal otherMachine]

/-- What is said of a token leaves only one verdict that accepts it. -/
theorem IsAcceptance.unique (accepts : said.IsAcceptance issuer verdict)
    (otherAccepts : said.IsAcceptance issuer other) : verdict = other := by
  have principals := accepts.principal_unique otherAccepts
  have organizations : verdict.organization = other.organization :=
    Option.ext fun organization => by
      rw [accepts.organization, otherAccepts.organization, principals]
  cases verdict with
  | mk =>
      cases other with
      | mk =>
          rw [Verdict.mk.injEq]
          exact ⟨accepts.valid.trans otherAccepts.valid.symm, principals,
            accepts.clientId.trans otherAccepts.clientId.symm,
            accepts.scopes.trans otherAccepts.scopes.symm, organizations,
            accepts.expiresAt.trans otherAccepts.expiresAt.symm,
            accepts.issuer.trans otherAccepts.issuer.symm⟩

theorem isVerdictOn_iff :
    said.IsVerdictOn issuer verdict ↔ verdict = said.verdict issuer := by
  cases active : said.isActive with
  | false =>
      have refused : said.verdict issuer = .invalid := by simp [Introspection.verdict, active]
      rw [refused]
      exact ⟨fun isVerdict => isVerdict.inactive active, fun invalid =>
        ⟨fun _ => invalid, fun other => by simp [active] at other⟩⟩
  | true =>
      have accepts : said.IsAcceptance issuer (said.verdict issuer) := isAcceptance_verdict active
      constructor
      · exact fun isVerdict => (isVerdict.active active).unique accepts
      · rintro rfl
        exact ⟨fun other => by simp [active] at other, fun _ => accepts⟩

end Verdict

end Introspection

/-! ## The verdict on a body -/

namespace ServerEntry

open Introspection

variable {entry : ServerEntry} {network : Http.Network} {token : String} {value : Value}

/-- The server answers that the request was carried out, with a body that is a JSON value. -/
def Receives (entry : ServerEntry) (network : Http.Network) (token : String) (value : Value) :
    Prop :=
  ∃ answer, (entry.send network token).result = .ok answer ∧ answer.isSuccess = true ∧
    answer.isComplete = true ∧ Json.readSource (Text.Utf8.decode answer.body) = some value

/-- What the validator makes of a body. -/
def resultOf (entry : ServerEntry) (value : Value) : Except Failure Verdict :=
  match ofJson? value with
  | some said => .ok (said.verdict entry.name)
  | none => .error .decode

theorem result_appraise_of_receives (received : entry.Receives network token value)
    (earlier : List String) :
    ((entry.validator network).appraise earlier token).result = entry.resultOf value := by
  obtain ⟨answer, answered, success, complete, read⟩ := received
  simp only [validator, answered, readAnswer, success, complete, readVerdict?, read]
  cases decoded : ofJson? value <;> simp [resultOf, decoded]

theorem resultOf_eq_ok_iff {verdict : Verdict} :
    entry.resultOf value = .ok verdict ↔
      ∃ said : Introspection, said.IsSaidIn value ∧ said.IsVerdictOn entry.name verdict := by
  simp only [← ofJson?_eq_some_iff, isVerdictOn_iff, resultOf]
  cases ofJson? value with
  | none => simp
  | some said => simp [eq_comm]

theorem resultOf_eq_error_iff {failure : Failure} :
    entry.resultOf value = .error failure ↔
      failure = .decode ∧ ∀ said : Introspection, ¬said.IsSaidIn value := by
  simp only [← ofJson?_eq_some_iff, resultOf]
  cases ofJson? value with
  | none => simp [eq_comm]
  | some said => simp

/-- The validator of a server that answers with a JSON value gives the verdict on what the value
says, and it cannot decode a value that says nothing. Scopes in one text or in a list, and an
organization under any of its names, make no difference, but a body that names its organization
twice cannot be decoded. -/
theorem appraise_of_receives (received : entry.Receives network token value)
    (earlier : List String) :
    let appraise (network : Http.Network) :=
      ((entry.validator network).appraise earlier token).result
    (∀ verdict, appraise network = .ok verdict ↔
      ∃ said : Introspection, said.IsSaidIn value ∧ said.IsVerdictOn entry.name verdict) ∧
    ((∀ said : Introspection, ¬said.IsSaidIn value) → appraise network = .error .decode) ∧
    (∀ otherNetwork other, entry.Receives otherNetwork token other → Respelled value other →
      appraise network = appraise otherNetwork) ∧
    (Json.NamedTwice organizationNames value → appraise network = .error .decode) := by
  intro appraise
  have here : appraise network = entry.resultOf value :=
    result_appraise_of_receives received earlier
  rw [here]
  refine ⟨fun verdict => resultOf_eq_ok_iff, fun nothing => ?nothing,
    fun otherNetwork other answered respelled => ?respelled, fun twice => ?twice⟩
  case nothing => exact resultOf_eq_error_iff.mpr ⟨rfl, nothing⟩
  case respelled =>
    simp only [appraise]
    rw [result_appraise_of_receives answered earlier, resultOf, resultOf, respelled.ofJson?_eq]
  case twice =>
    exact resultOf_eq_error_iff.mpr
      ⟨rfl, fun said isSaid => twice.not_isRecord (by decide) isSaid.record⟩

/-- A client whose scopes are written in two ways. -/
theorem appraise_of_receives_client :
    let entry : ServerEntry := ⟨"authz", "http://authz.test", "voot", "secret", 500⟩
    let body (scopes : String) := "\x7b\"active\":true,\"sub\":\"portal\"," ++
      "\"client_id\":\"portal\",\"schac_home\":\"example.org\",\"scope\":" ++ scopes ++ "\x7d"
    let network (scopes : String) : Http.Network :=
      Http.Canned.network [⟨"authz", [{ body := Text.Utf8.ofText (body scopes) }]⟩]
    let value (scopes : Value) : Value := .ofMembers
      [("active", .bool true), ("sub", .ofText "portal"), ("client_id", .ofText "portal"),
        ("schac_home", .ofText "example.org"), ("scope", scopes)]
    let verdict : Verdict :=
      { valid := true, clientId := some "portal", scopes := ["read", "groups"],
        organization := some "example.org", issuer := some "authz" }
    let joined := network "\" read\\tgroups\""
    let listed := network "[\"read\",\"groups\"]"
    entry.Receives joined "abc" (value (.ofText " read\tgroups")) ∧
      entry.Receives listed "abc" (value (.array (["read", "groups"].map Value.ofText))) ∧
      ((entry.validator joined).appraise [] "abc").result = .ok verdict ∧
      ((entry.validator listed).appraise [] "abc").result = .ok verdict ∧
      verdict.isClientCredentials = true := by
  intro entry body network value verdict joined listed
  have first : entry.Receives joined "abc" (value (.ofText " read\tgroups")) := by
    refine ⟨⟨200, .empty, Text.Utf8.ofText (body "\" read\\tgroups\""), true⟩, ?_, rfl, rfl, ?_⟩
    · decide +kernel
    · rw [Text.Utf8.ofText, Text.Utf8.decode_encode]
      simp [body, value, Value.ofText, Value.ofMembers, Json.Literal.ofText]
      rfl
  have second : entry.Receives listed "abc"
      (value (.array (["read", "groups"].map Value.ofText))) := by
    refine ⟨⟨200, .empty, Text.Utf8.ofText (body "[\"read\",\"groups\"]"), true⟩, ?_, rfl, rfl, ?_⟩
    · decide +kernel
    · rw [Text.Utf8.ofText, Text.Utf8.decode_encode]
      simp [body, value, Value.ofText, Value.ofMembers, Json.Literal.ofText]
      rfl
  have respelled : Respelled (value (.ofText " read\tgroups"))
      (value (.array (["read", "groups"].map Value.ofText))) := by
    have areWords : Text.words " read\tgroups" = ["read", "groups"] := by decide
    refine .scopes (Text.words_eq_iff.mp areWords) ?_
    exact .object [(.ofText "active", .bool true), (.ofText "sub", .ofText "portal"),
      (.ofText "client_id", .ofText "portal"), (.ofText "schac_home", .ofText "example.org")] []
  have verdict_joined : ((entry.validator joined).appraise [] "abc").result = .ok verdict := by
    decide +kernel
  have same := (appraise_of_receives first []).2.2.1 listed _ second respelled
  exact ⟨first, second, verdict_joined, same.symm.trans verdict_joined, rfl⟩

end ServerEntry

end GroupFederation.Token
