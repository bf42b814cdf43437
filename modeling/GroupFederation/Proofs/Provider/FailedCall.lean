import GroupFederation.Proofs.Soap.Fault
import GroupFederation.Provider.Grouper

/-!
# Calls that the registry refuses

The registry answers a call that failed with the status of a failure and, as a rule, with a fault.
Such an answer is read like any other one if its text mentions a fault at all, so that the reason of
the fault becomes the reason of the failure. Nobody asks whether one was found: when the text has no
reason where it is looked for, the failed call passes for one that found nothing.
-/

namespace GroupFederation

open Soap (Results)

/-! ## Failures of a provider -/

/-- Why a call failed, if it did. -/
def Outcome.failure? {α : Type} : Outcome α → Option Provider.Failure
  | .answered _ => none
  | .failed failure => some failure
  | .crashed => none

namespace Provider

/-- Why a question has no answer, if it has none. -/
def failure? (provider : Provider) (earlier : List Query) : Query → Option Failure
  | .memberships person => (provider.memberships earlier person).outcome.failure?
  | .membership person group => (provider.membership earlier person group).outcome.failure?
  | .members group => (provider.members earlier group).outcome.failure?
  | .allGroups => (provider.allGroups earlier).outcome.failure?

/-- Whether the answer to a question is that there is nothing. -/
def FindsNothing (provider : Provider) (earlier : List Query) : Query → Prop
  | .memberships person => (provider.memberships earlier person).outcome = .answered []
  | .membership person group => (provider.membership earlier person group).outcome = .answered none
  | .members group => (provider.members earlier group).outcome = .answered []
  | .allGroups => (provider.allGroups earlier).outcome = .answered []

instance (provider : Provider) (earlier : List Query) :
    (query : Query) → Decidable (provider.FindsNothing earlier query)
  | .memberships _ => inferInstanceAs (Decidable (_ = _))
  | .membership _ _ => inferInstanceAs (Decidable (_ = _))
  | .members _ => inferInstanceAs (Decidable (_ = _))
  | .allGroups => inferInstanceAs (Decidable (_ = _))

/-- A reply fails as the reading of the answer does. -/
theorem Config.failure?_replyTo_eq_some_iff {α : Type} {config : Config}
    {exchange : Http.Exchange} {answer : Http.Answer} (answered : exchange.result = .ok answer)
    {read : Http.Answer → Except Failure α} {failure : Failure} :
    (config.replyTo exchange read).outcome.failure? = some failure ↔
      read answer = .error failure := by
  unfold Config.replyTo
  rw [answered]
  cases reading : read answer <;> simp [reading, Outcome.ofExcept, Outcome.failure?]

theorem map_eq_error_iff {α β : Type} {attempt : Except Failure α} {change : α → β}
    {failure : Failure} : attempt.map change = .error failure ↔ attempt = .error failure := by
  cases attempt <;> simp [Except.map]

namespace Grouper

/-- The call to the registry that a question is answered with. -/
def exchange (network : Http.Network) (config : Config) : Query → Http.Exchange
  | .memberships person => askMemberships network config (some person) none
  | .membership person group =>
      askMemberships network config (some person) (some (Urn.localPart .group group))
  | .members group => askMemberships network config none (some (Urn.localPart .group group))
  | .allGroups => config.call network "findGroups" Soap.allGroupsRequest

variable {network : Http.Network} {config : Config} {query : Query} {answer : Http.Answer}

/-- All questions fail alike. -/
theorem failure?_eq_some_iff (answered : (exchange network config query).result = .ok answer)
    (earlier : List Query) {failure : Failure} :
    (provider network config).failure? earlier query = some failure ↔
      readResults answer = .error failure := by
  cases query with
  | memberships person =>
      exact (Config.failure?_replyTo_eq_some_iff answered).trans map_eq_error_iff
  | membership person group =>
      exact ((Config.failure?_replyTo_eq_some_iff answered).trans map_eq_error_iff).trans
        map_eq_error_iff
  | members group =>
      exact (Config.failure?_replyTo_eq_some_iff answered).trans map_eq_error_iff
  | allGroups =>
      exact (Config.failure?_replyTo_eq_some_iff answered).trans map_eq_error_iff

/-- All questions find nothing in results that hold no record. -/
theorem findsNothing_of_readResults
    (answered : (exchange network config query).result = .ok answer) (earlier : List Query)
    (read : readResults answer = .ok {}) :
    (provider network config).FindsNothing earlier query := by
  cases query <;>
    simp only [FindsNothing, provider, exchange, Config.replyTo] at answered ⊢ <;>
    rw [answered] <;>
    simp [readGroup, readGroups, readMembers, read, Except.map, Outcome.ofExcept, groupsOf,
      membersOf, firstOfEach]

/-! ## What counts as a failure -/

/-- What makes the answer to a failed call count as a failure. -/
inductive ShowsFailure (answer : Http.Answer) : Prop
  | brokenOff (nothing : answer.text? = none)
  | noMention {body : String} (text : answer.text? = some body)
      (absent : Text.occursIn "Fault".toList body.toList = false)
  | noDocument {body : String} (text : answer.text? = some body)
      (unread : Xml.readEvents? body = none)
  /-- Some text of the document has a reference that means nothing. -/
  | noText {body : String} {events : List Xml.Event} (text : answer.text? = some body)
      (read : Xml.readEvents? body = some events) (unread : Soap.Results.ofEvents? events = none)
  | fault {body : String} {events : List Xml.Event} (text : answer.text? = some body)
      (read : Xml.readEvents? body = some events)
      (told : ({} : Soap.Reading).TellsFault events)
  /-- The call is said not to have succeeded, for another reason than that something is missing. -/
  | unsuccessful {body : String} {results : Results} (text : answer.text? = some body)
      (read : Results.read body = .ok results) (said : results.success = some false)
      (reason : Results.isNotFound (results.code.getD "") = false)

theorem exists_checked_eq_error_iff {results : Results} :
    (∃ failure, results.checked = .error failure) ↔
      results.fault ≠ none ∨
        results.success = some false ∧ Results.isNotFound (results.code.getD "") = false := by
  unfold Results.checked
  cases results.fault with
  | some fault => simp
  | none =>
      dsimp only
      split
      · next said => simp [said]
      · next said => simpa using said

/-- The results of a document hold a fault exactly if it tells one. -/
theorem fault_ne_none_iff {events : List Xml.Event} {results : Results}
    (found : Results.ofEvents? events = some results) :
    results.fault ≠ none ↔ ({} : Soap.Reading).TellsFault events := by
  obtain ⟨last, run, rfl⟩ := Option.map_eq_some_iff.mp found
  rw [Soap.Reading.fault_run run]
  simp

theorem read_eq_ok {body : String} {events : List Xml.Event} {results : Results}
    (read : Xml.readEvents? body = some events) (found : Results.ofEvents? events = some results) :
    Results.read body = .ok results := by
  rw [Results.read, read, Option.bind_some, found]

theorem readResults_of_text {body : String} (text : answer.text? = some body) :
    readResults answer =
      if !answer.isSuccess && !Text.occursIn "Fault".toList body.toList then
        .error (.unexpectedStatus answer.status body)
      else (Results.read body).bind Results.checked := by
  rw [readResults, text]

/-- A text is read only if it mentions a fault. -/
theorem exists_readResults_eq_error_iff_of_text {body : String} (failed : answer.isSuccess = false)
    (text : answer.text? = some body) :
    (∃ failure, readResults answer = .error failure) ↔
      Text.occursIn "Fault".toList body.toList = false ∨
        ∃ failure, (Results.read body).bind Results.checked = .error failure := by
  rw [readResults_of_text text, failed]
  generalize Text.occursIn "Fault".toList body.toList = mentions
  cases mentions with
  | false => simp
  | true => simp

theorem exists_readResults_eq_error_iff (failed : answer.isSuccess = false) :
    (∃ failure, readResults answer = .error failure) ↔ ShowsFailure answer := by
  constructor
  · intro fails
    cases text : answer.text? with
    | none => exact .brokenOff text
    | some body =>
        rcases (exists_readResults_eq_error_iff_of_text failed text).mp fails with absent | refused
        · exact .noMention text absent
        · cases read : Xml.readEvents? body with
          | none => exact .noDocument text read
          | some events =>
              cases found : Results.ofEvents? events with
              | none => exact .noText text read found
              | some results =>
                  rw [read_eq_ok read found] at refused
                  rcases exists_checked_eq_error_iff.mp refused with fault | ⟨said, reason⟩
                  · exact .fault text read ((fault_ne_none_iff found).mp fault)
                  · exact .unsuccessful text (read_eq_ok read found) said reason
  · intro shows
    cases shows with
    | brokenOff nothing => exact ⟨.brokenOff, by rw [readResults, nothing]⟩
    | noMention text absent =>
        exact (exists_readResults_eq_error_iff_of_text failed text).mpr (.inl absent)
    | noDocument text unread =>
        apply (exists_readResults_eq_error_iff_of_text failed text).mpr (.inr _)
        rw [Results.read, unread]
        exact ⟨_, rfl⟩
    | noText text read unread =>
        apply (exists_readResults_eq_error_iff_of_text failed text).mpr (.inr _)
        rw [Results.read, read, Option.bind_some, unread]
        exact ⟨_, rfl⟩
    | @fault body events text read told =>
        apply (exists_readResults_eq_error_iff_of_text failed text).mpr (.inr _)
        cases found : Results.ofEvents? events with
        | none =>
            rw [Results.read, read, Option.bind_some, found]
            exact ⟨_, rfl⟩
        | some results =>
            rw [read_eq_ok read found]
            exact exists_checked_eq_error_iff.mpr (.inl ((fault_ne_none_iff found).mpr told))
    | unsuccessful text read said reason =>
        apply (exists_readResults_eq_error_iff_of_text failed text).mpr (.inr _)
        rw [read]
        exact exists_checked_eq_error_iff.mpr (.inr ⟨said, reason⟩)

/-! ## Answers with a fault -/

variable {document : Xml.Document}

/-- A fault of the older kind makes every question fail, whatever else stands around it and whatever
the status is. -/
theorem exists_failure?_of_reportsFault {reason : String}
    (answered : (exchange network config query).result = .ok answer)
    (text : answer.text? = some document.written) (isOther : Soap.IsOther document.root.localName)
    (reports : Soap.ReportsFault reason document.inner) (earlier : List Query) :
    ∃ failure, (provider network config).failure? earlier query = some failure := by
  have error : ∃ failure, readResults answer = .error failure := by
    rw [readResults_of_text text]
    split
    · exact ⟨_, rfl⟩
    · rw [Results.read_of_reportsFault isOther reports]
      exact ⟨.backend reason, rfl⟩
  obtain ⟨failure, error⟩ := error
  exact ⟨failure, (failure?_eq_some_iff answered earlier).mpr error⟩

/-- A document that mentions a fault passes for an answer without any record if no name in it means
something, whatever the status is. -/
theorem findsNothing_of_isQuiet (answered : (exchange network config query).result = .ok answer)
    (text : answer.text? = some document.written)
    (mentions : Text.occursIn "Fault".toList document.written.toList = true)
    (isOther : Soap.IsOther document.root.localName) (quiet : Soap.IsQuiet document.inner)
    (earlier : List Query) : (provider network config).FindsNothing earlier query := by
  apply findsNothing_of_readResults answered
  rw [readResults_of_text text, mentions, Results.read_of_isQuiet isOther quiet, Bool.not_true,
    Bool.and_false, if_neg Bool.false_ne_true]
  rfl

/-- The answer to a failed call makes every question fail that it answers, if it shows a failure,
and none of them otherwise. -/
theorem failed_call_fails_iff (answered : (exchange network config query).result = .ok answer)
    (failed : answer.isSuccess = false) (earlier : List Query) :
    (∃ failure, (provider network config).failure? earlier query = some failure) ↔
      ShowsFailure answer := by
  rw [← exists_readResults_eq_error_iff failed]
  exact exists_congr fun _ => failure?_eq_some_iff answered earlier

/-- An answer with the status of an internal error. -/
def brokenAnswer (body : String) : Http.Answer :=
  ⟨500, .empty, Text.Utf8.ofText body, true⟩

/-- The configuration of a registry. -/
def registryConfig : Config :=
  ⟨.grouper, "http://registry.test", ⟨"user", "secret"⟩, 500, "example.org", "registry", true⟩

theorem result_exchange_of_brokenAnswer (body : String) (query : Query) :
    (exchange (fun _ => .answered 0 (brokenAnswer body)) registryConfig query).result =
      .ok (brokenAnswer body) := by
  have parses : (Http.Url.parse? registryConfig.url).isSome = true := by decide +kernel
  obtain ⟨url, parsed⟩ := Option.isSome_iff_exists.mp parses
  cases query <;>
    simp [exchange, askMemberships, Config.call, Http.Client.send, parsed, Http.Client.follow,
      Config.client, brokenAnswer, Http.Request.redirection]

/-- A fault of the older kind. -/
theorem failed_call_fails_iff_reason :
    let body := "<Envelope><Body><Fault><faultstring>down</faultstring></Fault></Body></Envelope>"
    let answer := brokenAnswer body
    let registry := provider (fun _ => .answered 0 answer) registryConfig
    (exchange (fun _ => .answered 0 answer) registryConfig .allGroups).result = .ok answer ∧
      answer.isSuccess = false ∧ registry.failure? [] .allGroups = some (.backend "down") ∧
      ShowsFailure answer := by
  intro body answer registry
  have answered := result_exchange_of_brokenAnswer body .allGroups
  have failed : answer.isSuccess = false := rfl
  have reason : registry.failure? [] .allGroups = some (.backend "down") := by
    apply (failure?_eq_some_iff answered []).mpr
    decide +kernel
  exact ⟨answered, failed, reason, (failed_call_fails_iff answered failed []).mp ⟨_, reason⟩⟩

/-- A fault of the newer kind, a fault whose reason is blank, and a line that mentions a fault. -/
theorem failed_call_finds_nothing :
    let person := "urn:collab:person:example.org:jane"
    let group := "urn:collab:group:example.org:lab"
    let passesForAnswer (body : String) :=
      let registry := provider (fun _ => .answered 0 (brokenAnswer body)) registryConfig
      (brokenAnswer body).isSuccess = false ∧ registry.FindsNothing [] (.memberships person) ∧
        registry.FindsNothing [] (.membership person group) ∧
        registry.FindsNothing [] (.members group) ∧ registry.FindsNothing [] .allGroups
    passesForAnswer
        "<Envelope><Body><Fault><Reason><Text>down</Text></Reason></Fault></Body></Envelope>" ∧
      passesForAnswer
        "<Envelope><Body><Fault><faultstring> </faultstring></Fault></Body></Envelope>" ∧
      passesForAnswer "Fault: no registry" := by
  intro person group passesForAnswer
  have passes {body : String} (read : readResults (brokenAnswer body) = .ok {}) :
      passesForAnswer body := by
    have nothing (query : Query) :
        (provider (fun _ => .answered 0 (brokenAnswer body)) registryConfig).FindsNothing []
          query :=
      findsNothing_of_readResults (result_exchange_of_brokenAnswer body query) [] read
    exact ⟨rfl, nothing _, nothing _, nothing _, nothing _⟩
  refine ⟨passes ?_, passes ?_, passes ?_⟩ <;> decide +kernel

end Grouper

end Provider

end GroupFederation
