import GroupFederation.Proofs.Http.Redaction
import GroupFederation.Token.Chain
import GroupFederation.Token.Introspection

/-!
# The validation chain and who sends its requests

The secret of an authorization server's entry is shown in the `authorization` fields of requests and
nowhere else. A chain whose requests are redacted does what the chain does: at every moment of a call
it asks the same validators, remembers the same verdicts and comes to the same decisions.
-/

namespace GroupFederation.Token

/-! ## Entries -/

namespace ServerEntry

/-- An entry without its secret. -/
def redacted (entry : ServerEntry) : ServerEntry :=
  { entry with secret := "" }

/-- Entries are checked without regard to their secrets. -/
theorem checkAll_redacted (entries : List ServerEntry) :
    checkAll (entries.map redacted) = checkAll entries := by
  induction entries with
  | nil => rfl
  | cons entry entries inductionHypothesis =>
      have same : entry.redacted.check = entry.check := rfl
      simp only [List.map_cons, checkAll, same, inductionHypothesis]

theorem redacted_headers (entry : ServerEntry) (url : Http.Url) :
    (entry.headers url).redacted = (entry.redacted.headers url).redacted := by
  simp [headers, redacted, Http.Headers.redacted, Http.Headers.redactField]

end ServerEntry

/-! ## Validators and chains without who sends their requests -/

/-- An appraisal whose requests are redacted. -/
def Appraisal.redacted (appraisal : Appraisal) : Appraisal :=
  { appraisal with sent := appraisal.sent.map Http.Request.redacted }

/-- A validator of whose requests nobody sees who sends them. -/
def Validator.redacted (validator : Validator) : Validator :=
  { validator with appraise := fun earlier token => (validator.appraise earlier token).redacted }

/-- What the validator of a server with some name makes of an exchange. -/
def Appraisal.ofExchange (name : String) (exchange : Http.Exchange) : Appraisal where
  delay := exchange.elapsed
  result := match exchange.result with
    | .error _ => .error .connection
    | .ok answer => Introspection.readAnswer name answer
  sent := exchange.arrived

theorem ServerEntry.validator_eq (entry : ServerEntry) (network : Http.Network) :
    entry.validator network =
      ⟨entry.name, fun _ token => .ofExchange entry.name (entry.send network token)⟩ := by
  refine congrArg (Validator.mk entry.name) (funext fun _ => funext fun token => ?_)
  generalize entry.send network token = exchange
  obtain ⟨elapsed, arrived, result⟩ := exchange
  cases result <;> rfl

/-- Without its secret, an entry makes the same validator up to who sends its requests. -/
theorem ServerEntry.redacted_validator {network : Http.Network}
    (ignores : network.IgnoresCredentials) (entry : ServerEntry) :
    (entry.validator network).redacted = (entry.redacted.validator network).redacted := by
  have name : entry.redacted.name = entry.name := rfl
  have taken (exchange : Http.Exchange) : (Appraisal.ofExchange entry.name exchange).redacted =
      .ofExchange entry.name exchange.redacted := rfl
  have alike (token : String) :
      (entry.send network token).redacted = (entry.redacted.send network token).redacted :=
    Http.Client.redacted_send ignores _ _ entry.redacted_headers _
  simp only [validator_eq, Validator.redacted, name, taken, alike]

/-- A desk whose validator is redacted. -/
def Desk.redacted (desk : Desk) : Desk :=
  { desk with validator := desk.validator.redacted }

namespace Chain

/-- The chain with its validators and all its requests redacted. -/
def redacted (chain : Chain) : Chain :=
  { chain with
    desks := chain.desks.map Desk.redacted
    sent := chain.sent.map Http.Request.redacted }

theorem redacted_ofValidators (validators : List Validator) (cache : Option Cache) :
    (ofValidators validators cache).redacted =
      ofValidators (validators.map Validator.redacted) cache := by
  simp only [ofValidators, redacted, List.map_map]
  rfl

/-! ## The moments of a call -/

theorem proceed_redacted (chain : Chain) (now : Nat) (token : String) (place : Nat)
    (isAnswered : Bool) :
    chain.redacted.proceed now token place isAnswered =
      (chain.proceed now token place isAnswered).map redacted id := by
  have noted : (chain.desks.modify place fun desk =>
        { desk with asked := desk.asked ++ [token] }).map Desk.redacted =
      (chain.desks.map Desk.redacted).modify place fun desk =>
        { desk with asked := desk.asked ++ [token] } := by
    apply Http.map_modify
    intro desk
    rfl
  have found : chain.redacted.desks[place]? = chain.desks[place]?.map Desk.redacted := by
    simp [redacted]
  simp only [proceed, found]
  cases chain.desks[place]? with
  | none => cases isAnswered <;> rfl
  | some desk =>
      simp only [Option.map_some, Prod.map, redacted, List.map_append, noted]
      rfl

theorem receive_redacted (chain : Chain) (now : Nat) (call : Call) :
    chain.redacted.receive now call = (chain.receive now call).map redacted id := by
  have swept : chain.redacted.sweepUpTo now = (chain.sweepUpTo now).redacted := rfl
  simp only [receive, swept]
  cases call.result with
  | error failure => exact proceed_redacted ..
  | ok verdict =>
      dsimp only
      split
      · rfl
      · exact proceed_redacted ..

theorem start_redacted (chain : Chain) (now : Nat) (token : String) :
    chain.redacted.start now token = (chain.start now token).map redacted id := by
  have swept : chain.redacted.sweepUpTo now = (chain.sweepUpTo now).redacted := rfl
  have cache : (chain.sweepUpTo now).redacted.cache = (chain.sweepUpTo now).cache := rfl
  simp only [start, swept, cache]
  cases (chain.sweepUpTo now).cache with
  | none => exact proceed_redacted ..
  | some cache =>
      dsimp only
      rcases cache.get now token with ⟨_ | verdict, cache⟩
      · exact proceed_redacted ({ chain.sweepUpTo now with cache := some cache }.count .miss) ..
      · rfl

/-- A call comes to its end at the same time and with the same verdict. -/
theorem finish_redacted (bound : Nat) (chain : Chain) (now : Nat) (standing : Standing) :
    finish bound chain.redacted now standing =
      (finish bound chain now standing).map redacted id := by
  induction bound generalizing chain now standing with
  | zero => cases standing <;> rfl
  | succ bound inductionHypothesis =>
      cases standing with
      | decided verdict => rfl
      | waiting call =>
          simp only [finish, receive_redacted]
          exact inductionHypothesis ..

theorem validate_redacted (chain : Chain) (now : Nat) (token : String) :
    chain.redacted.validate now token = (chain.validate now token).map redacted id := by
  have length : chain.redacted.desks.length = chain.desks.length := by
    simp [redacted]
  simp only [validate, start_redacted, length]
  exact finish_redacted ..

end Chain

end GroupFederation.Token
