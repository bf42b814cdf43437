import GroupFederation.Proofs.Token.Traffic

/-!
# Reading a history

The history of a chain in use says what validators were asked before, what calls took in, and how
evaluations ended. What it says of the past is not changed by what comes later.
-/

namespace GroupFederation.Token

/-- Whether an event is a question to the validator at a place. -/
def Event.asks (event : Event) (place : Nat) : Bool :=
  match event with
  | .asked other => other == place
  | _ => false

/-- The tokens that the validator at a place has been asked about. -/
def askedAt (place : Nat) (history : List Occurrence) : List String :=
  (history.filter fun occurrence => occurrence.event.asks place).map Occurrence.token

/-- Whether an evaluation of a token ends here in which somebody has answered. -/
def Occurrence.concludes (occurrence : Occurrence) (token : String) : Bool :=
  occurrence.token == token &&
    match occurrence.event with
    | .returned _ (.evaluation isAnswered) => isAnswered
    | _ => false

/-- The end of the last evaluation of a token in which somebody has answered. -/
def lastConclusion? (token : String) (history : List Occurrence) : Option Occurrence :=
  history.reverse.find? fun occurrence => occurrence.concludes token

/-- A call asked the validator at a place, and the result is what that validator makes of the token
after all it had been asked before. -/
def Asked (validators : List Validator) (history : List Occurrence) (number : Nat)
    (token : String) (place : Nat) (result : Except Failure Verdict) : Prop :=
  ∃ validator prior time later,
    validators[place]? = some validator ∧
    history = prior ++ ⟨time, number, token, .asked place⟩ :: later ∧
    (validator.appraise (askedAt place prior) token).result = result

/-- Some validator answered to a call. -/
def Heard (history : List Occurrence) (number : Nat) (token : String) : Prop :=
  ∃ time place verdict, ⟨time, number, token, .answered place (.ok verdict)⟩ ∈ history

/-- A validator gave a verdict to a call: it was asked, and the call took in what it said. -/
def Given (validators : List Validator) (history : List Occurrence) (number : Nat)
    (token : String) (verdict : Verdict) : Prop :=
  ∃ place, Asked validators history number token place (.ok verdict) ∧
    ∃ time, ⟨time, number, token, .answered place (.ok verdict)⟩ ∈ history

theorem Asked.append {validators : List Validator} {history : List Occurrence} {number : Nat}
    {token : String} {place : Nat} {result : Except Failure Verdict}
    (asked : Asked validators history number token place result) (more : List Occurrence) :
    Asked validators (history ++ more) number token place result := by
  obtain ⟨validator, prior, time, later, found, split, same⟩ := asked
  exact ⟨validator, prior, time, later ++ more, found, by simp [split], same⟩

theorem Heard.append {history : List Occurrence} {number : Nat} {token : String}
    (heard : Heard history number token) (more : List Occurrence) :
    Heard (history ++ more) number token := by
  obtain ⟨time, place, verdict, member⟩ := heard
  exact ⟨time, place, verdict, List.mem_append_left more member⟩

theorem Given.append {validators : List Validator} {history : List Occurrence} {number : Nat}
    {token : String} {verdict : Verdict} (given : Given validators history number token verdict)
    (more : List Occurrence) : Given validators (history ++ more) number token verdict := by
  obtain ⟨place, asked, time, member⟩ := given
  exact ⟨place, asked.append more, time, List.mem_append_left more member⟩

theorem askedAt_append_singleton (place : Nat) (history : List Occurrence)
    (occurrence : Occurrence) :
    askedAt place (history ++ [occurrence]) =
      askedAt place history ++ if occurrence.event.asks place then [occurrence.token] else [] := by
  by_cases asks : occurrence.event.asks place <;> simp [askedAt, asks]

theorem lastConclusion?_append_singleton (token : String) (history : List Occurrence)
    (occurrence : Occurrence) :
    lastConclusion? token (history ++ [occurrence]) =
      if occurrence.concludes token then some occurrence else lastConclusion? token history := by
  by_cases concludes : occurrence.concludes token <;> simp [lastConclusion?, concludes]

/-- A conclusion stands somewhere in the history and is one of the token. -/
theorem exists_split_of_lastConclusion? {token : String} {history : List Occurrence}
    {ended : Occurrence} (last : lastConclusion? token history = some ended) :
    ended.token = token ∧ ∃ prior later, history = prior ++ ended :: later := by
  have concludes := List.find?_some last
  have member : ended ∈ history := by simpa using List.mem_of_find?_eq_some last
  simp only [Occurrence.concludes, Bool.and_eq_true, beq_iff_eq] at concludes
  exact ⟨concludes.1, List.append_of_mem member⟩

end GroupFederation.Token
