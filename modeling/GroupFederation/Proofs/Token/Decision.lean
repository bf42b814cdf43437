import GroupFederation.Proofs.Token.Loss

/-!
# The decision on a token

A validator is steady when what it says of a token depends on that token alone; how long it takes
may vary. The validators of a chain then determine the decision on every token, whenever it is
asked for: it is the verdict of the first validator that accepts.

A chain agrees with its validators when whatever its cache holds is such a decision, and a call
agrees with them when the validators that it has already passed have left the decision open. Every
moment of a call keeps both, so that it makes no difference whether a verdict is evaluated or found
in the cache.
-/

namespace GroupFederation.Token

/-- What a validator says of a token when it has not been asked anything before. -/
def Validator.answer (validator : Validator) (token : String) : Except Failure Verdict :=
  (validator.appraise [] token).result

/-- A validator that says the same of a token whatever it was asked before. -/
def Validator.IsSteady (validator : Validator) : Prop :=
  ∀ earlier token, (validator.appraise earlier token).result = validator.answer token

/-- The verdict of the first validator that accepts a token; a token that nobody accepts is
invalid. -/
def decision (token : String) : List Validator → Verdict
  | [] => .invalid
  | validator :: validators =>
      match validator.answer token with
      | .ok verdict => if verdict.valid then verdict else decision token validators
      | .error _ => decision token validators

section Decision

variable {validators : List Validator} {place : Nat} {validator : Validator} {token : String}

theorem decision_drop_of_accepting {verdict : Verdict}
    (found : validators[place]? = some validator) (answer : validator.answer token = .ok verdict)
    (valid : verdict.valid) : decision token (validators.drop place) = verdict := by
  obtain ⟨inside, rfl⟩ := List.getElem?_eq_some_iff.mp found
  rw [List.drop_eq_getElem_cons inside]
  simp only [decision, answer, valid, if_true]

theorem decision_drop_of_not_accepting (found : validators[place]? = some validator)
    (refused : ∀ verdict, validator.answer token = .ok verdict → verdict.valid = false) :
    decision token (validators.drop place) = decision token (validators.drop (place + 1)) := by
  obtain ⟨inside, rfl⟩ := List.getElem?_eq_some_iff.mp found
  rw [List.drop_eq_getElem_cons inside]
  cases answer : validators[place].answer token with
  | ok verdict =>
      simp only [decision, answer, refused verdict answer, Bool.false_eq_true, if_false]
  | error failure => simp only [decision, answer]

theorem decision_drop_of_none (absent : validators[place]? = none) :
    decision token (validators.drop place) = .invalid := by
  rw [List.drop_eq_nil_of_le (List.getElem?_eq_none_iff.mp absent)]
  rfl

end Decision

/-! ## Agreement -/

/-- A chain of the given validators whose cache holds nothing but their decisions. -/
structure Chain.Agrees (chain : Chain) (validators : List Validator) : Prop where
  desks : chain.desks.map Desk.validator = validators
  stored : ∀ cache ∈ chain.cache, ∀ entry ∈ cache.entries,
    entry.verdict = decision entry.token validators

/-- A call that waits for what a validator says of its token, and for which the validators before
that one have decided nothing. -/
structure Call.Agrees (call : Call) (validators : List Validator) : Prop where
  asked : ∃ validator, validators[call.place]? = some validator ∧
    call.result = validator.answer call.token
  isOpen : decision call.token (validators.drop call.place) = decision call.token validators

/-- A call for a token that has come to the decision, or is on the way to it. -/
def Standing.Agrees (standing : Standing) (validators : List Validator) (token : String) : Prop :=
  match standing with
  | .decided verdict => verdict = decision token validators
  | .waiting call => call.token = token ∧ call.Agrees validators

/-- How many validators a call may have to hear, the one it waits for included. -/
def Standing.remaining (standing : Standing) (validators : List Validator) : Nat :=
  match standing with
  | .decided _ => 0
  | .waiting call => validators.length - call.place

/-- A waiting call has a validator to hear. -/
theorem Call.Agrees.place_lt {call : Call} {validators : List Validator}
    (agrees : call.Agrees validators) : call.place < validators.length := by
  obtain ⟨validator, found, -⟩ := agrees.asked
  exact (List.getElem?_eq_some_iff.mp found).1

/-- A chain and a call on it, in agreement, where no more than so many validators are still to be
heard. -/
structure OnTrack (validators : List Validator) (token : String) (bound : Nat)
    (next : Chain × Standing) : Prop where
  chain : next.1.Agrees validators
  standing : next.2.Agrees validators token
  remaining : next.2.remaining validators ≤ bound

namespace Chain.Agrees

variable {chain : Chain} {validators : List Validator}

theorem ofValidators (validators : List Validator) (ttl? : Option Nat) :
    (Chain.ofValidators validators (ttl?.map fun ttl => { ttl := ttl })).Agrees validators := by
  refine ⟨by simp [Chain.ofValidators, Function.comp_def], fun cache present => ?_⟩
  simp only [Chain.ofValidators, Option.mem_def, Option.map_eq_some_iff] at present
  obtain ⟨ttl, -, rfl⟩ := present
  simp

theorem length_desks (agrees : chain.Agrees validators) :
    chain.desks.length = validators.length := by
  rw [← agrees.desks, List.length_map]

/-- Losing entries does no harm. -/
theorem shrink (agrees : chain.Agrees validators) {smaller : Chain}
    (within : smaller.Within chain) : smaller.Agrees validators := by
  refine ⟨by rw [within.desks, agrees.desks], fun cache present entry member => ?_⟩
  obtain ⟨other, otherPresent, cacheWithin⟩ := within.cache cache present
  exact agrees.stored other otherPresent entry (cacheWithin.entries entry member)

theorem remember (agrees : chain.Agrees validators) (now : Nat) (token : String) :
    (chain.remember now token (decision token validators)).Agrees validators := by
  refine ⟨agrees.desks, fun cache present entry member => ?_⟩
  simp only [Chain.remember, Option.mem_def, Option.map_eq_some_iff] at present
  obtain ⟨earlier, earlierPresent, rfl⟩ := present
  rcases Cache.mem_entries_put.mp member with ⟨kept, -⟩ | rfl
  · exact agrees.stored earlier earlierPresent entry kept
  · rfl

theorem afterAsking (agrees : chain.Agrees validators) (place : Nat) (token : String)
    (appraisal : Appraisal) : (chain.afterAsking place token appraisal).Agrees validators := by
  refine ⟨?_, agrees.stored⟩
  -- The desk that is asked writes the token down and keeps its validator.
  rw [← agrees.desks]
  refine List.ext_getElem? fun other => ?_
  simp only [Chain.afterAsking, List.getElem?_map, List.getElem?_modify]
  by_cases same : place = other <;> simp [same, Function.comp_def]

/-- What is remembered is the decision. -/
theorem eq_decision_of_remembered (agrees : chain.Agrees validators) {now : Nat} {token : String}
    {verdict : Verdict} (remembered : chain.remembered? now token = some verdict) :
    verdict = decision token validators := by
  simp only [Chain.remembered?, Option.bind_eq_some_iff] at remembered
  obtain ⟨cache, present, found⟩ := remembered
  obtain ⟨entry, member, rfl, rfl, -⟩ := Cache.exists_entry_of_get found
  exact (agrees.shrink (.sweepUpTo chain now)).stored cache present entry member

/-! ## The moments of a call -/

/-- A call goes on to a validator, or ends, when those before that one have decided nothing. -/
theorem proceed (agrees : chain.Agrees validators)
    (steady : ∀ validator ∈ validators, validator.IsSteady) (now : Nat) {token : String}
    {place : Nat} (isAnswered : Bool)
    (isOpen : decision token (validators.drop place) = decision token validators) :
    OnTrack validators token (validators.length - place)
      (chain.proceed now token place isAnswered) := by
  have located : validators[place]? = chain.desks[place]?.map Desk.validator := by
    rw [← agrees.desks, List.getElem?_map]
  cases found : chain.desks[place]? with
  | some desk =>
      rw [found, Option.map_some] at located
      have sameAnswer := steady desk.validator (List.mem_of_getElem? located) desk.asked token
      rw [Chain.proceed_of_desk found]
      exact ⟨agrees.afterAsking place token _,
        ⟨rfl, ⟨desk.validator, located, sameAnswer⟩, isOpen⟩, Nat.le_refl _⟩
  | none =>
      rw [found, Option.map_none] at located
      have nobody : decision token validators = .invalid := by
        rw [← isOpen, decision_drop_of_none located]
      rw [Chain.proceed_of_no_desk found]
      refine ⟨?_, nobody.symm, Nat.zero_le _⟩
      cases isAnswered with
      | true => exact nobody ▸ agrees.remember now token
      | false => exact agrees

/-- A call takes in an answer, and has fewer validators to hear from then on. -/
theorem receive (agrees : chain.Agrees validators)
    (steady : ∀ validator ∈ validators, validator.IsSteady) (now : Nat) {call : Call}
    (callAgrees : call.Agrees validators) :
    OnTrack validators call.token (validators.length - (call.place + 1))
      (chain.receive now call) := by
  obtain ⟨⟨validator, found, answer⟩, isOpen⟩ := callAgrees
  have swept := agrees.shrink (.sweepUpTo chain now)
  rcases Chain.accepts_or_refuses call.result with ⟨verdict, result, valid⟩ | refused
  · have decided : verdict = decision call.token validators := by
      rw [← isOpen, decision_drop_of_accepting found (answer ▸ result) valid]
    rw [Chain.receive_of_accepting result valid]
    exact ⟨decided ▸ swept.remember now call.token, decided, Nat.zero_le _⟩
  · rw [Chain.receive_of_not_accepting refused]
    refine swept.proceed steady now _ ?_
    rw [← isOpen, decision_drop_of_not_accepting found (answer ▸ refused)]

theorem start (agrees : chain.Agrees validators)
    (steady : ∀ validator ∈ validators, validator.IsSteady) (now : Nat) (token : String) :
    OnTrack validators token validators.length (chain.start now token) := by
  cases remembered : chain.remembered? now token with
  | some verdict =>
      have swept := agrees.shrink (.sweepUpTo chain now)
      rw [Chain.start_of_remembered remembered]
      exact ⟨⟨swept.desks, swept.stored⟩, agrees.eq_decision_of_remembered remembered,
        Nat.zero_le _⟩
  | none =>
      have isOpen : decision token (validators.drop 0) = decision token validators := by
        rw [List.drop_zero]
      rw [Chain.start_of_not_remembered remembered]
      exact (agrees.shrink (.afterMiss chain now token)).proceed steady now false isOpen

/-! ## One call on its own -/

/-- A call that is followed as far as its validators go comes to the decision. -/
theorem finish (steady : ∀ validator ∈ validators, validator.IsSteady) {token : String}
    (bound : Nat) {chain : Chain} (now : Nat) {standing : Standing}
    (onTrack : OnTrack validators token bound (chain, standing)) :
    (chain.finish bound now standing).1.Agrees validators ∧
      (chain.finish bound now standing).2.1 = decision token validators := by
  induction bound generalizing chain now standing with
  | zero =>
      cases standing with
      | decided verdict => exact ⟨onTrack.chain, onTrack.standing⟩
      | waiting call =>
          have inside := onTrack.standing.2.place_lt
          have atMost : validators.length - call.place ≤ 0 := onTrack.remaining
          omega
  | succ bound inductionHypothesis =>
      cases standing with
      | decided verdict => exact ⟨onTrack.chain, onTrack.standing⟩
      | waiting call =>
          obtain ⟨rfl, callAgrees⟩ := onTrack.standing
          have atMost : validators.length - call.place ≤ bound + 1 := onTrack.remaining
          have next := onTrack.chain.receive steady call.due callAgrees
          exact inductionHypothesis call.due
            ⟨next.chain, next.standing, Nat.le_trans next.remaining (by omega)⟩

/-- The verdict on a token is the decision, whatever is in the cache. -/
theorem validate (agrees : chain.Agrees validators)
    (steady : ∀ validator ∈ validators, validator.IsSteady) (now : Nat) (token : String) :
    (chain.validate now token).1.Agrees validators ∧
      (chain.validate now token).2.1 = decision token validators := by
  have begun := agrees.start steady now token
  exact finish steady chain.desks.length now
    ⟨begun.chain, begun.standing, agrees.length_desks ▸ begun.remaining⟩

end Chain.Agrees

end GroupFederation.Token
