import GroupFederation.Proofs.Token.Course
import GroupFederation.Proofs.Token.Provenance
import GroupFederation.Proofs.Token.Sweeping
import Mathlib.Algebra.Ring.Nat

/-!
# One evaluation on its own

A call that finds nothing remembered asks the validators one after the other and each of them once,
past failures and refusals, up to the first one that accepts; it does not matter what the others
would say. The verdict of that one is returned, or that of nobody if there is none, and remembered
if somebody has answered. What follows is said of a call that no other call comes between, on a
chain that has been used before in whatever way.
-/

namespace GroupFederation.Token

/-! ## What an evaluation comes to -/

namespace Desk

/-- What the validator says of a token if it is asked now. -/
def appraise (token : String) (desk : Desk) : Appraisal :=
  desk.validator.appraise desk.asked token

/-- The desk after one more question. -/
def ask (token : String) (desk : Desk) : Desk :=
  { desk with asked := desk.asked ++ [token] }

/-- Whether the validator answers, be it with a refusal. -/
def answers (token : String) (desk : Desk) : Bool :=
  (desk.appraise token).result.isOk

/-- The verdict of the validator if it is a positive one. -/
def acceptance? (token : String) (desk : Desk) : Option Verdict :=
  (desk.appraise token).result.toOption.filter Verdict.valid

variable {token : String} {desk : Desk}

theorem acceptance?_of_accepting {verdict : Verdict}
    (answer : (desk.appraise token).result = .ok verdict) (valid : verdict.valid) :
    desk.acceptance? token = some verdict := by
  simp [acceptance?, answer, valid, Except.toOption]

theorem acceptance?_of_not_accepting
    (refused : ∀ verdict, (desk.appraise token).result = .ok verdict → verdict.valid = false) :
    desk.acceptance? token = none := by
  unfold acceptance?
  cases answer : (desk.appraise token).result with
  | error failure => rfl
  | ok verdict => simp [refused verdict answer, Except.toOption]

end Desk

/-- How many validators an evaluation gets to ask: those up to the first one that accepts, and all
of them if nobody does. -/
def reach (token : String) (desks : List Desk) : Nat :=
  desks.findIdx (fun desk => (desk.acceptance? token).isSome) + 1

/-- The validators that an evaluation asks. -/
def heard (token : String) (desks : List Desk) : List Desk :=
  desks.take (reach token desks)

/-- The validators that an evaluation has no need to ask. -/
def spared (token : String) (desks : List Desk) : List Desk :=
  desks.drop (reach token desks)

/-- The first positive verdict, and that of nobody if there is none. -/
def conclusion (token : String) (desks : List Desk) : Verdict :=
  (desks.findSome? (Desk.acceptance? token)).getD .invalid

/-- How long it takes to ask validators one after the other. -/
def duration (token : String) (desks : List Desk) : Nat :=
  (desks.map fun desk => (desk.appraise token).delay).sum

/-- The events of asking validators one after the other, the first of which is at a place. -/
def exchanges (number : Nat) (token : String) : (place now : Nat) → List Desk → List Occurrence
  | _, _, [] => []
  | place, now, desk :: desks =>
      let appraisal := desk.appraise token
      ⟨now, number, token, .asked place⟩ ::
        ⟨now + appraisal.delay, number, token, .answered place appraisal.result⟩ ::
          exchanges number token (place + 1) (now + appraisal.delay) desks

/-- The moves of a call that hears validators one after the other, each as soon as its answer is
there. -/
def hearing (number : Nat) (token : String) (desks : List Desk) : List Move :=
  desks.flatMap fun desk => [.wait (desk.appraise token).delay, .hear number]

section FirstDesk

variable {token : String} {desk : Desk} {desks : List Desk} {verdict : Verdict}

theorem heard_of_accepting (accepts : desk.acceptance? token = some verdict) :
    heard token (desk :: desks) = [desk] := by
  simp [heard, reach, List.findIdx_cons, accepts]

theorem spared_of_accepting (accepts : desk.acceptance? token = some verdict) :
    spared token (desk :: desks) = desks := by
  simp [spared, reach, List.findIdx_cons, accepts]

theorem conclusion_of_accepting (accepts : desk.acceptance? token = some verdict) :
    conclusion token (desk :: desks) = verdict := by
  simp [conclusion, accepts]

theorem heard_of_not_accepting (refuses : desk.acceptance? token = none) :
    heard token (desk :: desks) = desk :: heard token desks := by
  simp [heard, reach, List.findIdx_cons, refuses]

theorem spared_of_not_accepting (refuses : desk.acceptance? token = none) :
    spared token (desk :: desks) = spared token desks := by
  simp [spared, reach, List.findIdx_cons, refuses]

theorem conclusion_of_not_accepting (refuses : desk.acceptance? token = none) :
    conclusion token (desk :: desks) = conclusion token desks := by
  simp [conclusion, refuses]

end FirstDesk

namespace Chain

/-- A chain at the end of an evaluation that has passed some validators already, with or without an
answer, and comes to the remaining ones. -/
def evaluated (chain : Chain) (finish : Nat) (token : String) (passed remaining : List Desk)
    (isAnswered : Bool) : Chain :=
  { chain with
    desks := passed ++ (heard token remaining).map (Desk.ask token) ++ spared token remaining
    sent := chain.sent ++ (heard token remaining).flatMap fun desk => (desk.appraise token).sent
    cache := chain.cache.map fun cache =>
      if isAnswered || (heard token remaining).any (Desk.answers token) then
        (cache.sweepUpTo finish).put finish token (conclusion token remaining)
      else cache.sweepUpTo finish }

variable {chain : Chain} {now finish : Nat} {token : String} {passed remaining : List Desk}
  {desk : Desk} {isAnswered : Bool}

/-- The cache has been swept up to a time. -/
def IsSwept (chain : Chain) (now : Nat) : Prop :=
  chain.sweepUpTo now = chain

/-! ## The moments of an evaluation -/

theorem proceed_of_remaining (desks : chain.desks = passed ++ desk :: remaining) :
    chain.proceed now token passed.length isAnswered =
      (chain.afterAsking passed.length token (desk.appraise token),
        .waiting ⟨token, passed.length, isAnswered, now + (desk.appraise token).delay,
          (desk.appraise token).result⟩) :=
  proceed_of_desk (by simp [desks])

theorem desks_afterAsking (token : String) (desks : chain.desks = passed ++ desk :: remaining) :
    (chain.afterAsking passed.length token (desk.appraise token)).desks =
      passed ++ desk.ask token :: remaining := by
  simp [afterAsking, desks, List.modify_eq_take_cons_drop, Desk.ask]

/-- There is nobody left to ask. -/
theorem proceed_of_none_remaining (swept : chain.IsSwept now) (desks : chain.desks = passed) :
    chain.proceed now token passed.length isAnswered =
      (chain.evaluated now token passed [] isAnswered, .decided .invalid) := by
  have settled : chain.cache.map (fun cache => cache.sweepUpTo now) = chain.cache :=
    congrArg Chain.cache swept
  have unchanged : chain.evaluated now token passed [] false = chain := by
    simp [evaluated, heard, spared, ← desks, settled]
  have remembered :
      chain.evaluated now token passed [] true = chain.remember now token .invalid := by
    rw [remember, ← settled]
    simp [evaluated, heard, spared, conclusion, ← desks, Function.comp_def]
  rw [proceed_of_no_desk (by simp [desks])]
  cases isAnswered with
  | false => rw [unchanged]; rfl
  | true => rw [remembered]; rfl

/-- The validator accepts, and the evaluation is over. -/
theorem receive_of_acceptance (desks : chain.desks = passed ++ desk :: remaining)
    {verdict : Verdict} (answer : (desk.appraise token).result = .ok verdict)
    (valid : verdict.valid) :
    (chain.afterAsking passed.length token (desk.appraise token)).receive finish
        ⟨token, passed.length, isAnswered, finish, (desk.appraise token).result⟩ =
      (chain.evaluated finish token passed (desk :: remaining) isAnswered,
        .decided verdict) := by
  have accepts := Desk.acceptance?_of_accepting answer valid
  have isOk : desk.answers token := by simp [Desk.answers, answer, Except.isOk, Except.toBool]
  have asked := desks_afterAsking token desks
  simp only [afterAsking] at asked
  rw [receive_of_accepting answer valid]
  simp [evaluated, remember, sweepUpTo, afterAsking, asked, heard_of_accepting accepts,
    spared_of_accepting accepts, conclusion_of_accepting accepts, isOk, Function.comp_def]

/-- The validator does not accept, and the evaluation goes on. -/
theorem receive_of_refusal (refused : ∀ verdict, (desk.appraise token).result = .ok verdict →
      verdict.valid = false) :
    (chain.afterAsking passed.length token (desk.appraise token)).receive finish
        ⟨token, passed.length, isAnswered, finish, (desk.appraise token).result⟩ =
      ((chain.afterAsking passed.length token (desk.appraise token)).sweepUpTo finish).proceed
        finish token (passed ++ [desk.ask token]).length (isAnswered || desk.answers token) := by
  rw [receive_of_not_accepting refused, List.length_append, List.length_singleton]
  rfl

/-- What an evaluation comes to is what it comes to after its first refusal. -/
theorem evaluated_of_refusal (chain : Chain) (passed remaining : List Desk) (isAnswered : Bool)
    (refuses : desk.acceptance? token = none) (ordered : now ≤ finish) :
    ((chain.afterAsking passed.length token (desk.appraise token)).sweepUpTo now).evaluated finish
        token (passed ++ [desk.ask token]) remaining (isAnswered || desk.answers token) =
      chain.evaluated finish token passed (desk :: remaining) isAnswered := by
  simp [evaluated, sweepUpTo, afterAsking, heard_of_not_accepting refuses,
    spared_of_not_accepting refuses, conclusion_of_not_accepting refuses,
    Cache.sweepUpTo_sweepUpTo _ ordered, Function.comp_def, Bool.or_assoc]

theorem isSwept_sweepUpTo (chain : Chain) (now : Nat) : (chain.sweepUpTo now).IsSwept now := by
  simp [IsSwept, sweepUpTo, Cache.sweepUpTo_sweepUpTo _ (Nat.le_refl now), Function.comp_def]

theorem duration_of_refusal (refuses : desk.acceptance? token = none) :
    now + (desk.appraise token).delay + duration token (heard token remaining) =
      now + duration token (heard token (desk :: remaining)) := by
  simp [duration, heard_of_not_accepting refuses, Nat.add_assoc]

/-- An evaluation that is followed to its end. -/
theorem finish_proceed {bound : Nat} (swept : chain.IsSwept now)
    (desks : chain.desks = passed ++ remaining) (enough : remaining.length ≤ bound) :
    (chain.proceed now token passed.length isAnswered).1.finish bound now
        (chain.proceed now token passed.length isAnswered).2 =
      (chain.evaluated (now + duration token (heard token remaining)) token passed remaining
          isAnswered,
        conclusion token remaining, now + duration token (heard token remaining)) := by
  induction remaining generalizing chain now passed isAnswered bound with
  | nil =>
      rw [proceed_of_none_remaining swept (by simpa using desks), Chain.finish]
      rfl
  | cons desk remaining inductionHypothesis =>
      obtain ⟨bound, rfl⟩ : ∃ less, bound = less + 1 :=
        Nat.exists_eq_succ_of_ne_zero (Nat.ne_zero_of_lt enough)
      rw [proceed_of_remaining desks, Chain.finish]
      rcases accepts_or_refuses (desk.appraise token).result with
        ⟨verdict, answer, valid⟩ | refused
      · have accepts := Desk.acceptance?_of_accepting answer valid
        simp only [receive_of_acceptance desks answer valid, Chain.finish, duration,
          heard_of_accepting accepts, conclusion_of_accepting accepts, List.map_singleton,
          List.sum_singleton]
      · have refuses := Desk.acceptance?_of_not_accepting refused
        simp only [receive_of_refusal refused]
        rw [inductionHypothesis (isSwept_sweepUpTo _ _)
            (by simp [sweepUpTo, desks_afterAsking _ desks]) (Nat.le_of_succ_le_succ enough),
          evaluated_of_refusal _ _ _ _ refuses (Nat.le_add_right _ _), duration_of_refusal refuses,
          conclusion_of_not_accepting refuses]

end Chain

namespace Traffic

/-- A call that begins to wait and that is heard as soon as its answer is there. -/
theorem run_wait_hear (opened : Traffic) (call : Call) {number delay : Nat}
    (others : ∀ call, (number, call) ∉ opened.waiting)
    (isDue : call.due = opened.now + delay) :
    let asked := opened.note number call.token (.asked call.place)
    let next := opened.chain.receive call.due call
    { asked with waiting := opened.waiting ++ [(number, call)] }.run [.wait delay, .hear number] =
      ({ asked with chain := next.1, now := call.due }.note number call.token
        (.answered call.place call.result)).settle number call.token
          (.evaluation (call.isAnswered || call.result.isOk)) next.2 := by
  intro asked next
  have differ : ∀ entry ∈ opened.waiting, entry.1 ≠ number := by
    rintro ⟨_, earlier⟩ member rfl
    exact others earlier member
  have absent : opened.waiting.lookup number = none := by
    rw [List.lookup_eq_none_iff]
    exact fun entry member => bne_iff_ne.mpr (differ entry member).symm
  have found : (opened.waiting ++ [(number, call)]).lookup number = some call := by
    simp [List.lookup_append, absent]
  have left : (opened.waiting ++ [(number, call)]).filter (fun entry => entry.1 != number) =
      opened.waiting := by
    rw [List.filter_append, List.filter_eq_self.mpr]
    · simp
    · exact fun entry member => bne_iff_ne.mpr (differ entry member)
  simp only [run, List.foldl_cons, List.foldl_nil, step, found, isDue, Nat.le_refl, if_true,
    Traffic.hear, note, left, asked, next]

/-- A chain in use after a validator has been asked and what it says has been taken in. -/
def afterHearing (opened : Traffic) (number : Nat) (token : String) (place : Nat)
    (desk : Desk) : Traffic :=
  let appraisal := desk.appraise token
  { opened.note number token (.asked place) with
    chain := (opened.chain.afterAsking place token appraisal).sweepUpTo
      (opened.now + appraisal.delay)
    now := opened.now + appraisal.delay }.note number token (.answered place appraisal.result)

section Remaining

variable {opened : Traffic} {number : Nat} {token : String} {passed remaining : List Desk}
  {desk : Desk} {isAnswered : Bool}

/-- A call that hears the next validator accept. -/
theorem run_of_acceptance (desks : opened.chain.desks = passed ++ desk :: remaining)
    (others : ∀ call, (number, call) ∉ opened.waiting) {verdict : Verdict}
    (answer : (desk.appraise token).result = .ok verdict) (valid : verdict.valid) :
    let next := opened.chain.proceed opened.now token passed.length isAnswered
    let ending := opened.now + (desk.appraise token).delay
    ({ opened with chain := next.1 }.settle number token (.evaluation isAnswered) next.2).run
        [.wait (desk.appraise token).delay, .hear number] =
      { opened with
        chain := opened.chain.evaluated ending token passed (desk :: remaining) isAnswered
        now := ending
        history := opened.history ++
          (exchanges number token passed.length opened.now [desk] ++
            [⟨ending, number, token, .returned verdict (.evaluation true)⟩]) } := by
  intro next ending
  have asking : next = _ := Chain.proceed_of_remaining desks
  rw [asking]
  refine (run_wait_hear
    { opened with
      chain := opened.chain.afterAsking passed.length token (desk.appraise token) }
    ⟨token, passed.length, isAnswered, ending, (desk.appraise token).result⟩ others rfl).trans ?_
  rw [Chain.receive_of_acceptance desks answer valid]
  simp [settle, note, ending, exchanges, answer, Except.isOk, Except.toBool]

/-- A call that hears the next validator refuse, or fail, comes to the one after that. -/
theorem run_of_refusal (desks : opened.chain.desks = passed ++ desk :: remaining)
    (others : ∀ call, (number, call) ∉ opened.waiting)
    (refused : ∀ verdict, (desk.appraise token).result = .ok verdict → verdict.valid = false) :
    let next := opened.chain.proceed opened.now token passed.length isAnswered
    let passing := opened.afterHearing number token passed.length desk
    let further := passing.chain.proceed passing.now token (passed ++ [desk.ask token]).length
      (isAnswered || desk.answers token)
    ({ opened with chain := next.1 }.settle number token (.evaluation isAnswered) next.2).run
        [.wait (desk.appraise token).delay, .hear number] =
      { passing with chain := further.1 }.settle number token
        (.evaluation (isAnswered || desk.answers token)) further.2 := by
  intro next passing further
  have asking : next = _ := Chain.proceed_of_remaining desks
  rw [asking]
  refine (run_wait_hear
    { opened with
      chain := opened.chain.afterAsking passed.length token (desk.appraise token) }
    ⟨token, passed.length, isAnswered, opened.now + (desk.appraise token).delay,
      (desk.appraise token).result⟩ others rfl).trans ?_
  rw [Chain.receive_of_refusal refused]
  rfl

end Remaining

/-- An evaluation whose call hears every validator as soon as its answer is there: what becomes of
the chain, when it is over, and what has been written down. -/
theorem run_proceed (opened : Traffic) (number : Nat) (token : String)
    (passed : List Desk) {remaining : List Desk} (isAnswered : Bool)
    (swept : opened.chain.IsSwept opened.now)
    (desks : opened.chain.desks = passed ++ remaining)
    (others : ∀ call, (number, call) ∉ opened.waiting) :
    let next := opened.chain.proceed opened.now token passed.length isAnswered
    let ending := opened.now + duration token (heard token remaining)
    ({ opened with chain := next.1 }.settle number token (.evaluation isAnswered) next.2).run
        (hearing number token (heard token remaining)) =
      { opened with
        chain := opened.chain.evaluated ending token passed remaining isAnswered
        now := ending
        history := opened.history ++
          (exchanges number token passed.length opened.now (heard token remaining) ++
            [⟨ending, number, token, .returned (conclusion token remaining)
              (.evaluation
                (isAnswered || (heard token remaining).any (Desk.answers token)))⟩]) } := by
  induction remaining generalizing opened passed isAnswered with
  | nil =>
      intro next ending
      have nobody : next = _ := Chain.proceed_of_none_remaining swept (by simpa using desks)
      rw [nobody]
      simp [heard, hearing, exchanges, conclusion, duration, run, settle, note, ending]
  | cons desk remaining inductionHypothesis =>
      intro next ending
      rcases Chain.accepts_or_refuses (desk.appraise token).result with
        ⟨verdict, answer, valid⟩ | refused
      · have accepts := Desk.acceptance?_of_accepting answer valid
        have one : hearing number token (heard token (desk :: remaining)) =
            [.wait (desk.appraise token).delay, .hear number] := by
          simp [hearing, heard_of_accepting accepts]
        have isOk : desk.answers token := by simp [Desk.answers, answer, Except.isOk, Except.toBool]
        rw [one]
        refine (run_of_acceptance desks others answer valid).trans ?_
        simp [ending, duration, heard_of_accepting accepts, conclusion_of_accepting accepts, isOk]
      · have refuses := Desk.acceptance?_of_not_accepting refused
        have more : hearing number token (heard token (desk :: remaining)) =
            [.wait (desk.appraise token).delay, .hear number] ++
              hearing number token (heard token remaining) := by
          simp [hearing, heard_of_not_accepting refuses]
        have ends : opened.now + (desk.appraise token).delay +
            duration token (heard token remaining) = ending :=
          Chain.duration_of_refusal refuses
        have chains := opened.chain.evaluated_of_refusal passed remaining isAnswered refuses
          (Nat.le_add_right (opened.now + (desk.appraise token).delay)
            (duration token (heard token remaining)))
        rw [ends] at chains
        rw [more, run, List.foldl_append]
        refine (congrArg (fun traffic : Traffic => traffic.run _)
          (run_of_refusal desks others refused)).trans ?_
        refine (inductionHypothesis (opened.afterHearing number token passed.length desk)
          (passed ++ [desk.ask token]) (isAnswered || desk.answers token)
          (Chain.isSwept_sweepUpTo _ _)
          (by simp [afterHearing, note, Chain.sweepUpTo, Chain.desks_afterAsking _ desks])
          others).trans ?_
        simp [afterHearing, note, ends, chains, exchanges, heard_of_not_accepting refuses,
          conclusion_of_not_accepting refuses, Bool.or_assoc]

end Traffic

/-! ## The whole evaluation -/

namespace Chain

variable {chain : Chain} {now : Nat} {token : String}

/-- A look-up that finds nothing takes away what is stale of its token. -/
theorem cache_afterMiss_of_absent (absent : chain.remembered? now token = none) :
    (chain.afterMiss now token).cache =
      chain.cache.map fun cache => (cache.erase token).sweepUpTo now := by
  rw [Traffic.cache_afterMiss]
  cases present : chain.cache with
  | none => rfl
  | some cache =>
      have missed : ((cache.sweepUpTo now).get now token).1 = none := by
        simpa [remembered?, sweepUpTo, present] using absent
      rw [Option.map_some, Option.map_some, Cache.get_of_miss missed, Cache.erase_sweepUpTo]

theorem isSwept_afterMiss (absent : chain.remembered? now token = none) :
    (chain.afterMiss now token).IsSwept now := by
  have cache : (chain.afterMiss now token).cache.map (fun cache => cache.sweepUpTo now) =
      (chain.afterMiss now token).cache := by
    rw [cache_afterMiss_of_absent absent, Option.map_map]
    simp only [Function.comp_def, Cache.sweepUpTo_sweepUpTo _ (Nat.le_refl now)]
  rw [IsSwept, sweepUpTo, cache]

theorem sent_afterMiss (chain : Chain) (now : Nat) (token : String) :
    (chain.afterMiss now token).sent = chain.sent := by
  cases present : chain.cache with
  | none => simp [afterMiss, sweepUpTo, present]
  | some cache => simp [afterMiss, sweepUpTo, count, present]

theorem desks_afterMiss (chain : Chain) (now : Nat) (token : String) :
    (chain.afterMiss now token).desks = [] ++ chain.desks :=
  (Chain.Within.afterMiss chain now token).desks

/-- What the cache is after an evaluation, beside what it would be without one. -/
theorem cache_evaluated_afterMiss {ending : Nat} (remaining : List Desk)
    (absent : chain.remembered? now token = none) (ordered : now ≤ ending) :
    ((chain.afterMiss now token).evaluated ending token [] remaining false).cache =
      chain.cache.map fun cache =>
        if (heard token remaining).any (Desk.answers token) then
          (cache.sweepUpTo ending).put ending token (conclusion token remaining)
        else (cache.sweepUpTo ending).erase token := by
  have swept (cache : Cache) : ((cache.erase token).sweepUpTo now).sweepUpTo ending =
      (cache.sweepUpTo ending).erase token := by
    rw [Cache.sweepUpTo_sweepUpTo _ ordered, Cache.erase_sweepUpTo]
  simp only [evaluated, cache_afterMiss_of_absent absent, Option.map_map, Function.comp_def, swept,
    Cache.put_erase, Bool.false_or]

/-- A call on its own that finds nothing remembered. -/
theorem validate_of_absent (absent : chain.remembered? now token = none) :
    chain.validate now token =
      ((chain.afterMiss now token).evaluated (now + duration token (heard token chain.desks)) token
          [] chain.desks false,
        conclusion token chain.desks, now + duration token (heard token chain.desks)) := by
  rw [validate, start_of_not_remembered absent]
  exact finish_proceed (isSwept_afterMiss absent) (desks_afterMiss chain now token)
    (Nat.le_refl _)

end Chain

/-- A call that finds nothing remembered and hears every validator as soon as its answer is there,
while nothing else happens. -/
theorem Traffic.run_of_absent {traffic : Traffic} {token : String}
    (absent : traffic.chain.remembered? traffic.now token = none)
    (unused : ∀ call, (traffic.started, call) ∉ traffic.waiting) :
    let asked := heard token traffic.chain.desks
    let ending := traffic.now + duration token asked
    traffic.run (.call token :: hearing traffic.started token asked) =
      { traffic with
        chain := (traffic.chain.afterMiss traffic.now token).evaluated ending token []
          traffic.chain.desks false
        now := ending
        started := traffic.started + 1
        history := traffic.history ++
          (⟨traffic.now, traffic.started, token, .called⟩ ::
            exchanges traffic.started token 0 traffic.now asked ++
            [⟨ending, traffic.started, token, .returned (conclusion token traffic.chain.desks)
              (.evaluation (asked.any (Desk.answers token)))⟩]) } := by
  intro asked ending
  let opened : Traffic :=
    { traffic with
      chain := traffic.chain.afterMiss traffic.now token
      started := traffic.started + 1 }.note traffic.started token .called
  have begins : traffic.begin token =
      ({ opened with chain := (opened.chain.proceed opened.now token 0 false).1 }.settle
        traffic.started token (.evaluation false)
        (opened.chain.proceed opened.now token 0 false).2) := by
    simp only [Traffic.begin, Chain.start_of_not_remembered absent, absent, Option.isSome_none,
      Bool.false_eq_true, if_false]
    rfl
  have followed := run_proceed opened traffic.started token [] false
    (Chain.isSwept_afterMiss absent)
    (Chain.desks_afterMiss _ _ _) unused
  rw [run, List.foldl_cons, step, begins]
  refine followed.trans ?_
  simp [opened, note, asked, ending]

/-- On a chain that has been used in whatever way, a call that finds nothing remembered and that no
other call comes between asks the validators in order, each once and the next when the one before
has answered, up to the first one that accepts or all of them, and nobody after that. What it
returns is the positive verdict of that validator as it was given, or the verdict of nobody. If one
of those asked has answered, the cache has the returned verdict for the token with the time of the
end; otherwise nothing is stored. That stale entries are gone, by the look-up and by the sweeps that
have come due, does not depend on the evaluation. -/
theorem evaluation_up_to_first_acceptance (validators : List Validator) (ttl? : Option Nat)
    (moves : List Move) (token : String)
    (absent :
      let traffic := (Traffic.ofValidators validators ttl?).run moves
      traffic.chain.remembered? traffic.now token = none) :
    let traffic := (Traffic.ofValidators validators ttl?).run moves
    let asked := heard token traffic.chain.desks
    let verdict := conclusion token traffic.chain.desks
    let isAnswered := asked.any (Desk.answers token)
    let ending := traffic.now + duration token asked
    let later := traffic.run (.call token :: hearing traffic.started token asked)
    traffic.chain.desks.map Desk.validator = validators ∧
      traffic.chain.validate traffic.now token = (later.chain, verdict, ending) ∧
      later.now = ending ∧
      later.history = traffic.history ++
        (⟨traffic.now, traffic.started, token, .called⟩ ::
          exchanges traffic.started token 0 traffic.now asked ++
          [⟨ending, traffic.started, token, .returned verdict (.evaluation isAnswered)⟩]) ∧
      later.chain.desks = asked.map (Desk.ask token) ++ spared token traffic.chain.desks ∧
      later.chain.sent =
        traffic.chain.sent ++ asked.flatMap (fun desk => (desk.appraise token).sent) ∧
      later.chain.cache = traffic.chain.cache.map fun cache =>
        if isAnswered then (cache.sweepUpTo ending).put ending token verdict
        else (cache.sweepUpTo ending).erase token := by
  intro traffic asked verdict isAnswered ending later
  have onCourse := (OnCourse.ofValidators validators ttl?).run moves
  have unused : ∀ call, (traffic.started, call) ∉ traffic.waiting := by
    intro call waits
    exact Nat.lt_irrefl _ (onCourse.waiting _ call waits).2.1
  have traced := (Traced.ofValidators validators ttl?).run moves
  have same : traffic.chain.desks.map Desk.validator = validators := by
    apply List.ext_getElem?
    intro place
    rw [List.getElem?_map, traced.desks place, Option.map_map]
    exact Option.map_id'
  have ended : later = _ := Traffic.run_of_absent absent unused
  have cache := Chain.cache_evaluated_afterMiss traffic.chain.desks absent
    (Nat.le_add_right traffic.now (duration token asked))
  rw [ended]
  refine ⟨same, Chain.validate_of_absent absent, rfl, rfl, rfl, ?_, cache⟩
  exact congrArg (· ++ asked.flatMap fun desk => (desk.appraise token).sent)
    (Chain.sent_afterMiss traffic.chain traffic.now token)

/-- The first validator can never be reached, the second one refuses, the third one accepts, and the
fourth one, which would accept as well, is never asked. -/
theorem evaluation_up_to_first_acceptance_past_outage :
    let accepted : Verdict := { valid := true, clientId := some "portal", scopes := ["read"] }
    let outage : Validator := ⟨"a", fun _ _ => { delay := 3, result := .error .connection }⟩
    let refusing : Validator := ⟨"b", fun _ _ => { delay := 5, result := .ok .invalid }⟩
    let issuer : Validator := ⟨"c", fun _ _ => { delay := 2, result := .ok accepted }⟩
    let other : Validator := ⟨"d", fun _ _ => { result := .ok { valid := true } }⟩
    let traffic := (Traffic.ofValidators [outage, refusing, issuer, other] (some 60)).run [.wait 7]
    let (chain, verdict, ending) := traffic.chain.validate traffic.now "t"
    traffic.chain.remembered? traffic.now "t" = none ∧
      (verdict, ending) = (accepted, 17) ∧
      chain.desks.map Desk.asked = [["t"], ["t"], ["t"], []] ∧
      chain.cache = some { ttl := 60, entries := [⟨"t", accepted, 17⟩] } := by
  intro accepted outage refusing issuer other traffic
  have absent : traffic.chain.remembered? traffic.now "t" = none := by decide
  obtain ⟨-, validated, -, -, desks, -, cache⟩ := evaluation_up_to_first_acceptance
    [outage, refusing, issuer, other] (some 60) [.wait 7] "t" absent
  rw [show traffic.chain.validate traffic.now "t" = _ from validated]
  refine ⟨absent, by decide, ?_, cache.trans (by decide)⟩
  exact (congrArg (List.map Desk.asked) desks).trans (by decide)

end GroupFederation.Token
