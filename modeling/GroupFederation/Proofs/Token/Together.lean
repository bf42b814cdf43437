import GroupFederation.Proofs.Token.Decision
import Mathlib.Algebra.Ring.Nat
import Mathlib.Data.List.Nodup

/-!
# Calls that are started together

Calls that are started together wait side by side, and each of them moves on when its answer is
there. With steady validators every one of them comes to the decision on its own token, in whatever
order the answers arrive and whatever the others find in the cache and store there.

Every step takes one call to a later validator or to its end, so that the answers that are still to
come are a bound on the number of steps.
-/

namespace GroupFederation.Token.Chain

namespace Session

/-- How many answers the waiting calls may still have to hear. -/
def pending (session : Session) (validators : List Validator) : Nat :=
  (session.waiting.map fun entry => (Standing.waiting entry.2).remaining validators).sum

/-- The calls for the given tokens have begun, numbered in that order. Each of them waits or has
come to the decision, but for the one that is being moved, if there is one. -/
structure Tracks (session : Session) (validators : List Validator) (begun : List String)
    (moved? : Option Nat) : Prop where
  chain : session.chain.Agrees validators
  waiting : ∀ number call, (number, call) ∈ session.waiting →
    begun[number]? = some call.token ∧ call.Agrees validators
  distinct : (session.waiting.map Prod.fst).Nodup
  unlisted : ∀ number ∈ moved?, number ∉ session.waiting.map Prod.fst
  decided : ∀ number verdict, (number, verdict) ∈ session.decided →
    ∃ token, begun[number]? = some token ∧ verdict = decision token validators
  present : ∀ number < begun.length, moved? ≠ some number →
    number ∈ session.waiting.map Prod.fst ∨ number ∈ session.decided.map Prod.fst

namespace Tracks

variable {session : Session} {validators : List Validator} {begun : List String} {number : Nat}

/-! ## Where the moved call ends up -/

theorem conclude (tracks : session.Tracks validators begun (some number)) {token : String}
    (called : begun[number]? = some token) :
    Tracks { session with decided := session.decided ++ [(number, decision token validators)] }
      validators begun none where
  chain := tracks.chain
  waiting := tracks.waiting
  distinct := tracks.distinct
  unlisted _ none := by cases none
  decided other verdict member := by
    rcases List.mem_append.mp member with earlier | new
    · exact tracks.decided other verdict earlier
    · simp only [List.mem_singleton, Prod.mk.injEq] at new
      obtain ⟨rfl, rfl⟩ := new
      exact ⟨token, called, rfl⟩
  present other inside _ := by
    by_cases same : other = number
    · simp [same]
    · have elsewhere := tracks.present other inside (by simpa using Ne.symm same)
      rw [List.map_append, List.mem_append]
      exact elsewhere.imp_right .inl

theorem enqueue (tracks : session.Tracks validators begun (some number)) {call : Call}
    (called : begun[number]? = some call.token) (agrees : call.Agrees validators) :
    Tracks { session with waiting := session.waiting ++ [(number, call)] } validators begun
      none where
  chain := tracks.chain
  waiting other otherCall member := by
    rcases List.mem_append.mp member with earlier | new
    · exact tracks.waiting other otherCall earlier
    · simp only [List.mem_singleton, Prod.mk.injEq] at new
      obtain ⟨rfl, rfl⟩ := new
      exact ⟨called, agrees⟩
  distinct := by
    rw [List.map_append, List.nodup_append]
    refine ⟨tracks.distinct, by simp, fun other earlier new member => ?_⟩
    rintro rfl
    simp only [List.map_cons, List.map_nil, List.mem_singleton] at member
    exact tracks.unlisted number rfl (member ▸ earlier)
  unlisted _ none := by cases none
  decided := tracks.decided
  present other inside _ := by
    by_cases same : other = number
    · simp [same]
    · have elsewhere := tracks.present other inside (by simpa using Ne.symm same)
      rw [List.map_append, List.mem_append]
      exact elsewhere.imp_left .inl

/-- The moved call waits. -/
theorem await (tracks : session.Tracks validators begun (some number)) {token : String}
    {call : Call} {count : Nat} (called : begun[number]? = some token)
    (onTrack : OnTrack validators token count (session.chain, .waiting call)) :
    let awaiting : Session := { session with waiting := session.waiting ++ [(number, call)] }
    awaiting.Tracks validators begun none ∧
      awaiting.pending validators ≤ session.pending validators + count := by
  intro awaiting
  obtain ⟨rfl, agrees⟩ := onTrack.standing
  refine ⟨tracks.enqueue called agrees, ?_⟩
  have atMost : (Standing.waiting call).remaining validators ≤ count := onTrack.remaining
  simp only [awaiting, pending, List.map_append, List.sum_append, List.map_singleton,
    List.sum_singleton]
  omega

/-- The moved call is taken to its next wait or to the decision. -/
theorem settle (steady : ∀ validator ∈ validators, validator.IsSteady) (bound : Nat)
    (tracks : session.Tracks validators begun (some number)) {token : String} {standing : Standing}
    {count : Nat} (called : begun[number]? = some token)
    (onTrack : OnTrack validators token count (session.chain, standing)) :
    (Session.settle bound number session standing).Tracks validators begun none ∧
      (Session.settle bound number session standing).pending validators ≤
        session.pending validators + count := by
  fun_induction Session.settle bound number session standing generalizing count with
  | case1 bound number session verdict =>
      obtain rfl := onTrack.standing
      exact ⟨tracks.conclude called, Nat.le_add_right _ _⟩
  | case2 number session call => exact tracks.await called onTrack
  | case3 bound number session call arrived chain standing received inductionHypothesis =>
      obtain ⟨rfl, agrees⟩ := onTrack.standing
      have next := onTrack.chain.receive steady session.now agrees
      rw [received] at next
      have moved : Tracks { session with chain := chain } validators begun (some number) :=
        { tracks with chain := next.chain }
      obtain ⟨settled, fewer⟩ := inductionHypothesis moved called next
      refine ⟨settled, Nat.le_trans fewer (Nat.add_le_add_left ?_ _)⟩
      have atMost : validators.length - call.place ≤ count := onTrack.remaining
      omega
  | case4 bound number session call late => exact tracks.await called onTrack

/-! ## Starting calls -/

/-- One more call is about to begin. -/
theorem announce (tracks : session.Tracks validators begun none) (token : String) :
    session.Tracks validators (begun ++ [token]) (some begun.length) where
  chain := tracks.chain
  waiting number call member := by
    obtain ⟨called, agrees⟩ := tracks.waiting number call member
    have inside := (List.getElem?_eq_some_iff.mp called).1
    exact ⟨by rw [List.getElem?_append_left inside, called], agrees⟩
  distinct := tracks.distinct
  unlisted number new member := by
    obtain ⟨⟨other, call⟩, listed, rfl⟩ := List.mem_map.mp member
    have inside := (List.getElem?_eq_some_iff.mp (tracks.waiting other call listed).1).1
    simp only [Option.mem_def, Option.some.injEq] at new
    omega
  decided number verdict member := by
    obtain ⟨earlier, called, same⟩ := tracks.decided number verdict member
    have inside := (List.getElem?_eq_some_iff.mp called).1
    exact ⟨earlier, by rw [List.getElem?_append_left inside, called], same⟩
  present number inside other := by
    refine tracks.present number ?_ (by simp)
    simp only [List.length_append, List.length_singleton] at inside
    simp only [ne_eq, Option.some.injEq] at other
    omega

theorem start (steady : ∀ validator ∈ validators, validator.IsSteady)
    (tracks : session.Tracks validators begun none) (token : String) :
    (Session.start session begun.length token).Tracks validators (begun ++ [token]) none ∧
      (Session.start session begun.length token).pending validators ≤
        session.pending validators + validators.length := by
  have next := tracks.chain.start steady session.now token
  have moved : Tracks { session with chain := (session.chain.start session.now token).1 }
      validators (begun ++ [token]) (some begun.length) :=
    { tracks.announce token with chain := next.chain }
  exact moved.settle steady session.chain.desks.length (by simp) next

theorem startAll (steady : ∀ validator ∈ validators, validator.IsSteady)
    (tracks : session.Tracks validators begun none) (tokens : List String) :
    let started := (tokens.zipIdx begun.length).foldl
      (fun session (token, number) => Session.start session number token) session
    started.Tracks validators (begun ++ tokens) none ∧
      started.pending validators ≤
        session.pending validators + tokens.length * validators.length := by
  induction tokens generalizing session begun with
  | nil => simpa using tracks
  | cons token tokens inductionHypothesis =>
      obtain ⟨next, bounded⟩ := tracks.start steady token
      obtain ⟨all, allBounded⟩ := inductionHypothesis next
      rw [List.append_assoc, List.length_append] at all
      rw [List.length_append] at allBounded
      refine ⟨all, Nat.le_trans allBounded ?_⟩
      rw [List.length_cons, Nat.succ_mul]
      omega

/-! ## Going on until nobody waits -/

theorem next?_mem {entries : List (Nat × Call)} {entry : Nat × Call}
    (chosen : next? entries = some entry) : entry ∈ entries := by
  induction entries with
  | nil => cases chosen
  | cons first entries inductionHypothesis =>
      rw [next?] at chosen
      cases later : next? entries with
      | none =>
          simp only [later, Option.some.injEq] at chosen
          simp [chosen]
      | some other =>
          simp only [later] at chosen
          split at chosen
          · simp_all
          · simp_all

theorem waiting_eq_nil_of_next? {entries : List (Nat × Call)} (nobody : next? entries = none) :
    entries = [] := by
  cases entries with
  | nil => rfl
  | cons first entries =>
      rw [next?] at nobody
      split at nobody
      · cases nobody
      · split at nobody <;> cases nobody

/-- The call that is answered leaves the others where they are. -/
theorem release (tracks : session.Tracks validators begun none) {call : Call}
    (waits : (number, call) ∈ session.waiting) {chain : Chain} (agrees : chain.Agrees validators)
    (now : Nat) :
    let released : Session := { session with
      chain := chain
      now := now
      waiting := session.waiting.eraseP fun entry => entry.1 == number }
    released.Tracks validators begun (some number) ∧
      released.pending validators + (Standing.waiting call).remaining validators =
        session.pending validators := by
  intro released
  obtain ⟨entry, before, after, -, isFound, split, erased⟩ :=
    List.exists_of_eraseP (p := fun entry : Nat × Call => entry.1 == number) waits (by simp)
  have listed : entry ∈ session.waiting := by simp [split]
  obtain rfl : entry = (number, call) :=
    List.inj_on_of_nodup_map tracks.distinct listed waits (by simpa using isFound)
  have distinct : (before ++ (number, call) :: after).map Prod.fst |>.Nodup :=
    split ▸ tracks.distinct
  have remaining : released.waiting = before ++ after := erased
  refine ⟨⟨agrees, ?_, ?_, ?_, tracks.decided, ?_⟩, ?_⟩
  · intro other otherCall member
    exact tracks.waiting other otherCall (List.mem_of_mem_eraseP member)
  · exact (List.eraseP_sublist.map Prod.fst).nodup tracks.distinct
  · rintro _ ⟨⟩
    rw [remaining, List.map_append]
    rw [List.map_append, List.map_cons, List.nodup_middle] at distinct
    exact (List.nodup_cons.mp distinct).1
  · intro other inside differ
    refine (tracks.present other inside (by simp)).imp_left fun member => ?_
    have notMoved : other ≠ number := by simpa using Ne.symm differ
    rw [split] at member
    rw [remaining]
    simpa [notMoved] using member
  · simp only [pending, remaining, split, List.map_append, List.map_cons, List.sum_append,
      List.sum_cons]
    omega

/-- A step keeps everything in order, and if anybody waits there is less to hear after it. -/
theorem step (steady : ∀ validator ∈ validators, validator.IsSteady)
    (tracks : session.Tracks validators begun none) :
    session.step.Tracks validators begun none ∧
      session.step.pending validators ≤ session.pending validators - 1 := by
  unfold Session.step
  cases chosen : next? session.waiting with
  | none =>
      refine ⟨tracks, ?_⟩
      simp [pending, waiting_eq_nil_of_next? chosen]
  | some entry =>
      obtain ⟨number, call⟩ := entry
      have waits := next?_mem chosen
      obtain ⟨called, agrees⟩ := tracks.waiting number call waits
      have next := tracks.chain.receive steady call.due agrees
      obtain ⟨released, fewer⟩ := tracks.release waits next.chain call.due
      obtain ⟨settled, bounded⟩ :=
        released.settle steady session.chain.desks.length called next
      refine ⟨settled, Nat.le_trans bounded ?_⟩
      have inside := agrees.place_lt
      simp only [Standing.remaining] at fewer
      omega

/-- After as many steps as there are answers to come nobody waits. -/
theorem run (steady : ∀ validator ∈ validators, validator.IsSteady) (steps : Nat)
    (tracks : session.Tracks validators begun none)
    (enough : session.pending validators ≤ steps) :
    (Session.run steps session).Tracks validators begun none ∧
      (Session.run steps session).waiting = [] := by
  induction steps generalizing session with
  | zero =>
      refine ⟨tracks, ?_⟩
      cases waiting : session.waiting with
      | nil => exact waiting
      | cons entry entries =>
          have inside := (tracks.waiting entry.1 entry.2 (by simp [waiting])).2.place_lt
          simp only [pending, waiting, List.map_cons, List.sum_cons, Standing.remaining] at enough
          omega
  | succ steps inductionHypothesis =>
      obtain ⟨stepped, fewer⟩ := tracks.step steady
      exact inductionHypothesis stepped (by omega)

/-- Once nobody waits, the verdict of every call is the decision on its token. -/
theorem verdictOf (tracks : session.Tracks validators begun none) (done : session.waiting = [])
    {token : String} (called : begun[number]? = some token) :
    session.verdictOf number = decision token validators := by
  have inside := (List.getElem?_eq_some_iff.mp called).1
  have listed : number ∈ session.decided.map Prod.fst :=
    (tracks.present number inside (by simp)).resolve_left (by simp [done])
  obtain ⟨entry, member, isListed⟩ := List.mem_map.mp listed
  unfold Session.verdictOf
  cases found : session.decided.find? fun entry => entry.1 == number with
  | none => exact absurd isListed (by simpa using List.find?_eq_none.mp found entry member)
  | some first =>
      obtain ⟨firstNumber, verdict⟩ := first
      obtain rfl : firstNumber = number := by simpa using List.find?_some found
      obtain ⟨other, otherCalled, same⟩ :=
        tracks.decided firstNumber verdict (List.mem_of_find?_eq_some found)
      rw [called, Option.some.injEq] at otherCalled
      simp only [Option.map_some, Option.getD_some, same, otherCalled]

end Tracks

end Session

/-- Of calls that are started together, each comes to the decision on its token. -/
theorem Agrees.validateTogether {chain : Chain} {validators : List Validator}
    (agrees : chain.Agrees validators)
    (steady : ∀ validator ∈ validators, validator.IsSteady) (now : Nat) (tokens : List String) :
    (chain.validateTogether now tokens).1.Agrees validators ∧
      (chain.validateTogether now tokens).2.1 =
        tokens.map fun token => decision token validators := by
  have fresh : Session.Tracks { chain := chain, now := now } validators [] none :=
    ⟨agrees, by simp, by simp, by simp, by simp, by simp⟩
  obtain ⟨started, bounded⟩ := fresh.startAll steady tokens
  rw [← agrees.length_desks] at bounded
  obtain ⟨ended, done⟩ := started.run steady (tokens.length * chain.desks.length)
    (by simpa [Session.pending] using bounded)
  refine ⟨ended.chain, List.ext_getElem (by simp [Chain.validateTogether]) ?_⟩
  intro number _ inside
  have begun : number < tokens.length := by simpa using inside
  have called : ([] ++ tokens)[number]? = some tokens[number] := by simp
  simpa [Chain.validateTogether] using ended.verdictOf done called

end GroupFederation.Token.Chain
