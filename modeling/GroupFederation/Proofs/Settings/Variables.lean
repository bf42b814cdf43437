import GroupFederation.Settings.Load

/-!
# Variables of the `.env` file

What a `.env` file defines could as well be part of the environment in which the service is started,
but for one variable: the settings file is chosen before the `.env` file is read. So loading ignores
the file that a `.env` file names, and otherwise gives what it would give with the definitions in
the environment.
-/

namespace GroupFederation.Settings

namespace Environment

/-- Set variables that are not set yet, one after the other. -/
def extend (environment : Environment) (definitions : List (String × String)) : Environment :=
  definitions.foldl (fun extended (name, value) => extended.setMissing name value) environment

/-- The environment without a variable. -/
def without (environment : Environment) (name : String) : Environment :=
  ⟨environment.bindings.filter fun binding => binding.1 != name⟩

@[simp] theorem extend_nil (environment : Environment) : environment.extend [] = environment := rfl

@[simp] theorem extend_cons (environment : Environment) (name value : String)
    (definitions : List (String × String)) :
    environment.extend ((name, value) :: definitions) =
      (environment.setMissing name value).extend definitions := rfl

theorem get?_setMissing (environment : Environment) (name value other : String) :
    (environment.setMissing name value).get? other =
      (environment.get? other).or (if other = name then some value else none) := by
  unfold setMissing
  split
  · rename_i isSet
    obtain ⟨former, found⟩ := Option.isSome_iff_exists.mp isSet
    by_cases same : other = name
    · simp [same, found]
    · simp [same]
  · by_cases same : other = name
    · simp [get?, List.lookup_append, same]
    · have different : (other == name) = false := by simp [same]
      simp [get?, List.lookup_append, List.lookup_cons, same, different]

theorem find?_setMissing (environment : Environment) (name value : String)
    (test : String → Bool) :
    ((environment.setMissing name value).bindings.find? fun binding => test binding.1) =
      (environment.bindings.find? fun binding => test binding.1).or
        (if test name then some (name, value) else none) := by
  unfold setMissing
  split
  · rename_i isSet
    cases passes : test name with
    | false => simp
    | true =>
        obtain ⟨former, found⟩ := Option.isSome_iff_exists.mp isSet
        obtain ⟨front, back, split, -⟩ := List.lookup_eq_some_iff.mp found
        have isFound : (environment.bindings.find? fun binding => test binding.1).isSome := by
          rw [List.find?_isSome]
          exact ⟨(name, former), by simp [split], passes⟩
        obtain ⟨binding, first⟩ := Option.isSome_iff_exists.mp isFound
        simp [first]
  · rw [List.find?_append]
    cases passes : test name <;> simp [passes]

/-- Of several values of a variable the first one counts, and one that was set before counts most. -/
theorem get?_extend (environment : Environment) (definitions : List (String × String))
    (name : String) :
    (environment.extend definitions).get? name =
      (environment.get? name).or (definitions.lookup name) := by
  induction definitions generalizing environment with
  | nil => simp
  | cons definition definitions inductionHypothesis =>
      obtain ⟨other, value⟩ := definition
      rw [extend_cons, inductionHypothesis, get?_setMissing, Option.or_assoc]
      by_cases same : name = other
      · simp [same]
      · have different : (name == other) = false := by simp [same]
        simp [same, List.lookup_cons, different]

/-- Of the variables whose names pass a test, the first one that is set before counts, or the first
one that is set anew. -/
theorem find?_extend (environment : Environment) (definitions : List (String × String))
    (test : String → Bool) :
    ((environment.extend definitions).bindings.find? fun binding => test binding.1) =
      (environment.bindings.find? fun binding => test binding.1).or
        (definitions.find? fun binding => test binding.1) := by
  induction definitions generalizing environment with
  | nil => simp
  | cons definition definitions inductionHypothesis =>
      obtain ⟨name, value⟩ := definition
      rw [extend_cons, inductionHypothesis, find?_setMissing, Option.or_assoc, List.find?_cons]
      cases test name <;> rfl

/-! ## What one variable has to do with the others -/

theorem get?_without {name other : String} (distinct : other ≠ name) (environment : Environment) :
    (environment.without name).get? other = environment.get? other := by
  obtain ⟨bindings⟩ := environment
  simp only [without, get?]
  induction bindings with
  | nil => rfl
  | cons binding bindings inductionHypothesis =>
      obtain ⟨first, value⟩ := binding
      by_cases dropped : first = name
      · subst dropped
        have different : (other == first) = false := by simp [distinct]
        simpa [List.lookup_cons, different] using inductionHypothesis
      · have kept : (first != name) = true := by simp [dropped]
        simp only [List.filter_cons, kept, if_true, List.lookup_cons, inductionHypothesis]

theorem without_setMissing_self (environment : Environment) (name value : String) :
    (environment.setMissing name value).without name = environment.without name := by
  unfold setMissing
  split
  · rfl
  · simp [without]

theorem without_setMissing_of_ne {name other : String} (distinct : other ≠ name)
    (environment : Environment) (value : String) :
    (environment.setMissing other value).without name =
      (environment.without name).setMissing other value := by
  unfold setMissing
  rw [get?_without distinct]
  split
  · rfl
  · simp [without, distinct]

theorem without_extend (environment : Environment) (definitions : List (String × String))
    (name : String) :
    (environment.extend definitions).without name =
      (environment.without name).extend (definitions.filter fun entry => entry.1 != name) := by
  induction definitions generalizing environment with
  | nil => rfl
  | cons definition definitions inductionHypothesis =>
      obtain ⟨other, value⟩ := definition
      rw [extend_cons, inductionHypothesis]
      by_cases same : other = name
      · simp [same, without_setMissing_self]
      · simp [same, without_setMissing_of_ne same]

/-- A variable that is no setting's says nothing about settings. -/
theorem assignments_without {name : String} (noSetting : settingName? name = none)
    (environment : Environment) :
    (environment.without name).assignments = environment.assignments := by
  unfold assignments without
  rw [List.filterMap_filter]
  refine congrArg (fun setting => List.filterMap setting environment.bindings) ?_
  funext (other, value)
  by_cases same : other = name
  · simp [same, noSetting]
  · simp [same]

end Environment

namespace Dotenv

/-- The definitions in lines, up to the first line that is not well formed. -/
def definitionsIn (environment : Environment) :
    List (Option (List Char)) → List (String × String)
  | [] => []
  | none :: _ => []
  | some line :: rest =>
      let line := Text.dropEndWhile Text.isBlank (line.dropWhile Text.isBlank)
      if line.isEmpty || isComment line then definitionsIn environment rest
      else match readVariable? environment line with
        | some (name, value) => (name, value) :: definitionsIn (environment.setMissing name value) rest
        | none => []

/-- What a `.env` file defines. Its values may refer to variables of the environment and to those
defined before. -/
def definitions (environment : Environment) (content : String) : List (String × String) :=
  definitionsIn environment (linesOf content)

theorem apply_eq_extend (environment : Environment) (lines : List (Option (List Char))) :
    apply environment lines = environment.extend (definitionsIn environment lines) := by
  fun_induction definitionsIn environment lines with
  | case1 | case2 => rfl
  | case3 environment rest line trimmed silent inductionHypothesis =>
      simp [apply, silent, trimmed, inductionHypothesis]
  | case4 environment rest line trimmed speaks name value read inductionHypothesis =>
      simp [apply, speaks, trimmed, read, inductionHypothesis]
  | case5 environment rest line trimmed speaks unread =>
      simp [apply, speaks, trimmed, unread]

/-- Loading a `.env` file extends the environment by what the file defines. -/
theorem load_eq_extend (environment : Environment) (content : String) :
    load environment content = environment.extend (definitions environment content) :=
  apply_eq_extend environment (linesOf content)

end Dotenv

/-! ## The settings file -/

namespace Surroundings

/-- The settings with the settings file of a given name, or with the default one, whatever the
variable for it says. -/
def loadFrom (surroundings : Surroundings) (name : Option String) : Except LoadError Settings :=
  match surroundings.entriesOf name with
  | .error error => .error error
  | .ok entries =>
      match ofValue? (layered entries surroundings.completeEnvironment) with
      | some settings => .ok settings
      | none => .error .unsuitable

theorem load_eq_loadFrom (surroundings : Surroundings) :
    load surroundings = surroundings.loadFrom surroundings.namedFile? := rfl

/-- Beside the file, only what variables say about settings counts. -/
theorem loadFrom_congr {left right : Surroundings} (files : left.file? = right.file?)
    (readers : left.readers = right.readers)
    (assignments :
      left.completeEnvironment.assignments = right.completeEnvironment.assignments)
    (name : Option String) : left.loadFrom name = right.loadFrom name := by
  obtain ⟨leftEnvironment, leftDotenv, leftFile?, leftReaders⟩ := left
  obtain ⟨rightEnvironment, rightDotenv, rightFile?, rightReaders⟩ := right
  subst files readers
  simp only [loadFrom, layered, assignments]
  rfl

end Surroundings

/-- The definitions name a settings file: the environment does not have the variable for it, and
they set it to something. -/
def NamesFile (environment : Environment) (definitions : List (String × String)) (name : String) :
    Prop :=
  environment.get? fileVariable = none ∧ definitions.lookup fileVariable = some name ∧ name ≠ ""

theorem NamesFile.unique {environment : Environment} {definitions : List (String × String)}
    {left right : String} (isLeft : NamesFile environment definitions left)
    (isRight : NamesFile environment definitions right) : left = right :=
  Option.some.inj (isLeft.2.1.symm.trans isRight.2.1)

theorem settingName?_fileVariable : Environment.settingName? fileVariable = none := by
  decide +kernel

/-- Whether the variable for the settings file is set makes no difference to the settings. -/
theorem assignments_extend_filter (environment : Environment)
    (definitions : List (String × String)) :
    (environment.extend (definitions.filter fun entry => entry.1 != fileVariable)).assignments =
      (environment.extend definitions).assignments := by
  rw [← Environment.assignments_without settingName?_fileVariable,
    ← Environment.assignments_without settingName?_fileVariable (environment.extend definitions),
    Environment.without_extend, Environment.without_extend, List.filter_filter]
  simp only [Bool.and_self]

theorem namedFile?_extend_filter (environment : Environment) (definitions : List (String × String))
    (dotenv : Option String) (file? : String → Option String) (readers : Readers) :
    Surroundings.namedFile? ⟨environment.extend
        (definitions.filter fun entry => entry.1 != fileVariable), none, file?, readers⟩ =
      Surroundings.namedFile? ⟨environment, dotenv, file?, readers⟩ := by
  have others : (definitions.filter fun entry => entry.1 != fileVariable).lookup fileVariable =
      none := by
    simp only [List.lookup_eq_none_iff, List.mem_filter, bne_iff_ne]
    exact fun _ kept => kept.2.symm
  simp only [Surroundings.namedFile?, Environment.get?_extend, others, Option.or_none]

/-- Definitions change the choice of the settings file only by naming one. -/
theorem namedFile?_extend_eq (environment : Environment) (definitions : List (String × String))
    (dotenv : Option String) (file? : String → Option String) (readers : Readers) :
    (Surroundings.namedFile? ⟨environment.extend definitions, none, file?, readers⟩ =
        Surroundings.namedFile? ⟨environment, dotenv, file?, readers⟩ ∧
      ∀ name, ¬ NamesFile environment definitions name) ∨
      ∃ name, NamesFile environment definitions name ∧
        Surroundings.namedFile? ⟨environment.extend definitions, none, file?, readers⟩ =
          some name ∧
        Surroundings.namedFile? ⟨environment, dotenv, file?, readers⟩ = none := by
  simp only [Surroundings.namedFile?, Environment.get?_extend, NamesFile]
  cases environment.get? fileVariable with
  | some given => simp
  | none =>
      cases definitions.lookup fileVariable with
      | none => simp
      | some name =>
          by_cases empty : name = "" <;> simp [empty]

/-- A `.env` file gives the settings that its definitions would give as part of the environment,
with the exception of the definition that names a settings file. So the two ways give the same
settings, or none both, exactly if the file that the definitions name, if they name one, makes the
same of it as the default file does. -/
theorem dotenv_as_environment_iff (environment : Environment) (content : String)
    (file? : String → Option String) (readers : Readers) :
    let definitions := Dotenv.definitions environment content
    let others := definitions.filter fun entry => entry.1 != fileVariable
    let inFile : Surroundings := ⟨environment, some content, file?, readers⟩
    let inEnvironment : Surroundings := ⟨environment.extend definitions, none, file?, readers⟩
    load inFile = load ⟨environment.extend others, none, file?, readers⟩ ∧
      ((load inFile).toOption = (load inEnvironment).toOption ↔
        ∀ name, NamesFile environment definitions name →
          (inEnvironment.loadFrom none).toOption =
            (inEnvironment.loadFrom (some name)).toOption) := by
  intro definitions others inFile inEnvironment
  have complete : inFile.completeEnvironment = environment.extend definitions :=
    Dotenv.load_eq_extend environment content
  have alike (name : Option String) : inFile.loadFrom name = inEnvironment.loadFrom name := by
    apply Surroundings.loadFrom_congr
    · rfl
    · rfl
    · rw [complete]
      rfl
  have apart (name : Option String) : inFile.loadFrom name =
      Surroundings.loadFrom ⟨environment.extend others, none, file?, readers⟩ name := by
    apply Surroundings.loadFrom_congr
    · rfl
    · rfl
    · rw [complete]
      exact (assignments_extend_filter environment definitions).symm
  have choice : inFile.namedFile? =
      Surroundings.namedFile? ⟨environment.extend others, none, file?, readers⟩ :=
    (namedFile?_extend_filter environment definitions (some content) file? readers).symm
  constructor
  · rw [Surroundings.load_eq_loadFrom, Surroundings.load_eq_loadFrom, apart, choice]
  · rw [Surroundings.load_eq_loadFrom, Surroundings.load_eq_loadFrom, alike]
    rcases namedFile?_extend_eq environment definitions (some content) file? readers with
      ⟨same, unnamed⟩ | ⟨name, names, chosen, unnamed⟩
    · have same : inFile.namedFile? = inEnvironment.namedFile? := same.symm
      rw [same]
      exact iff_of_true rfl fun name names => absurd names (unnamed name)
    · have chosen : inEnvironment.namedFile? = some name := chosen
      have unnamed : inFile.namedFile? = none := unnamed
      rw [chosen, unnamed]
      constructor
      · intro agree other others
        rwa [others.unique names]
      · intro agree
        exact agree name names

/-- A `.env` file that names a settings file is overruled by the default file, or by there being
none; in the environment the same definition is obeyed, here to the point of failing. -/
theorem dotenv_names_no_file :
    let environment : Environment := ⟨[]⟩
    let content := "GROUP_SERVICE_CONFIG=elsewhere.json\n"
    let definitions := Dotenv.definitions environment content
    let file? (name : String) : Option String :=
      if name = "configuration.json" then some "\x7b\"service_name\":\"groups\"\x7d" else none
    let inFile : Surroundings := ⟨environment, some content, file?, .ofJson⟩
    let inEnvironment : Surroundings :=
      ⟨environment.extend definitions, none, file?, .ofJson⟩
    (∀ definition ∈ definitions, environment.get? definition.1 = none) ∧
      ((load inFile).toOption.map fun settings => settings.serviceName) = some "groups" ∧
        (load inEnvironment).toOption.isNone = true := by
  decide +kernel

end GroupFederation.Settings
