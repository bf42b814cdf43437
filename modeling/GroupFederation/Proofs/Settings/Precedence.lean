import GroupFederation.Proofs.Settings.Reference
import GroupFederation.Proofs.Settings.Scalar

/-!
# Which value a setting has

A setting with one value has the value of its variable in the environment, or else in the `.env`
file, or else the value in the settings file, or else its default. One variable more changes the one
setting that it is for, or makes the settings unsuitable.

This holds as long as no variable is for a setting that another one is for as well, or for a group
that another one reaches into. It also takes a group that variables reach into to be written as a
table: such a variable makes a table of a list and drops what the list said. And a `.env` file whose
values refer to a variable may say something else about other settings when that variable is set.
-/

namespace GroupFederation.Settings

open Value (Placings orDefault)

/-! ## Variables -/

namespace Environment

/-- The path of the setting that a variable is for. -/
def target? (name : String) : Option (List Step) :=
  (settingName? name).map Step.ofName

/-- The text of the variable for the setting with a path. -/
def textAt? (environment : Environment) (path : List Step) : Option String :=
  (environment.bindings.find? fun binding => target? binding.1 == some path).map Prod.snd

/-- What the variables say about settings, with the paths of these. -/
def placings (environment : Environment) : Placings :=
  environment.assignments.map fun assignment => (Step.ofName assignment.1, assignment.2)

theorem placings_eq (environment : Environment) :
    environment.placings = environment.bindings.filterMap fun binding =>
      (target? binding.1).map (·, .text binding.2) := by
  rw [placings, assignments, List.map_filterMap]
  refine congrArg (List.filterMap · environment.bindings) (funext fun binding => ?_)
  simp only [target?, Option.map_map]
  rfl

theorem areNamed_placings (environment : Environment) : environment.placings.AreNamed := by
  intro placing member
  obtain ⟨assignment, -, rfl⟩ := List.mem_map.mp member
  exact Step.exists_ofName_eq assignment.1

theorem mem_placings {environment : Environment} {name text : String} {path : List Step}
    (target : target? name = some path) (isSet : environment.get? name = some text) :
    (path, .text text) ∈ environment.placings := by
  obtain ⟨front, back, bindings, -⟩ := List.lookup_eq_some_iff.mp isSet
  rw [placings_eq, List.mem_filterMap]
  exact ⟨(name, text), by simp [bindings], by simp [target]⟩

/-- The other variables say the same about the other settings. -/
theorem filter_placings_without {name : String} {path : List Step}
    (target : target? name = some path) (environment : Environment) :
    ((environment.without name).placings.filter fun placing => placing.1 != path) =
      environment.placings.filter fun placing => placing.1 != path := by
  rw [placings_eq, placings_eq, without]
  induction environment.bindings with
  | nil => rfl
  | cons binding bindings inductionHypothesis =>
      by_cases same : binding.1 = name
      · rw [← same] at target inductionHypothesis ⊢
        simpa [target] using inductionHypothesis
      · cases other : target? binding.1 with
        | none => simpa [same, other] using inductionHypothesis
        | some leads => simp [same, other, List.filter_cons, inductionHypothesis]

theorem lookup_placings (environment : Environment) (path : List Step) :
    environment.placings.lookup path = (environment.textAt? path).map .text := by
  rw [placings_eq, textAt?]
  induction environment.bindings with
  | nil => rfl
  | cons binding bindings inductionHypothesis =>
      rw [List.filterMap_cons, List.find?_cons]
      cases target : target? binding.1 with
      | none => simpa using inductionHypothesis
      | some leads =>
          by_cases same : leads = path
          · simp [same]
          · have different : (leads == path) = false := beq_eq_false_iff_ne.mpr same
            have reverse : (path == leads) = false := beq_eq_false_iff_ne.mpr (Ne.symm same)
            simpa [different, reverse, List.lookup_cons] using inductionHypothesis

theorem lookup_below_placings (environment : Environment) (path : List Step) :
    (environment.placings.below path).lookup [] = (environment.textAt? path).map .text := by
  rw [Placings.lookup_below, List.append_nil, lookup_placings]

theorem textAt?_extend (environment : Environment) (definitions : List (String × String))
    (path : List Step) :
    (environment.extend definitions).textAt? path =
      (environment.textAt? path).or ((⟨definitions⟩ : Environment).textAt? path) := by
  rw [textAt?, find?_extend environment definitions fun name => target? name == some path,
    Option.map_or]
  rfl

end Environment

theorem Scalar.target?_variableName {α : Type} (scalar : Scalar α) :
    Environment.target? scalar.variableName = some scalar.path := by
  cases scalar <;> decide +kernel

/-! ## What is put into the settings -/

/-- What a group says about a setting, when something is put into some of its settings. -/
theorem Value.field?_putAll {placings : Placings} {names : List String} {name : String}
    {former : Option Value} (named : placings.AreNamed)
    (noList : placings ≠ [] → ∀ items, former ≠ some (.list items)) :
    (putAll placings former).bind (field? names name) =
      putAll (placings.below [.entry name]) (former.bind (field? names name)) := by
  by_cases empty : placings = []
  · subst empty
    rfl
  · have table : (putAll placings former).bind (field? names name) =
        (putAll placings former).bind (·.get? name) := by
      obtain ⟨entries, made⟩ := exists_putAll_eq_table named empty former
      rw [made]
      rfl
    have formerly : former.bind (field? names name) = former.bind (·.get? name) := by
      cases former with
      | none => rfl
      | some value =>
          cases value with
          | list items => exact absurd rfl (noList empty items)
          | _ => rfl
    rw [table, formerly, get?_putAll named]

/-- A suitable setting has the text of its variable, or else what it has without one. -/
theorem Scalar.decode_of_orDefault_putAll {α : Type} {scalar : Scalar α} {environment : Environment}
    (apart : environment.placings.AreApart) {former : Option Value} {value : α}
    (suitable : orDefault scalar.default scalar.decode
      (Value.putAll (environment.placings.below scalar.path) former) = some value) :
    (match environment.textAt? scalar.path with
      | some text => scalar.decode (.text text)
      | none => orDefault scalar.default scalar.decode former) = some value := by
  have here := environment.lookup_below_placings scalar.path
  rcases (apart.below scalar.path).eq_nil_or_eq_singleton_or_areInside with
    nothing | ⟨given, single⟩ | inside
  · rw [nothing] at here suitable
    rw [Option.map_eq_none_iff.mp here.symm]
    exact suitable
  · rw [single] at here suitable
    obtain ⟨text, found, rfl⟩ := Option.map_eq_some_iff.mp here.symm
    rw [found]
    exact suitable
  · obtain ⟨group, made, isGroup⟩ := Value.exists_putAll_eq_isGroup inside former
    rw [made, Value.orDefault_some, scalar.decode_of_isGroup isGroup] at suitable
    cases suitable

/-! ## Loading -/

namespace Surroundings

/-- What the `.env` file defines. -/
def definitions (surroundings : Surroundings) : List (String × String) :=
  match surroundings.dotenv with
  | some content => Dotenv.definitions surroundings.environment content
  | none => []

/-- What the settings file says. -/
def fileTable (surroundings : Surroundings) : Value :=
  match surroundings.fileEntries with
  | .ok entries => Value.assign (.table []) entries
  | .error _ => .table []

/-- What the settings file and the variables say. -/
def root (surroundings : Surroundings) : Value :=
  surroundings.fileTable.assign surroundings.completeEnvironment.assignments

/-- No two variables are for one setting, or for a setting and a group that it is in. Where a
variable reaches into a group, it names one of its settings, and the file has no list for the
group. -/
structure IsUnambiguous (surroundings : Surroundings) : Prop where
  apart : surroundings.completeEnvironment.placings.AreApart
  byName (part : Part) (step : Step) (rest : List Step) (value : Value)
    (member : (.entry part.name :: step :: rest, value) ∈
      surroundings.completeEnvironment.placings) :
    (∃ name, step = .entry name) ∧
      ∀ items, surroundings.fileTable.get? part.name ≠ some (.list items)

/-- Whatever is put into a group is put into one of its settings by name. -/
def ReachesByName (surroundings : Surroundings) : Prop :=
  ∀ (part : Part) (rest : List Step) (value : Value),
    (.entry part.name :: rest, value) ∈ surroundings.completeEnvironment.placings →
      (∃ name behind, rest = .entry name :: behind) ∧
        ∀ items, surroundings.fileTable.get? part.name ≠ some (.list items)

/-- The value of a setting: that of its variable in the environment, or else in the `.env` file, or
else in the settings file, or else its default. -/
def valueOf? (surroundings : Surroundings) {α : Type} (scalar : Scalar α) : Option α :=
  match surroundings.environment.textAt? scalar.path,
    (⟨surroundings.definitions⟩ : Environment).textAt? scalar.path,
    scalar.find? surroundings.fileTable with
  | some text, _, _ => scalar.decode (.text text)
  | none, some text, _ => scalar.decode (.text text)
  | none, none, some value => scalar.decode value
  | none, none, none => some scalar.default

variable {surroundings : Surroundings} {settings : Settings}

theorem completeEnvironment_eq_extend (surroundings : Surroundings) :
    surroundings.completeEnvironment =
      surroundings.environment.extend surroundings.definitions := by
  unfold completeEnvironment definitions
  cases surroundings.dotenv with
  | none => rfl
  | some content => exact Dotenv.load_eq_extend surroundings.environment content

theorem valueOf?_eq (surroundings : Surroundings) {α : Type} (scalar : Scalar α) :
    surroundings.valueOf? scalar =
      match surroundings.completeEnvironment.textAt? scalar.path with
      | some text => scalar.decode (.text text)
      | none => orDefault scalar.default scalar.decode (scalar.find? surroundings.fileTable) := by
  rw [completeEnvironment_eq_extend, Environment.textAt?_extend, valueOf?]
  cases surroundings.environment.textAt? scalar.path <;>
    cases (⟨surroundings.definitions⟩ : Environment).textAt? scalar.path <;>
    cases scalar.find? surroundings.fileTable <;> rfl

theorem some_root_eq_putAll (surroundings : Surroundings) :
    some surroundings.root = Value.putAll surroundings.completeEnvironment.placings
      (some surroundings.fileTable) :=
  Value.some_assign_eq_putAll _ _

theorem exists_root_eq_table (surroundings : Surroundings) :
    ∃ entries, surroundings.root = .table entries := by
  have isTable : ∃ entries, surroundings.fileTable = .table entries := by
    unfold fileTable
    split
    · exact Value.exists_assign_eq_table [] _
    · exact ⟨[], rfl⟩
  obtain ⟨entries, file⟩ := isTable
  rw [root, file]
  exact Value.exists_assign_eq_table entries _

theorem ofValue?_root_eq_some_iff :
    ofValue? surroundings.root = some settings ↔ Makes surroundings.root settings := by
  obtain ⟨entries, root⟩ := surroundings.exists_root_eq_table
  rw [root, ofValue?_eq_some_iff]

theorem load_eq_of_fileEntries {entries : List (String × Value)}
    (read : surroundings.fileEntries = .ok entries) :
    load surroundings = match ofValue? surroundings.root with
      | some settings => .ok settings
      | none => .error .unsuitable := by
  rw [load, read, root, fileTable, read]
  rfl

theorem load_eq_ok_iff : load surroundings = .ok settings ↔
    (∃ entries, surroundings.fileEntries = .ok entries) ∧ Makes surroundings.root settings := by
  cases read : surroundings.fileEntries with
  | error error => simp [load, read]
  | ok entries =>
      rw [load_eq_of_fileEntries read, ← ofValue?_root_eq_some_iff]
      cases ofValue? surroundings.root <;> simp

/-- An entry of the settings is what is put there or further inside, over what the file has. -/
theorem get?_root (surroundings : Surroundings) (name : String) :
    surroundings.root.get? name =
      Value.putAll (surroundings.completeEnvironment.placings.below [.entry name])
        (surroundings.fileTable.get? name) := by
  have laid := Value.get?_putAll surroundings.completeEnvironment.areNamed_placings name
    (some surroundings.fileTable)
  rwa [← some_root_eq_putAll] at laid

/-- Where the groups can be groups, no variable is for a group as a whole. -/
theorem IsUnambiguous.reachesByName (unambiguous : surroundings.IsUnambiguous)
    (groups : ∀ (part : Part) (value : Value),
      surroundings.root.get? part.name = some value → value.IsGroup) :
    surroundings.ReachesByName := by
  intro part rest value member
  have here := surroundings.completeEnvironment.lookup_below_placings [.entry part.name]
  have made := surroundings.get?_root part.name
  have below : (rest, value) ∈
      surroundings.completeEnvironment.placings.below [.entry part.name] :=
    Placings.mem_below.mpr member
  rcases (unambiguous.apart.below [.entry part.name]).eq_nil_or_eq_singleton_or_areInside with
    nothing | ⟨given, single⟩ | inside
  · rw [nothing] at below
    cases below
  · rw [single] at here made
    obtain ⟨text, -, rfl⟩ := Option.map_eq_some_iff.mp here.symm
    cases groups part (.text text) made
  · cases rest with
    | nil => exact absurd rfl (inside.2 _ below)
    | cons step behind =>
        obtain ⟨⟨name, rfl⟩, noList⟩ := unambiguous.byName part step behind value member
        exact ⟨⟨name, behind, rfl⟩, noList⟩

/-- What there is for a setting is what is put there or further inside, over what the file has. -/
theorem find?_root (byName : surroundings.ReachesByName) {α : Type} (scalar : Scalar α) :
    scalar.find? surroundings.root =
      Value.putAll (surroundings.completeEnvironment.placings.below scalar.path)
        (scalar.find? surroundings.fileTable) := by
  unfold Scalar.find? Scalar.path
  cases scalar.part? with
  | none => exact surroundings.get?_root scalar.name
  | some part =>
      have named : (surroundings.completeEnvironment.placings.below
          [.entry part.name]).AreNamed := by
        rintro ⟨rest, value⟩ member
        exact (byName part rest value (Placings.mem_below.mp member)).1
      have noList : surroundings.completeEnvironment.placings.below [.entry part.name] ≠ [] →
          ∀ items, surroundings.fileTable.get? part.name ≠ some (.list items) := by
        intro notEmpty
        obtain ⟨⟨rest, value⟩, member⟩ := List.exists_mem_of_ne_nil _ notEmpty
        exact (byName part rest value (Placings.mem_below.mp member)).2
      simp only [get?_root, Value.field?_putAll named noList, Placings.below_below]
      rfl

/-- Loaded settings have their values from the first place that says something about them. -/
theorem valueOf?_eq_some (unambiguous : surroundings.IsUnambiguous)
    (loaded : load surroundings = .ok settings) {α : Type} (scalar : Scalar α) :
    surroundings.valueOf? scalar = some (scalar.of settings) := by
  obtain ⟨-, makes⟩ := load_eq_ok_iff.mp loaded
  have suitable := makes.scalars scalar
  rw [find?_root (unambiguous.reachesByName makes.groups)] at suitable
  rw [valueOf?_eq]
  exact Scalar.decode_of_orDefault_putAll unambiguous.apart suitable

/-! ## One variable more -/

/-- Surroundings in which one variable is set that is not set in others, and its text. -/
inductive Adds (name text : String) : Surroundings → Surroundings → Prop where
  /-- The variable is in the environment, and the `.env` file defines what it defined without it. -/
  | inEnvironment {front back : List (String × String)} {dotenv : Option String}
      {file? : String → Option String} {readers : Readers}
      (isNew : (⟨front ++ back⟩ : Environment).get? name = none)
      (same : definitions ⟨⟨front ++ (name, text) :: back⟩, dotenv, file?, readers⟩ =
        definitions ⟨⟨front ++ back⟩, dotenv, file?, readers⟩) :
      Adds name text ⟨⟨front ++ back⟩, dotenv, file?, readers⟩
        ⟨⟨front ++ (name, text) :: back⟩, dotenv, file?, readers⟩
  /-- The `.env` file defines the variable, which keeps the text that it has already, if it has
  one. -/
  | inDotenv {environment : Environment} {before after : Option String}
      {file? : String → Option String} {readers : Readers} {front back : List (String × String)}
      {given : String}
      (former : definitions ⟨environment, before, file?, readers⟩ = front ++ back)
      (latter : definitions ⟨environment, after, file?, readers⟩ = front ++ (name, given) :: back)
      (isText : ((environment.get? name).or (front.lookup name)).getD given = text) :
      Adds name text ⟨environment, before, file?, readers⟩ ⟨environment, after, file?, readers⟩

section

variable {before after : Surroundings} {name text : String} {α : Type} {scalar : Scalar α}

theorem Adds.get?_eq_some (adds : Adds name text before after) :
    after.completeEnvironment.get? name = some text := by
  rw [completeEnvironment_eq_extend, Environment.get?_extend]
  cases adds with
  | @inEnvironment front back dotenv file? readers isNew same =>
      have unset : front.lookup name = none := by
        simp only [Environment.get?, List.lookup_append, Option.or_eq_none_iff] at isNew
        exact isNew.1
      simp [Environment.get?, List.lookup_append, unset]
  | inDotenv former latter isText =>
      subst isText
      rw [latter, List.lookup_append, List.lookup_cons_self, ← Option.or_assoc,
        Option.or_some]

theorem Adds.without_eq (adds : Adds name text before after) :
    after.completeEnvironment.without name = before.completeEnvironment.without name := by
  rw [completeEnvironment_eq_extend, completeEnvironment_eq_extend, Environment.without_extend,
    Environment.without_extend]
  cases adds with
  | inEnvironment isNew same =>
      rw [same]
      simp [Environment.without]
  | inDotenv former latter isText =>
      rw [former, latter]
      simp

/-- A variable for a setting does not name a settings file. -/
theorem Adds.fileEntries_eq {path : List Step} (adds : Adds name text before after)
    (target : Environment.target? name = some path) :
    after.fileEntries = before.fileEntries := by
  have distinct : fileVariable ≠ name := by
    rintro rfl
    rw [Environment.target?, settingName?_fileVariable] at target
    cases target
  cases adds with
  | @inEnvironment front back dotenv file? readers isNew same =>
      have named : namedFile? ⟨⟨front ++ (name, text) :: back⟩, dotenv, file?, readers⟩ =
          namedFile? ⟨⟨front ++ back⟩, dotenv, file?, readers⟩ := by
        unfold namedFile?
        rw [← Environment.get?_without distinct,
          ← Environment.get?_without distinct ⟨front ++ back⟩]
        simp [Environment.without]
      unfold fileEntries
      rw [named]
      rfl
  | inDotenv => rfl

theorem Adds.fileTable_eq {path : List Step} (adds : Adds name text before after)
    (target : Environment.target? name = some path) : after.fileTable = before.fileTable := by
  rw [fileTable, fileTable, adds.fileEntries_eq target]

/-- Nothing new is put anywhere but at the setting that the variable is for. -/
theorem Adds.below_eq {path other : List Step} (adds : Adds name text before after)
    (target : Environment.target? name = some path) (elsewhere : ¬other <+: path) :
    after.completeEnvironment.placings.below other =
      before.completeEnvironment.placings.below other := by
  have kept (tail : List Step) : (other ++ tail != path) = true := by
    rw [bne_iff_ne]
    rintro rfl
    exact elsewhere (List.prefix_append other tail)
  have outside (placings : Placings) :
      Placings.below other (placings.filter fun placing => placing.1 != path) =
        placings.below other :=
    @Placings.below_filter other (· != path) placings kept
  rw [← outside after.completeEnvironment.placings, ← outside before.completeEnvironment.placings,
    ← Environment.filter_placings_without target after.completeEnvironment, adds.without_eq,
    Environment.filter_placings_without target before.completeEnvironment]

theorem Adds.exists_mem_placings {path leads : List Step} {value : Value}
    (adds : Adds name text before after) (target : Environment.target? name = some path)
    (member : (leads, value) ∈ before.completeEnvironment.placings) :
    ∃ value, (leads, value) ∈ after.completeEnvironment.placings := by
  by_cases same : leads = path
  · subst same
    exact ⟨_, Environment.mem_placings target adds.get?_eq_some⟩
  · have kept : (leads, value) ∈
        before.completeEnvironment.placings.filter fun placing => placing.1 != path := by
      simp [member, same]
    rw [← Environment.filter_placings_without target, ← adds.without_eq,
      Environment.filter_placings_without target] at kept
    exact ⟨value, List.mem_of_mem_filter kept⟩

/-- At the setting that the variable is for there is its text. -/
theorem Adds.below_self {path : List Step} (adds : Adds name text before after)
    (target : Environment.target? name = some path) (unambiguous : after.IsUnambiguous) :
    after.completeEnvironment.placings.below path = [([], .text text)] := by
  refine (unambiguous.apart.below path).eq_singleton (Placings.mem_below.mpr ?_)
  rw [List.append_nil]
  exact Environment.mem_placings target adds.get?_eq_some

/-- Where the groups could be groups they still can. -/
theorem Adds.isGroup (adds : Adds name text before after)
    (target : Environment.target? name = some scalar.path) (unambiguous : after.IsUnambiguous)
    (groups : ∀ (part : Part) (value : Value),
      before.root.get? part.name = some value → value.IsGroup)
    (part : Part) (value : Value) (given : after.root.get? part.name = some value) :
    value.IsGroup := by
  rw [get?_root] at given
  by_cases reached : [.entry part.name] <+: scalar.path
  · obtain ⟨tail, path⟩ := reached
    have member : (tail, .text text) ∈
        after.completeEnvironment.placings.below [.entry part.name] := by
      rw [Placings.mem_below, path]
      exact Environment.mem_placings target adds.get?_eq_some
    cases tail with
    | nil => exact absurd path.symm (scalar.path_ne part)
    | cons step rest =>
        have inside := (unambiguous.apart.below [.entry part.name]).areInside member
        obtain ⟨group, made, isGroup⟩ :=
          Value.exists_putAll_eq_isGroup inside (after.fileTable.get? part.name)
        rw [made] at given
        rwa [← Option.some.inj given]
  · rw [adds.below_eq target reached, adds.fileTable_eq target, ← get?_root] at given
    exact groups part value given

/-- What holds of the paths with the variable holds of those without it. -/
theorem Adds.reachesByName {path : List Step} (adds : Adds name text before after)
    (target : Environment.target? name = some path)
    (byName : after.ReachesByName) : before.ReachesByName := by
  intro part rest value member
  obtain ⟨other, member⟩ := adds.exists_mem_placings target member
  rw [← adds.fileTable_eq target]
  exact byName part rest other member

/-- The setting that the variable is for has its text. -/
theorem Adds.find?_self (adds : Adds name text before after)
    (target : Environment.target? name = some scalar.path) (unambiguous : after.IsUnambiguous)
    (byName : after.ReachesByName) : scalar.find? after.root = some (.text text) := by
  rw [find?_root byName, adds.below_self target unambiguous]
  rfl

/-- The other settings have what they had. -/
theorem Adds.find?_eq {path : List Step} (adds : Adds name text before after)
    (target : Environment.target? name = some path) (byName : after.ReachesByName) {β : Type}
    (other : Scalar β) (elsewhere : ¬other.path <+: path) :
    other.find? after.root = other.find? before.root := by
  rw [find?_root byName, find?_root (adds.reachesByName target byName),
    adds.below_eq target elsewhere, adds.fileTable_eq target]

theorem Adds.get?_eq {path : List Step} {entry : String} (adds : Adds name text before after)
    (target : Environment.target? name = some path) (elsewhere : ¬[.entry entry] <+: path) :
    after.root.get? entry = before.root.get? entry := by
  rw [get?_root, get?_root, adds.below_eq target elsewhere, adds.fileTable_eq target]

theorem Adds.makes (adds : Adds name text before after)
    (target : Environment.target? name = some scalar.path) (unambiguous : after.IsUnambiguous)
    (makes : Makes before.root settings) {value : α}
    (meaning : scalar.decode (.text text) = some value) :
    Makes after.root (scalar.set value settings) := by
  have groups := adds.isGroup target unambiguous makes.groups
  have byName := unambiguous.reachesByName groups
  refine ⟨groups, fun other => ?scalars, ?providers, ?validators⟩
  case scalars =>
    rcases scalar.eq_or_of_set_eq other with same | ⟨elsewhere, kept⟩
    · cases same
      rw [adds.find?_self target unambiguous byName, Value.orDefault_some, meaning, scalar.of_set]
    · rw [adds.find?_eq target byName other elsewhere, kept]
      exact makes.scalars other
  case providers =>
    rw [scalar.providers_set, adds.get?_eq target scalar.not_prefix_path.1]
    exact makes.providers
  case validators =>
    rw [scalar.tokenValidators_set, adds.get?_eq target scalar.not_prefix_path.2]
    exact makes.tokenValidators

/-- One variable more makes the setting that it is for what its text means, and no other one
anything else; if the text means nothing, the settings are unsuitable. -/
theorem Adds.load_eq (adds : Adds name text before after)
    (target : Environment.target? name = some scalar.path) (unambiguous : after.IsUnambiguous)
    (loaded : load before = .ok settings) :
    load after = match scalar.decode (.text text) with
      | some value => .ok (scalar.set value settings)
      | none => .error .unsuitable := by
  obtain ⟨⟨entries, read⟩, makes⟩ := load_eq_ok_iff.mp loaded
  rw [load_eq_of_fileEntries ((adds.fileEntries_eq target).trans read)]
  cases meaning : scalar.decode (.text text) with
  | none =>
      cases made : ofValue? after.root with
      | none => rfl
      | some others =>
          have others := ofValue?_root_eq_some_iff.mp made
          have suitable := others.scalars scalar
          rw [adds.find?_self target unambiguous (unambiguous.reachesByName others.groups),
            Value.orDefault_some, meaning] at suitable
          cases suitable
  | some value =>
      have made := adds.makes target unambiguous makes meaning
      rw [ofValue?_root_eq_some_iff.mpr made]

end

/-- A `.env` file that refers to no variable defines the same with one variable more. -/
theorem Adds.of_not_mem {front back : List (String × String)} {name text : String}
    {dotenv : Option String} {file? : String → Option String} {readers : Readers}
    (isNew : (⟨front ++ back⟩ : Environment).get? name = none)
    (noReference : ∀ content, dotenv = some content → '$' ∉ content.toList) :
    Adds name text ⟨⟨front ++ back⟩, dotenv, file?, readers⟩
      ⟨⟨front ++ (name, text) :: back⟩, dotenv, file?, readers⟩ := by
  refine .inEnvironment isNew ?_
  cases dotenv with
  | none => rfl
  | some content => exact Dotenv.definitions_eq _ _ (noReference content rfl)

end Surroundings

/-! ## The settings file -/

/-- A default file that is missing is like one with nothing in it, whatever its format. -/
theorem load_eq_of_missing {surroundings : Surroundings} {other : String → Option String}
    {format : Format} {content : String} (unnamed : surroundings.namedFile? = none)
    (missing : surroundings.settingsFile? defaultFile = none)
    (found : Surroundings.settingsFile? { surroundings with file? := other } defaultFile =
      some (format, content))
    (empty : surroundings.readers.read? format content = some []) :
    load surroundings = load { surroundings with file? := other } := by
  have unnamed' : Surroundings.namedFile? { surroundings with file? := other } = none := unnamed
  have entries : surroundings.fileEntries = .ok [] := by
    simp only [Surroundings.fileEntries, unnamed, Surroundings.entriesOf, missing]
  have others : Surroundings.fileEntries { surroundings with file? := other } = .ok [] := by
    simp only [Surroundings.fileEntries, unnamed', Surroundings.entriesOf, found,
      Surroundings.entriesIn, empty]
  rw [load, load, entries, others]
  rfl

/-- Settings have their values from the environment, or else from the `.env` file, or else from the
settings file, or else by default. One variable more changes the setting that it is for and no other
one, or makes the settings unsuitable. A default settings file may be missing, as if it were empty,
and one that an operator names may not. All this holds whatever the format of the file is. -/
theorem settings_precedence (surroundings : Surroundings) :
    (surroundings.IsUnambiguous →
      (∀ settings, load surroundings = .ok settings →
        ∀ {α : Type} (scalar : Scalar α),
          surroundings.valueOf? scalar = some (scalar.of settings)) ∧
      ∀ (before : Surroundings) (name text : String) (settings : Settings) {α : Type}
        (scalar : Scalar α), Environment.target? name = some scalar.path →
          Surroundings.Adds name text before surroundings → load before = .ok settings →
            load surroundings = match scalar.decode (.text text) with
              | some value => .ok (scalar.set value settings)
              | none => .error .unsuitable) ∧
    (surroundings.namedFile? = none → surroundings.settingsFile? defaultFile = none →
      ∀ other format content, Surroundings.settingsFile? { surroundings with file? := other }
          defaultFile = some (format, content) →
        surroundings.readers.read? format content = some [] →
          load surroundings = load { surroundings with file? := other }) ∧
    ∀ name, surroundings.namedFile? = some name → surroundings.settingsFile? name = none →
      load surroundings = .error (.missingFile name) := by
  refine ⟨fun unambiguous => ⟨fun settings loaded _ scalar => ?_, ?_⟩, ?_, ?_⟩
  · exact Surroundings.valueOf?_eq_some unambiguous loaded scalar
  · intro before name text settings _ scalar target adds loaded
    exact adds.load_eq target unambiguous loaded
  · exact fun unnamed missing other format content => load_eq_of_missing unnamed missing
  · intro name named missing
    simp only [load, Surroundings.fileEntries, named, Surroundings.entriesOf, missing]

/-- The port comes from the environment, the level from the `.env` file, the name from the settings
file, which is written in YAML, and the rest by default. -/
theorem settings_precedence_port :
    let yaml := "service_name: groups\n"
    let readers : Readers :=
      { read?
          | .json => readEntries?
          | .yaml => fun content =>
              if content = yaml then some [("service_name", .text "groups")] else none
          | _ => fun _ => none
        order := Format.all
        read?_json := rfl
        mem_order := Format.mem_all }
    let file? (given content : String) (name : String) : Option String :=
      if name = given then some content else none
    let named := file? "configuration.yaml" yaml
    let braces := file? "configuration.json" "\x7b\x7d"
    let dotenv := some "APP__SERVER__LOG_LEVEL=debug\n"
    let environment : Environment := ⟨[("APP__SERVER__PORT", "9000")]⟩
    let settings : Settings := { server := { logLevel := "debug" }, serviceName := "groups" }
    load ⟨environment, dotenv, named, readers⟩ = .ok { settings with server.port := 9000 } ∧
      Surroundings.valueOf? ⟨environment, dotenv, named, readers⟩ .logLevel = some "debug" ∧
        load ⟨environment, dotenv, fun _ => none, readers⟩ =
          load ⟨environment, dotenv, braces, readers⟩ ∧
        load ⟨⟨[(fileVariable, "elsewhere.toml")]⟩, none, named, readers⟩ =
          .error (.missingFile "elsewhere.toml") := by
  intro yaml readers file? named braces dotenv environment settings
  have formerly : load ⟨⟨[]⟩, dotenv, named, readers⟩ = .ok settings := by decide +kernel
  have unambiguous : Surroundings.IsUnambiguous ⟨environment, dotenv, named, readers⟩ := by
    refine ⟨by decide +kernel, fun part step rest value member => ?_⟩
    have paths : (Surroundings.completeEnvironment
        ⟨environment, dotenv, named, readers⟩).placings.map Prod.fst =
          [[.entry "server", .entry "port"], [.entry "server", .entry "log_level"]] := by
      decide +kernel
    have noServer : ((Surroundings.fileTable
        ⟨environment, dotenv, named, readers⟩).get? "server").isNone := by
      decide +kernel
    have path := List.mem_map_of_mem (f := Prod.fst) member
    rw [paths] at path
    simp only [List.mem_cons, List.not_mem_nil, or_false, List.cons.injEq, Step.entry.injEq]
      at path
    have isServer : part.name = "server" := path.elim And.left And.left
    rw [isServer, Option.isNone_iff_eq_none.mp noServer]
    refine ⟨?_, fun _ => nofun⟩
    exact path.elim (fun port => ⟨_, port.2.1⟩) (fun level => ⟨_, level.2.1⟩)
  have adds : Surroundings.Adds "APP__SERVER__PORT" "9000" ⟨⟨[]⟩, dotenv, named, readers⟩
      ⟨environment, dotenv, named, readers⟩ := by
    refine @Surroundings.Adds.of_not_mem [] [] _ _ dotenv named readers rfl
      fun content isContent => ?_
    obtain rfl := Option.some.inj isContent
    decide +kernel
  obtain ⟨value, more⟩ :=
    (settings_precedence ⟨environment, dotenv, named, readers⟩).1 unambiguous
  have loaded := more _ _ _ settings .port Scalar.port.target?_variableName adds formerly
  refine ⟨loaded, value _ loaded .logLevel, ?_, ?_⟩
  · have missing : Surroundings.settingsFile?
        ⟨environment, dotenv, fun _ => none, readers⟩ defaultFile = none := by
      decide +kernel
    have found : Surroundings.settingsFile? ⟨environment, dotenv, braces, readers⟩ defaultFile =
        some (.json, "\x7b\x7d") := by
      decide +kernel
    exact (settings_precedence ⟨environment, dotenv, fun _ => none, readers⟩).2.1 rfl missing
      braces .json _ found rfl
  · exact (settings_precedence
      ⟨⟨[(fileVariable, "elsewhere.toml")]⟩, none, named, readers⟩).2.2 "elsewhere.toml" rfl
        (by decide +kernel)

/-- A variable that reaches into a group that is written as a list changes the other settings of the
group, one that names an item of the group sets a setting that it does not name, and one that a
`.env` file refers to changes another setting. -/
theorem settings_precedence_fails :
    let file? (name : String) : Option String :=
      if name = "configuration.json" then some "\x7b\"server\":[9000,\"debug\"]\x7d" else none
    let listed : Surroundings := ⟨⟨[("APP__SERVER__PORT", "1")]⟩, none, file?, .ofJson⟩
    let item : Surroundings :=
      ⟨⟨[("APP__SERVER[0]", "9000")]⟩, none, fun _ => none, .ofJson⟩
    let dotenv := some "APP__SERVICE_NAME=\"$\x7bAPP__SERVER__PORT\x7d\"\n"
    let unset : Surroundings := ⟨⟨[]⟩, dotenv, fun _ => none, .ofJson⟩
    let referred : Surroundings :=
      ⟨⟨[("APP__SERVER__PORT", "9000")]⟩, dotenv, fun _ => none, .ofJson⟩
    (listed.completeEnvironment.placings.AreApart ∧ listed.valueOf? .logLevel = some "debug" ∧
      (load listed).toOption.map Scalar.logLevel.of = some "info") ∧
    (item.completeEnvironment.placings.AreApart ∧ item.valueOf? .port = some 8080 ∧
      (load item).toOption.map Scalar.port.of = some 9000) ∧
    (referred.completeEnvironment.placings.AreApart ∧
      (load unset).toOption.map Scalar.serviceName.of = some "" ∧
        (load referred).toOption.map Scalar.serviceName.of = some "9000") := by
  decide +kernel

end GroupFederation.Settings
