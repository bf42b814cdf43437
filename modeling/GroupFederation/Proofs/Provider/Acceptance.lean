import GroupFederation.Proofs.Text.Trimming
import GroupFederation.Settings.Basic
import Mathlib.Data.List.Forall2

/-!
# Which lists of provider entries are accepted

An entry can have five faults, which are looked for in a fixed order: no kind goes by the word that
it gives for one, its name says nothing, its address is nothing but slashes, its organization says
nothing, or it leaves no time for an answer. An entry without faults is taken over as it is, up to
space and slashes around its texts. A list is refused if there is nothing in it, or for the first
fault of its first faulty entry, or, when no entry has a fault, because more than one is a registry.
-/

namespace GroupFederation.Provider

/-! ## Kinds -/

namespace Kind

/-- The words that a kind goes by. -/
def words : Kind → List String
  | .grouper => ["grouper"]
  | .voot2 => ["voot2"]
  | .openSocial => ["open_social", "opensocial"]

/-- A text is a word for a kind, in letters of either case and with blank characters around it. -/
def IsNamedBy (kind : Kind) (text : String) : Prop :=
  ∃ (front : List Char) (word : String) (back : List Char),
    Text.IsBlank front ∧ Text.IsBlank back ∧ text.toList = front ++ word.toList ++ back ∧
      Text.lower word ∈ kind.words

theorem visible_of_mem_words {kind : Kind} {word : String} (member : word ∈ kind.words) :
    ∀ character ∈ word.toList, Text.isBlank character = false := by
  have visible : (kind.words.all fun word =>
      word.toList.all fun character => !Text.isBlank character) = true := by
    cases kind <;> decide
  simpa using List.all_eq_true.mp (List.all_eq_true.mp visible word member)

theorem isNamedBy_iff {kind : Kind} {text : String} :
    kind.IsNamedBy text ↔ Text.lower (Text.trim text) ∈ kind.words := by
  constructor
  · rintro ⟨front, word, back, frontBlank, backBlank, whole, member⟩
    have trimmed : Text.IsTrimmed word := .of_visible fun character =>
      Text.isBlank_of_mem_lower (visible_of_mem_words member)
    rwa [Text.trim_eq_iff.mpr ⟨trimmed, front, back, frontBlank, backBlank, whole⟩]
  · intro member
    obtain ⟨-, front, back, frontBlank, backBlank, whole⟩ :=
      Text.trim_eq_iff.mp (rfl : Text.trim text = Text.trim text)
    exact ⟨front, Text.trim text, back, frontBlank, backBlank, whole, member⟩

instance (kind : Kind) (text : String) : Decidable (kind.IsNamedBy text) :=
  decidable_of_iff _ isNamedBy_iff.symm

theorem isExternal_eq_false_iff {kind : Kind} : kind.isExternal = false ↔ kind = .grouper := by
  cases kind <;> decide

theorem read_eq_ok_iff {text : String} {kind : Kind} :
    read text = .ok kind ↔ kind.IsNamedBy text := by
  rw [isNamedBy_iff, read]
  cases kind <;> simp only [words, List.mem_cons, List.not_mem_nil, or_false] <;> grind

/-- No word is one for two kinds. -/
theorem IsNamedBy.unique {kind other : Kind} {text : String} (named : kind.IsNamedBy text)
    (otherNamed : other.IsNamedBy text) : kind = other :=
  Except.ok.inj ((read_eq_ok_iff.mpr named).symm.trans (read_eq_ok_iff.mpr otherNamed))

theorem read_eq_error_iff {text word : String} :
    read text = .error word ↔
      (∀ kind : Kind, ¬kind.IsNamedBy text) ∧ word = Text.lower (Text.trim text) := by
  cases known : read text with
  | ok kind => simpa using fun none => absurd (read_eq_ok_iff.mp known) (none kind)
  | error other =>
      have none (kind : Kind) : ¬kind.IsNamedBy text := fun named => by
        rw [← read_eq_ok_iff, known] at named
        cases named
      have handedBack : other = Text.lower (Text.trim text) := by
        unfold read at known
        grind
      simp only [Except.error.injEq, none, not_false_eq_true, implies_true, true_and, handedBack]
      exact eq_comm

end Kind

/-! ## Addresses -/

/-- An address that is nothing but slashes, with blank characters around them. -/
def NamesNoPlace (url : String) : Prop :=
  ∃ front slashes back, Text.IsBlank front ∧ Text.IsBlank back ∧
    (∀ character ∈ slashes, character = '/') ∧ url.toList = front ++ slashes ++ back

theorem normalizeUrl_eq_empty_iff {url : String} :
    Config.normalizeUrl url = "" ↔ NamesNoPlace url := by
  rw [Config.normalizeUrl, String.ofList_eq_empty_iff, Text.dropEndWhile_eq_iff]
  constructor
  · rintro ⟨-, slashes, dropped, remains⟩
    obtain ⟨-, front, back, frontBlank, backBlank, whole⟩ :=
      Text.trim_eq_iff.mp (rfl : Text.trim url = Text.trim url)
    rw [remains, List.nil_append] at whole
    exact ⟨front, slashes, back, frontBlank, backBlank, by simpa using dropped, whole⟩
  · rintro ⟨front, slashes, back, frontBlank, backBlank, dropped, whole⟩
    have trimmed : Text.IsTrimmed (String.ofList slashes) := .of_visible fun character member => by
      rw [dropped character (by simpa using member)]
      decide
    have remains : Text.trim url = String.ofList slashes :=
      Text.trim_eq_iff.mpr ⟨trimmed, front, back, frontBlank, backBlank, by simpa using whole⟩
    exact ⟨by simp [Text.KeepsEnd], slashes, by simpa using dropped, by simp [remains]⟩

/-! ## Entries -/

/-- What can be wrong with an entry. -/
inductive Fault where
  | kind
  | name
  | url
  | organization
  | timeout
  deriving DecidableEq, Repr

/-- When a fault is looked for. -/
def Fault.turn : Fault → Nat
  | .kind => 0
  | .name => 1
  | .url => 2
  | .organization => 3
  | .timeout => 4

theorem Fault.turn_injective : Function.Injective Fault.turn := by
  intro left right
  cases left <;> cases right <;> decide

namespace Entry

/-- A fault is there. -/
def Has (entry : Entry) : Fault → Prop
  | .kind => ∀ kind : Kind, ¬kind.IsNamedBy entry.kind
  | .name => Text.IsBlank entry.name.toList
  | .url => NamesNoPlace entry.url
  | .organization => Text.IsBlank entry.organization.toList
  | .timeout => entry.timeout = 0

/-- How a fault is reported. An entry without a name is referred to by its address. -/
def report (entry : Entry) : Fault → ConfigError
  | .kind => .unknownProviderKind entry.name (Text.lower (Text.trim entry.kind))
  | .name => .missingField entry.url "name"
  | .url => .missingField (Text.trim entry.name) "url"
  | .organization => .missingField (Text.trim entry.name) "schac_home_organization"
  | .timeout => .invalidTimeout (Text.trim entry.name)

/-- The fault that is found first. -/
structure IsFirstFault (entry : Entry) (fault : Fault) : Prop where
  has : entry.Has fault
  noneBefore : ∀ earlier : Fault, earlier.turn < fault.turn → ¬entry.Has earlier

/-- An entry without faults. -/
def IsValid (entry : Entry) : Prop :=
  ∀ fault, ¬entry.Has fault

/-- The definition that an entry stands for. -/
structure IsWrittenAs (entry : Entry) (config : Config) : Prop where
  kind : config.kind.IsNamedBy entry.kind
  url : config.url = Config.normalizeUrl entry.url
  credentials : config.credentials = ⟨entry.username, entry.secret⟩
  timeout : config.timeout = entry.timeout
  organization : config.organization = Text.trim entry.organization
  name : config.name = Text.trim entry.name
  listsMembers : config.listsMembers = entry.listsMembers

variable {entry : Entry} {fault other : Fault} {config : Config}

theorem IsFirstFault.not_isValid (first : entry.IsFirstFault fault) : ¬entry.IsValid :=
  fun valid => valid fault first.has

theorem IsFirstFault.unique (first : entry.IsFirstFault fault)
    (otherFirst : entry.IsFirstFault other) : fault = other := by
  apply Fault.turn_injective
  apply le_antisymm
  · exact not_lt.mp fun before => first.noneBefore other before otherFirst.has
  · exact not_lt.mp fun before => otherFirst.noneBefore fault before first.has

theorem has_name_iff : entry.Has .name ↔ Text.trim entry.name = "" := by
  rw [Text.trim_eq_empty_iff, Text.isBlankText_iff, Has]

theorem has_url_iff : entry.Has .url ↔ Config.normalizeUrl entry.url = "" :=
  normalizeUrl_eq_empty_iff.symm

theorem has_organization_iff : entry.Has .organization ↔ Text.trim entry.organization = "" := by
  rw [Text.trim_eq_empty_iff, Text.isBlankText_iff, Has]

/-- A fault is the first one if none of those that are looked for before it is there. -/
theorem IsFirstFault.of_absent (has : entry.Has fault)
    (absent : ∀ earlier ∈ [Fault.kind, .name, .url, .organization, .timeout].take fault.turn,
      ¬entry.Has earlier) : entry.IsFirstFault fault := by
  refine ⟨has, fun earlier before => absent earlier ?_⟩
  cases fault <;> cases earlier <;> first | exact absurd before (by decide) | decide

/-- An entry is refused for its first fault or, when it has none, taken over as it is written. -/
theorem ofEntry_cases (entry : Entry) :
    (∃ fault, entry.IsFirstFault fault ∧ Config.ofEntry entry = .error (entry.report fault)) ∨
      entry.IsValid ∧ ∃ config, entry.IsWrittenAs config ∧ Config.ofEntry entry = .ok config := by
  unfold Config.ofEntry
  cases known : Kind.read entry.kind with
  | error word =>
      obtain ⟨none, rfl⟩ := Kind.read_eq_error_iff.mp known
      exact .inl ⟨.kind, .of_absent none (by simp [Fault.turn]), rfl⟩
  | ok kind =>
      have word := Kind.read_eq_ok_iff.mp known
      have named : ¬entry.Has .kind := fun none => none kind word
      simp only [Config.ofFields]
      split_ifs with nameless nowhere unowned impatient
      · exact .inl ⟨.name, .of_absent (has_name_iff.mpr nameless) (by simp [Fault.turn, named]),
          rfl⟩
      all_goals rw [← has_name_iff] at nameless
      · exact .inl ⟨.url, .of_absent (has_url_iff.mpr nowhere)
          (by simp [Fault.turn, named, nameless]), rfl⟩
      all_goals rw [← has_url_iff] at nowhere
      · exact .inl ⟨.organization, .of_absent (has_organization_iff.mpr unowned)
          (by simp [Fault.turn, named, nameless, nowhere]), rfl⟩
      all_goals rw [← has_organization_iff] at unowned
      · exact .inl ⟨.timeout, .of_absent impatient
          (by simp [Fault.turn, named, nameless, nowhere, unowned]), rfl⟩
      · refine .inr ⟨fun fault => ?valid, _, ?written, rfl⟩
        case valid =>
          cases fault with
          | kind => exact named
          | name => exact nameless
          | url => exact nowhere
          | organization => exact unowned
          | timeout => exact impatient
        case written => exact ⟨word, rfl, rfl, rfl, rfl, rfl, rfl⟩

theorem IsWrittenAs.unique {otherConfig : Config} (written : entry.IsWrittenAs config)
    (otherWritten : entry.IsWrittenAs otherConfig) : config = otherConfig := by
  cases config with
  | mk =>
      cases otherConfig with
      | mk =>
          rw [Config.mk.injEq]
          exact ⟨written.kind.unique otherWritten.kind, written.url.trans otherWritten.url.symm,
            written.credentials.trans otherWritten.credentials.symm,
            written.timeout.trans otherWritten.timeout.symm,
            written.organization.trans otherWritten.organization.symm,
            written.name.trans otherWritten.name.symm,
            written.listsMembers.trans otherWritten.listsMembers.symm⟩

theorem ofEntry_eq_ok_iff :
    Config.ofEntry entry = .ok config ↔ entry.IsValid ∧ entry.IsWrittenAs config := by
  rcases ofEntry_cases entry with ⟨fault, first, refused⟩ | ⟨valid, taken, written, accepted⟩
  · simp [refused, first.not_isValid]
  · rw [accepted, Except.ok.injEq]
    exact ⟨fun same => ⟨valid, same ▸ written⟩, fun ⟨_, other⟩ => written.unique other⟩

theorem ofEntry_eq_error_iff {error : ConfigError} :
    Config.ofEntry entry = .error error ↔
      ∃ fault, entry.IsFirstFault fault ∧ error = entry.report fault := by
  rcases ofEntry_cases entry with ⟨fault, first, refused⟩ | ⟨valid, taken, written, accepted⟩
  · rw [refused, Except.error.injEq]
    constructor
    · rintro rfl
      exact ⟨fault, first, rfl⟩
    · rintro ⟨other, otherFirst, rfl⟩
      rw [first.unique otherFirst]
  · simp only [accepted, reduceCtorEq, false_iff, not_exists, not_and]
    exact fun fault first => absurd valid first.not_isValid

end Entry

/-! ## Lists of entries -/

/-- The entries that are registries. -/
def registries (entries : List Entry) : List Entry :=
  entries.filter fun entry => Kind.grouper.IsNamedBy entry.kind

/-- A list of entries that stand for providers. -/
structure IsAcceptable (entries : List Entry) : Prop where
  notEmpty : entries ≠ []
  valid : ∀ entry ∈ entries, entry.IsValid
  atMostOneRegistry : (registries entries).length ≤ 1

/-- Why a list of entries is refused. -/
inductive IsRefused (entries : List Entry) : ConfigError → Prop where
  | empty (none : entries = []) : IsRefused entries .noProviders
  | faulty {front back : List Entry} {entry : Entry} {fault : Fault}
      (split : entries = front ++ entry :: back) (before : ∀ earlier ∈ front, earlier.IsValid)
      (first : entry.IsFirstFault fault) : IsRefused entries (entry.report fault)
  | registries (valid : ∀ entry ∈ entries, entry.IsValid)
      (several : 1 < (registries entries).length) :
      IsRefused entries
        (.multipleAuthoritativeProviders ((registries entries).map fun entry =>
          Text.trim entry.name))

section

variable {α : Type} {passes stops : α → Prop} {item : α} {items : List α}

/-- Where a list is left: at its first item, or behind that one. -/
theorem exists_stop_cons_iff :
    (∃ front stop back, item :: items = front ++ stop :: back ∧
        (∀ earlier ∈ front, passes earlier) ∧ stops stop) ↔
      stops item ∨ passes item ∧ ∃ front stop back, items = front ++ stop :: back ∧
        (∀ earlier ∈ front, passes earlier) ∧ stops stop := by
  constructor
  · rintro ⟨_ | ⟨first, front⟩, stop, back, split, before, here⟩
    · obtain ⟨rfl, -⟩ := List.cons.inj split
      exact .inl here
    · obtain ⟨rfl, rest⟩ := List.cons.inj split
      obtain ⟨itemPasses, before⟩ := List.forall_mem_cons.mp before
      exact .inr ⟨itemPasses, front, stop, back, rest, before, here⟩
  · rintro (here | ⟨itemPasses, front, stop, back, rfl, before, here⟩)
    · exact ⟨[], item, items, rfl, by simp, here⟩
    · exact ⟨item :: front, stop, back, rfl, List.forall_mem_cons.mpr ⟨itemPasses, before⟩, here⟩

end

variable {entries : List Entry} {configs : List Config} {error : ConfigError}

theorem ofEntries_eq_ok_iff :
    Config.ofEntries entries = .ok configs ↔
      (∀ entry ∈ entries, entry.IsValid) ∧ List.Forall₂ Entry.IsWrittenAs entries configs := by
  rw [← List.forall₂_and_left]
  simp only [← Entry.ofEntry_eq_ok_iff]
  induction entries generalizing configs with
  | nil =>
      rw [List.forall₂_nil_left_iff, Config.ofEntries, Except.ok.injEq]
      exact eq_comm
  | cons entry entries inductionHypothesis =>
      rw [List.forall₂_cons_left_iff, Config.ofEntries]
      simp only [← inductionHypothesis]
      cases Config.ofEntry entry with
      | error error => simp
      | ok config => cases Config.ofEntries entries <;> simp [eq_comm]

/-- The entries are looked at up to the first one that has a fault. -/
theorem ofEntries_eq_error_iff :
    Config.ofEntries entries = .error error ↔
      ∃ front entry back, entries = front ++ entry :: back ∧
        (∀ earlier ∈ front, earlier.IsValid) ∧ Config.ofEntry entry = .error error := by
  induction entries with
  | nil => simp [Config.ofEntries]
  | cons entry entries inductionHypothesis =>
      rw [exists_stop_cons_iff, ← inductionHypothesis, Config.ofEntries]
      rcases entry.ofEntry_cases with ⟨fault, first, refused⟩ | ⟨valid, config, -, accepted⟩
      · simp [refused, first.not_isValid]
      · cases rest : Config.ofEntries entries <;> simp [accepted, valid]

theorem exists_ofEntries_eq_ok (valid : ∀ entry ∈ entries, entry.IsValid) :
    ∃ configs, Config.ofEntries entries = .ok configs := by
  cases result : Config.ofEntries entries with
  | ok configs => exact ⟨configs, rfl⟩
  | error error =>
      obtain ⟨front, entry, back, rfl, -, refused⟩ := ofEntries_eq_error_iff.mp result
      obtain ⟨fault, first, -⟩ := Entry.ofEntry_eq_error_iff.mp refused
      exact absurd (valid entry (by simp)) first.not_isValid

/-- Who is authoritative among the definitions is known from the entries. -/
theorem authoritative_names (written : List.Forall₂ Entry.IsWrittenAs entries configs) :
    (configs.filter fun config => !config.isExternal).map Config.name =
      (registries entries).map fun entry => Text.trim entry.name := by
  induction written with
  | nil => rfl
  | @cons entry config entries configs taken _ inductionHypothesis =>
      have same : (!config.isExternal) = decide (Kind.grouper.IsNamedBy entry.kind) := by
        rw [Bool.eq_iff_iff, decide_eq_true_iff, Bool.not_eq_true', Config.isExternal,
          Kind.isExternal_eq_false_iff]
        exact ⟨fun grouper => grouper ▸ taken.kind, taken.kind.unique⟩
      rw [registries] at inductionHypothesis ⊢
      rw [List.filter_cons, List.filter_cons, same]
      split_ifs
      · rw [List.map_cons, List.map_cons, inductionHypothesis, taken.name]
      · exact inductionHypothesis

theorem acceptAll_of_refused (refused : Config.ofEntries entries = .error error) :
    Config.acceptAll entries = .error error := by
  cases entries with
  | nil => cases refused
  | cons entry entries => simp only [Config.acceptAll, refused]

theorem acceptAll_of_valid (notEmpty : entries ≠ [])
    (accepted : Config.ofEntries entries = .ok configs) :
    Config.acceptAll entries =
      if 1 < (registries entries).length then
        .error (.multipleAuthoritativeProviders ((registries entries).map fun entry =>
          Text.trim entry.name))
      else .ok configs := by
  have names := authoritative_names (ofEntries_eq_ok_iff.mp accepted).2
  have count := congrArg List.length names
  rw [List.length_map, List.length_map] at count
  cases entries with
  | nil => exact absurd rfl notEmpty
  | cons entry entries => simp only [Config.acceptAll, accepted, names, count]

theorem acceptAll_eq_ok_iff :
    Config.acceptAll entries = .ok configs ↔
      IsAcceptable entries ∧ List.Forall₂ Entry.IsWrittenAs entries configs := by
  by_cases none : entries = []
  · subst none
    exact ⟨nofun, fun ⟨acceptable, _⟩ => absurd rfl acceptable.notEmpty⟩
  cases result : Config.ofEntries entries with
  | error error =>
      rw [acceptAll_of_refused result]
      refine ⟨nofun, fun ⟨acceptable, written⟩ => ?_⟩
      rw [ofEntries_eq_ok_iff.mpr ⟨acceptable.valid, written⟩] at result
      cases result
  | ok taken =>
      obtain ⟨valid, written⟩ := ofEntries_eq_ok_iff.mp result
      rw [acceptAll_of_valid none result]
      split_ifs with several
      · exact ⟨nofun, fun ⟨acceptable, _⟩ =>
          absurd several (not_lt.mpr acceptable.atMostOneRegistry)⟩
      · have acceptable : IsAcceptable entries := ⟨none, valid, not_lt.mp several⟩
        rw [← result, ofEntries_eq_ok_iff]
        exact ⟨fun ⟨_, other⟩ => ⟨acceptable, other⟩, fun ⟨_, other⟩ => ⟨valid, other⟩⟩

theorem exists_acceptAll_eq_ok_iff :
    (∃ configs, Config.acceptAll entries = .ok configs) ↔ IsAcceptable entries := by
  constructor
  · rintro ⟨configs, accepted⟩
    exact (acceptAll_eq_ok_iff.mp accepted).1
  · intro acceptable
    obtain ⟨configs, accepted⟩ := exists_ofEntries_eq_ok acceptable.valid
    refine ⟨configs, acceptAll_eq_ok_iff.mpr ⟨acceptable, ?_⟩⟩
    exact (ofEntries_eq_ok_iff.mp accepted).2

theorem acceptAll_eq_error_iff :
    Config.acceptAll entries = .error error ↔ IsRefused entries error := by
  constructor
  · intro refused
    by_cases none : entries = []
    · subst none
      cases refused
      exact .empty rfl
    cases result : Config.ofEntries entries with
    | error other =>
        rw [acceptAll_of_refused result] at refused
        cases refused
        obtain ⟨front, entry, back, split, before, reported⟩ := ofEntries_eq_error_iff.mp result
        obtain ⟨fault, first, rfl⟩ := Entry.ofEntry_eq_error_iff.mp reported
        exact .faulty split before first
    | ok configs =>
        rw [acceptAll_of_valid none result] at refused
        split_ifs at refused with several
        cases refused
        exact .registries (ofEntries_eq_ok_iff.mp result).1 several
  · intro refused
    cases refused with
    | empty none => rw [none, Config.acceptAll]
    | faulty split before first =>
        exact acceptAll_of_refused (ofEntries_eq_error_iff.mpr
          ⟨_, _, _, split, before, Entry.ofEntry_eq_error_iff.mpr ⟨_, first, rfl⟩⟩)
    | registries valid several =>
        obtain ⟨configs, accepted⟩ := exists_ofEntries_eq_ok valid
        have notEmpty : entries ≠ [] := by
          rintro rfl
          cases several
        rw [acceptAll_of_valid notEmpty accepted, if_pos several]

end GroupFederation.Provider

namespace GroupFederation.Settings

open Provider

/-- The provider entries of the settings are accepted exactly if there are some, none of them has a
fault and at most one is a registry. Then they are taken over one by one, in their order. Otherwise
the first fault of the first faulty entry is reported, and only when no entry has a fault that
there are several registries, with the names of them all. -/
theorem providerConfigs_accepts_iff (settings : Settings) :
    ((∃ configs, settings.providerConfigs = .ok configs) ↔ IsAcceptable settings.providers) ∧
      (∀ configs, settings.providerConfigs = .ok configs ↔
        IsAcceptable settings.providers ∧
          List.Forall₂ Entry.IsWrittenAs settings.providers configs) ∧
      ∀ error, settings.providerConfigs = .error error ↔ IsRefused settings.providers error :=
  ⟨exists_acceptAll_eq_ok_iff, fun _ => acceptAll_eq_ok_iff, fun _ => acceptAll_eq_error_iff⟩

/-- The second entry has the first fault, and its kind is looked at before its name. -/
example :
    let entry (kind name : String) : Entry :=
      ⟨kind, "http://a.test", "user", "secret", 500, "example.org", name, false⟩
    Config.acceptAll [entry " Grouper" "a", entry "ldap" " ", entry "grouper" ""] =
      .error (.unknownProviderKind " " "ldap") := by
  decide +kernel

end GroupFederation.Settings
