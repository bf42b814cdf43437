import GroupFederation.Proofs.Provider.Acceptance

/-!
# Definitions in normal form

A definition is written without blank characters around its texts and without slashes at the end of
its address, so that to validate it again changes nothing. The address is the exception: it is
trimmed first and loses its slashes then, and a blank character right before them comes to stand at
its end. To validate such a definition again gives another one, or none.
-/

namespace GroupFederation.Text

variable {text : String}

/-- Trimming leaves trimmed texts alone, and no others. -/
theorem trim_eq_self_iff : trim text = text ↔ IsTrimmed text := by
  rw [trim_eq_iff]
  exact and_iff_left_of_imp fun _ => ⟨[], [], by simp [IsBlank], by simp [IsBlank], by simp⟩

theorem isTrimmed_trim (text : String) : IsTrimmed (trim text) :=
  (trim_eq_iff.mp rfl).1

end GroupFederation.Text

namespace GroupFederation.Provider

open Text (IsBlank IsTrimmed KeepsEnd KeepsStart isBlank)

namespace Config

/-! ## Addresses -/

section Addresses

variable {url : String}

/-- What an address is between the blank characters around it: its normal form and slashes. -/
theorem exists_trim_eq_normalizeUrl (url : String) :
    ∃ slashes : List Char, (∀ character ∈ slashes, character = '/') ∧
      (Text.trim url).toList = (normalizeUrl url).toList ++ slashes := by
  obtain ⟨slashes, areSlashes, whole⟩ :=
    Text.exists_append_dropEndWhile (· == '/') (Text.trim url).toList
  refine ⟨slashes, by simpa using areSlashes, ?_⟩
  rw [normalizeUrl, String.toList_ofList]
  exact whole

theorem keepsEnd_normalizeUrl (url : String) : KeepsEnd (· == '/') (normalizeUrl url).toList := by
  rw [normalizeUrl, String.toList_ofList]
  exact (Text.dropEndWhile_eq_iff.mp rfl).1

theorem keepsStart_normalizeUrl (url : String) : KeepsStart isBlank (normalizeUrl url).toList := by
  obtain ⟨slashes, -, whole⟩ := exists_trim_eq_normalizeUrl url
  exact KeepsStart.of_append (whole ▸ (Text.isTrimmed_trim url).keepsStart)

/-- An address is in normal form if it has neither blank characters around it nor slashes at its
end. -/
theorem normalizeUrl_eq_self_iff :
    normalizeUrl url = url ↔ IsTrimmed url ∧ KeepsEnd (· == '/') url.toList := by
  constructor
  · intro same
    obtain ⟨slashes, -, trimmed⟩ := exists_trim_eq_normalizeUrl url
    obtain ⟨-, front, back, -, -, whole⟩ := Text.trim_eq_iff.mp (rfl : Text.trim url = _)
    have slashKeeps := keepsEnd_normalizeUrl url
    rw [same] at trimmed slashKeeps
    -- Nothing was dropped at all, since what is left is as long as the whole.
    rw [trimmed] at whole
    have length := congrArg List.length whole
    simp only [List.length_append] at length
    have none : slashes = [] := List.length_eq_zero_iff.mp (by omega)
    rw [none, List.append_nil, String.toList_inj] at trimmed
    exact ⟨Text.trim_eq_self_iff.mp trimmed, slashKeeps⟩
  · rintro ⟨trimmed, slashKeeps⟩
    rw [normalizeUrl, Text.trim_eq_self_iff.mpr trimmed, ← String.toList_inj,
      String.toList_ofList, Text.dropEndWhile_eq_iff]
    exact ⟨slashKeeps, [], by simp, by simp⟩

/-- A blank character stands right before the slashes at the end of an address. -/
def HasSpaceBeforeSlashes (url : String) : Prop :=
  ∃ (front : List Char) (blank : Char) (slashes back : List Char),
    isBlank blank = true ∧ slashes ≠ [] ∧ (∀ character ∈ slashes, character = '/') ∧
      IsBlank back ∧ url.toList = front ++ blank :: slashes ++ back

/-- The end of what is left from a place on is the end of the whole. -/
theorem getLast?_dropWhile_append_singleton {drop : Char → Bool} {characters : List Char}
    {blank last : Char}
    (ends : ((characters ++ [blank]).dropWhile drop).getLast? = some last) : last = blank := by
  obtain ⟨others, whole⟩ := List.dropWhile_suffix (l := characters ++ [blank]) drop
  have same := congrArg List.getLast? whole
  rw [List.getLast?_append, ends, List.getLast?_concat] at same
  simpa using same

/-- Of an address with a blank character before its slashes, that character is kept, unless there
are only blank characters before it. -/
theorem normalizeUrl_of_space {front slashes back : List Char} {blank : Char}
    (isSpace : isBlank blank = true) (notEmpty : slashes ≠ [])
    (areSlashes : ∀ character ∈ slashes, character = '/') (backBlank : IsBlank back)
    (whole : url.toList = front ++ blank :: slashes ++ back) :
    normalizeUrl url = String.ofList ((front ++ [blank]).dropWhile isBlank) := by
  have starts : KeepsStart isBlank ((front ++ [blank]).dropWhile isBlank ++ slashes) := by
    intro first begins
    cases kept : (front ++ [blank]).dropWhile isBlank with
    | nil =>
        rw [kept, List.nil_append] at begins
        rw [areSlashes first (List.mem_of_head? begins)]
        decide
    | cons other rest =>
        have keeps := (Text.dropWhile_eq_iff.mp kept).1
        rw [kept, List.cons_append, List.head?_cons] at begins
        exact keeps first begins
  have ends : KeepsEnd isBlank ((front ++ [blank]).dropWhile isBlank ++ slashes) := by
    intro last isLast
    rw [List.getLast?_append_of_ne_nil _ notEmpty] at isLast
    rw [areSlashes last (List.mem_of_getLast? isLast)]
    decide
  have trimmed : Text.trim url =
      String.ofList ((front ++ [blank]).dropWhile isBlank ++ slashes) := by
    refine Text.trim_eq_iff.mpr ⟨⟨?start, ?ends⟩, (front ++ [blank]).takeWhile isBlank, back,
      fun character => List.mem_takeWhile_imp, backBlank, ?split⟩
    case start => rwa [String.toList_ofList]
    case ends => rwa [String.toList_ofList]
    case split =>
      rw [String.toList_ofList, ← List.append_assoc, List.takeWhile_append_dropWhile, whole]
      simp
  rw [normalizeUrl, trimmed, String.toList_ofList, String.ofList_inj, Text.dropEndWhile_eq_iff]
  refine ⟨fun last isLast => ?_, slashes, by simpa using areSlashes, rfl⟩
  rw [getLast?_dropWhile_append_singleton isLast]
  rw [← Bool.not_eq_true, beq_iff_eq]
  rintro rfl
  cases isSpace

/-- An address keeps a blank character at its end if it had one right before its slashes. -/
theorem keepsEnd_isBlank_normalizeUrl_iff (filled : normalizeUrl url ≠ "") :
    KeepsEnd isBlank (normalizeUrl url).toList ↔ ¬HasSpaceBeforeSlashes url := by
  constructor
  · rintro keeps ⟨front, blank, slashes, back, isSpace, notEmpty, areSlashes, backBlank, whole⟩
    have left := normalizeUrl_of_space isSpace notEmpty areSlashes backBlank whole
    rw [left, ne_eq, String.ofList_eq_empty_iff] at filled
    rw [left, String.toList_ofList] at keeps
    have isLast := List.getLast?_eq_getLast_of_ne_nil filled
    have same := getLast?_dropWhile_append_singleton isLast
    have visible := keeps _ isLast
    rw [same, isSpace] at visible
    cases visible
  · intro noSpace last isLast
    obtain ⟨slashes, areSlashes, trimmed⟩ := exists_trim_eq_normalizeUrl url
    obtain ⟨⟨-, trimmedKeeps⟩, front, back, -, backBlank, whole⟩ :=
      Text.trim_eq_iff.mp (rfl : Text.trim url = _)
    obtain ⟨before, split⟩ := List.getLast?_eq_some_iff.mp isLast
    rw [trimmed, split] at whole trimmedKeeps
    by_contra space
    rw [Bool.not_eq_false] at space
    refine noSpace ⟨front ++ before, last, slashes, back, space, ?_, areSlashes, backBlank, ?_⟩
    · rintro rfl
      rw [trimmedKeeps last (by simp)] at space
      cases space
    · simpa using whole

theorem isTrimmed_normalizeUrl_iff (filled : normalizeUrl url ≠ "") :
    IsTrimmed (normalizeUrl url) ↔ ¬HasSpaceBeforeSlashes url := by
  rw [← keepsEnd_isBlank_normalizeUrl_iff filled]
  exact ⟨IsTrimmed.keepsEnd, fun keeps => ⟨keepsStart_normalizeUrl url, keeps⟩⟩

end Addresses

/-! ## Definitions -/

/-- Validate a definition once more. -/
def revalidate (config : Config) : Except ConfigError Config :=
  ofFields config.kind config.url config.credentials config.timeout config.organization config.name
    config.listsMembers

/-- What every accepted definition is: trimmed, but for the end of its address, and that ends in no
slash. -/
structure IsTidy (config : Config) : Prop where
  name : IsTrimmed config.name
  organization : IsTrimmed config.organization
  url_ne_empty : config.url ≠ ""
  urlStart : KeepsStart isBlank config.url.toList
  urlEnd : KeepsEnd (· == '/') config.url.toList

/-- A definition is accepted again as it is exactly if its address is trimmed. -/
theorem revalidate_eq_ok_iff {config : Config} (tidy : config.IsTidy)
    (named : config.name ≠ "") (owned : config.organization ≠ "") (patient : config.timeout ≠ 0) :
    config.revalidate = .ok config ↔ IsTrimmed config.url := by
  have name := Text.trim_eq_self_iff.mpr tidy.name
  have organization := Text.trim_eq_self_iff.mpr tidy.organization
  have settled : normalizeUrl config.url = config.url ↔ IsTrimmed config.url :=
    normalizeUrl_eq_self_iff.trans (and_iff_left tidy.urlEnd)
  rw [revalidate, ofFields_eq_ok_iff, name, organization, ← settled]
  constructor
  · rintro ⟨-, -, -, -, same⟩
    exact (congrArg Config.url same).symm
  · intro same
    rw [same]
    exact ⟨named, tidy.url_ne_empty, owned, patient, rfl⟩

/-- An accepted definition has trimmed texts, and its address ends in no slash. Its address is
trimmed and validating the definition again gives the same one exactly if there was no blank
character right before the slashes at the end of the address. -/
theorem validation_settles_iff {kind : Kind} {url : String} {credentials : Credentials}
    {timeout : Nat} {organization name : String} {listsMembers : Bool} {config : Config}
    (accepted : ofFields kind url credentials timeout organization name listsMembers = .ok config) :
    config.IsTidy ∧ (IsTrimmed config.url ↔ ¬HasSpaceBeforeSlashes url) ∧
      (config.revalidate = .ok config ↔ ¬HasSpaceBeforeSlashes url) := by
  obtain ⟨named, placed, owned, patient, rfl⟩ := ofFields_eq_ok_iff.mp accepted
  have tidy : IsTidy ⟨kind, normalizeUrl url, credentials, timeout, Text.trim organization,
      Text.trim name, listsMembers⟩ :=
    ⟨Text.isTrimmed_trim name, Text.isTrimmed_trim organization, placed,
      keepsStart_normalizeUrl url, keepsEnd_normalizeUrl url⟩
  have trimmed := isTrimmed_normalizeUrl_iff placed
  exact ⟨tidy, trimmed, (revalidate_eq_ok_iff tidy named owned patient).trans trimmed⟩

/-- Blank characters of any kind around the texts and slashes behind the address do not come back. -/
theorem validation_settles_iff_padded :
    let url := "\u00a0https://voot.example.org/api//\u3000\n"
    let config : Config := ⟨.voot2, "https://voot.example.org/api", ⟨"user", "secret"⟩, 2000,
      "example.org", "example university", true⟩
    ofFields .voot2 url ⟨"user", "secret"⟩ 2000 "\texample.org " " example university\u2003" true =
        .ok config ∧
      ¬HasSpaceBeforeSlashes url ∧ IsTrimmed config.url ∧ config.revalidate = .ok config := by
  intro url config
  have accepted : ofFields .voot2 url ⟨"user", "secret"⟩ 2000 "\texample.org "
      " example university\u2003" true = .ok config := by decide +kernel
  have again : config.revalidate = .ok config := by decide +kernel
  obtain ⟨-, trimmed_iff, again_iff⟩ := validation_settles_iff accepted
  have noSpace := again_iff.mp again
  exact ⟨accepted, noSpace, trimmed_iff.mpr noSpace, again⟩

/-- A blank character before the slashes of an address is accepted and stays at its end. The
definition is another one when it is validated again, or it is refused for having no address. -/
theorem validation_keeps_space :
    let validated (url : String) :=
      ofFields .voot2 url ⟨"user", "secret"⟩ 2000 "example.org" "example" false
    let again (url : String) := (validated url).toOption.bind fun config =>
      config.revalidate.toOption.map Config.url
    ((validated "http://voot.test /").toOption.map Config.url) = some "http://voot.test " ∧
      again "http://voot.test /" = some "http://voot.test" ∧
      ((validated "/ /").toOption.map Config.url) = some "/ " ∧ again "/ /" = none := by
  decide +kernel

end Config

end GroupFederation.Provider
