import GroupFederation.Json.Reader
import GroupFederation.Text.Blank
import Mathlib.Data.List.TakeWhile

/-!
# Texts within texts

What is read of a JSON text does not depend on what follows, as long as that does not lengthen a
number. So a text can be put into the envelope of another one, and its value is found there again.
The first token of a text tells what kind of value it is.
-/

namespace GroupFederation.Json

/-! ## Space between tokens -/

namespace Source

variable {source further : Source}

theorem skipSpace_cons {first : Option Char} {tail : Source} (visible : isSpace first = false) :
    skipSpace (first :: tail) = first :: tail :=
  List.dropWhile_cons_of_neg (by simp [visible])

/-- Space before a token is skipped whatever stands behind the token. -/
theorem skipSpace_append (token : source.skipSpace ≠ []) :
    skipSpace (source ++ further) = source.skipSpace ++ further := by
  unfold skipSpace at token ⊢
  rw [List.dropWhile_append, if_neg (by simpa using token)]

theorem skipSpace_append_cons {first : Option Char} {tail : Source}
    (token : source.skipSpace = first :: tail) :
    skipSpace (source ++ further) = first :: (tail ++ further) := by
  rw [skipSpace_append (token ▸ List.cons_ne_nil first tail), token, List.cons_append]

theorem skipSpace_append_of_isEmpty (space : source.skipSpace.isEmpty = true) :
    skipSpace (source ++ further) = further.skipSpace := by
  unfold skipSpace at space ⊢
  rw [List.dropWhile_append, if_pos space]

/-- A source that does not begin with a symbol does not do so when more follows. -/
theorem append_ne_cons {symbol : Option Char} (other : ∀ rest, source = symbol :: rest → False)
    (behind : source = [] → further.head? ≠ some symbol) (rest : Source)
    (begins : source ++ further = symbol :: rest) : False := by
  cases source with
  | nil =>
      rw [List.nil_append] at begins
      exact behind rfl (begins ▸ rfl)
  | cons first tail =>
      obtain ⟨rfl, -⟩ := List.cons.inj begins
      exact other tail rfl

end Source

/-! ## Reading on -/

section ReadingOn

variable {α : Type}

/-- What the one reader finds, the other, to which more fuel may be left, finds before `further`. -/
def ReadsOn (further : Source) (read longer : Source → Option (α × Source)) : Prop :=
  ∀ {source : Source} {value : α} {rest : Source}, read source = some (value, rest) →
    longer (source ++ further) = some (value, rest ++ further)

variable {β : Type} {further rest : Source}

theorem exists_of_made {former : Option (α × Source)} {make : α → β} {value : β}
    (made : former.map (fun found => (make found.1, found.2)) = some (value, rest)) :
    ∃ inner, former = some (inner, rest) ∧ value = make inner := by
  obtain ⟨⟨inner, behind⟩, found, same⟩ := Option.map_eq_some_iff.mp made
  obtain ⟨rfl, rfl⟩ := Prod.mk.inj same
  exact ⟨inner, found, rfl⟩

/-- What is made of something that is found with and without more behind it. -/
theorem map_readsOn {former latter : Option (α × Source)} (make : α → β) {value : β}
    (made : former.map (fun found => (make found.1, found.2)) = some (value, rest))
    (longer : ∀ {inner}, former = some (inner, rest) → latter = some (inner, rest ++ further)) :
    latter.map (fun found => (make found.1, found.2)) = some (value, rest ++ further) := by
  obtain ⟨inner, found, rfl⟩ := exists_of_made made
  rw [longer found]
  rfl

/-- What stands between an opening and a closing mark, if it is anything. -/
theorem enclosed_readsOn {read longer : Source → Option (α × Source)} {tail : Source}
    {mark : Option Char} (make : α → β) {value : β} (steady : ReadsOn further read longer)
    (nothing : read [] = none) (noEnd : ∀ rest, tail.skipSpace = mark :: rest → False)
    (made : (read tail.skipSpace).map (fun found => (make found.1, found.2)) =
      some (value, rest)) :
    (∀ rest, Source.skipSpace (tail ++ further) = mark :: rest → False) ∧
      (longer (Source.skipSpace (tail ++ further))).map (fun found => (make found.1, found.2)) =
        some (value, rest ++ further) := by
  have filled : tail.skipSpace ≠ [] := by
    intro empty
    rw [empty, nothing] at made
    cases made
  rw [Source.skipSpace_append filled]
  exact ⟨Source.append_ne_cons noEnd fun empty => absurd empty filled,
    map_readsOn make made steady⟩

end ReadingOn

variable {further : Source}

/-! ### Strings -/

theorem readUnits_readsOn : ReadsOn further readUnits readUnits := by
  intro source units rest found
  fun_induction readUnits source generalizing units rest with
  | case1 =>
      obtain ⟨rfl, rfl⟩ := Prod.mk.inj (Option.some.inj found)
      rfl
  | case2 first second third fourth tail inductionHypothesis =>
      simp only [Option.bind_eq_bind, Option.bind_eq_some_iff, Option.some.injEq, Prod.mk.injEq,
        Prod.exists] at found
      obtain ⟨_, first, _, second, _, third, _, fourth, _, _, units, rfl, rfl⟩ := found
      simp [readUnits, first, second, third, fourth, inductionHypothesis units]
  | case3 letter tail _ inductionHypothesis =>
      simp only [Option.bind_eq_bind, Option.bind_eq_some_iff, Option.some.injEq, Prod.mk.injEq,
        Prod.exists] at found
      obtain ⟨_, escape, _, _, units, rfl, rfl⟩ := found
      have noCode : letter ≠ 'u' := by
        rintro rfl
        cases escape
      simp [readUnits, noCode, escape, inductionHypothesis units]
  | case4 => cases found
  | case5 character tail noQuote _ _ plain inductionHypothesis =>
      have noEscape : character ≠ '\\' := by
        rintro rfl
        simp at plain
      rw [List.cons_append, readUnits, if_neg plain]
      · exact map_readsOn _ found inductionHypothesis
      · exact noQuote
      · exact fun _ _ _ _ _ _ => noEscape
      · exact fun _ _ _ => noEscape
  | case6 tail inductionHypothesis =>
      rw [List.cons_append, readUnits]
      exact map_readsOn _ found inductionHypothesis
  | case7 => cases found

theorem readLiteral_readsOn : ReadsOn further readLiteral readLiteral :=
  fun found => map_readsOn _ found readUnits_readsOn

/-! ### Numbers -/

/-- Whether a symbol that stands behind a digit belongs to the same number. -/
def lengthensNumber (symbol : Option Char) : Bool :=
  (digitValue? symbol).isSome || symbol == some '.' || symbol == some 'e' || symbol == some 'E'

/-- What follows does not lengthen a number. -/
def EndsNumber (further : Source) : Prop :=
  ∀ symbol ∈ further.head?, lengthensNumber symbol = false

theorem EndsNumber.head?_ne (ends : EndsNumber further) {symbol : Option Char}
    (lengthens : lengthensNumber symbol = true) : further.head? ≠ some symbol := by
  intro head
  rw [ends symbol head] at lengthens
  cases lengthens

theorem readDigits_append (ends : EndsNumber further) (source : Source) :
    readDigits (source ++ further) =
      ((readDigits source).1, (readDigits source).2 ++ further) := by
  induction source with
  | nil =>
      cases further with
      | nil => rfl
      | cons symbol behind =>
          have noDigit : digitValue? symbol = none := by
            have ends := ends symbol rfl
            simp only [lengthensNumber, Bool.or_eq_false_iff, Option.isSome_eq_false_iff,
              Option.isNone_iff_eq_none] at ends
            exact ends.1.1.1
          simp [readDigits, noDigit]
  | cons symbol source inductionHypothesis =>
      rw [List.cons_append, readDigits, readDigits]
      cases digitValue? symbol with
      | none => rfl
      | some digit => simp only [inductionHypothesis]

theorem readSomeDigits_readsOn (ends : EndsNumber further) :
    ReadsOn further readSomeDigits readSomeDigits := by
  intro source digits rest found
  unfold readSomeDigits at found ⊢
  rw [readDigits_append ends]
  cases read : readDigits source with
  | mk run behind =>
      cases run with
      | nil => simp [read] at found
      | cons digit run =>
          simp only [read, Option.some.injEq, Prod.mk.injEq] at found
          obtain ⟨rfl, rfl⟩ := found
          rfl

theorem readExponent_readsOn (ends : EndsNumber further) :
    ReadsOn further readExponent readExponent := by
  intro source power rest found
  have positive {source : Source} {power : Int}
      (found : (readSomeDigits source).map
        (fun found => ((Number.ofDigits found.1 : Int), found.2)) = some (power, rest)) :=
    map_readsOn (fun digits => (Number.ofDigits digits : Int)) found (readSomeDigits_readsOn ends)
  fun_cases readExponent source with
  | case1 => exact positive found
  | case2 =>
      exact map_readsOn (fun digits => -(Number.ofDigits digits : Int)) found
        (readSomeDigits_readsOn ends)
  | case3 _ noPlus noMinus =>
      have filled : source ≠ [] := by
        rintro rfl
        cases found
      rw [readExponent] at found ⊢
      · exact positive found
      · exact Source.append_ne_cons noPlus fun empty => absurd empty filled
      · exact Source.append_ne_cons noMinus fun empty => absurd empty filled
      · exact noPlus
      · exact noMinus

theorem readFraction_readsOn (ends : EndsNumber further) :
    ReadsOn further readFraction readFraction := by
  intro source power rest found
  fun_cases readFraction source with
  | case1 => exact readSomeDigits_readsOn ends found
  | case2 _ noPoint =>
      simp only [readFraction, Option.some.injEq, Prod.mk.injEq] at found
      obtain ⟨rfl, rfl⟩ := found
      rw [readFraction]
      exact Source.append_ne_cons noPoint fun _ => ends.head?_ne rfl

theorem readPower_readsOn (ends : EndsNumber further) :
    ReadsOn further readPower readPower := by
  intro source power rest found
  fun_cases readPower source with
  | case1 => exact map_readsOn _ found (readExponent_readsOn ends)
  | case2 => exact map_readsOn _ found (readExponent_readsOn ends)
  | case3 _ noLower noUpper =>
      simp only [readPower, Option.some.injEq, Prod.mk.injEq] at found
      obtain ⟨rfl, rfl⟩ := found
      rw [readPower]
      · exact Source.append_ne_cons noLower fun _ => ends.head?_ne rfl
      · exact Source.append_ne_cons noUpper fun _ => ends.head?_ne rfl

theorem readSign_append {source : Source} (filled : source ≠ []) :
    readSign (source ++ further) = ((readSign source).1, (readSign source).2 ++ further) := by
  fun_cases readSign source with
  | case1 => rfl
  | case2 _ noMinus =>
      rw [readSign]
      exact Source.append_ne_cons noMinus fun empty => absurd empty filled

/-- A number is read part by part. -/
theorem readNumber_eq_some_iff {source rest : Source} {number : Number} :
    readNumber source = some (number, rest) ↔
      number.negative = (readSign source).1 ∧
      ¬(number.whole.head? = some 0 ∧ number.whole.length ≠ 1) ∧
      ∃ behindWhole, readSomeDigits (readSign source).2 = some (number.whole, behindWhole) ∧
        ∃ behindFraction, readFraction behindWhole = some (number.fraction, behindFraction) ∧
          readPower behindFraction = some (number.exponent, rest) := by
  unfold readNumber
  simp only [Option.bind_eq_bind, Option.bind_eq_some_iff, Prod.exists]
  constructor
  · rintro ⟨whole, behindWhole, digits, parts⟩
    split at parts
    · cases parts
    · next leading =>
      simp only [Option.bind_eq_some_iff, Prod.exists, Option.some.injEq, Prod.mk.injEq] at parts
      obtain ⟨fraction, behindFraction, point, exponent, _, power, rfl, rfl⟩ := parts
      exact ⟨rfl, leading, behindWhole, digits, behindFraction, point, power⟩
  · rintro ⟨negative, leading, behindWhole, digits, behindFraction, point, power⟩
    refine ⟨number.whole, behindWhole, digits, ?_⟩
    simp only [if_neg leading, point, power, Option.bind_some, ← negative]

theorem readNumber_readsOn (ends : EndsNumber further) :
    ReadsOn further readNumber readNumber := by
  intro source number rest found
  rw [readNumber_eq_some_iff] at found ⊢
  obtain ⟨negative, leading, behindWhole, digits, behindFraction, point, power⟩ := found
  have filled : source ≠ [] := by
    rintro rfl
    cases digits
  rw [readSign_append filled]
  exact ⟨negative, leading, behindWhole ++ further, readSomeDigits_readsOn ends digits,
    behindFraction ++ further, readFraction_readsOn ends point, readPower_readsOn ends power⟩

/-- A number begins with its sign or with a digit. -/
theorem exists_head_of_readNumber {source rest : Source} {number : Number}
    (found : readNumber source = some (number, rest)) :
    ∃ first tail, source = first :: tail ∧
      (first = some '-' ∨ (digitValue? first).isSome = true) := by
  obtain ⟨-, -, behindWhole, digits, -⟩ := readNumber_eq_some_iff.mp found
  cases source with
  | nil => cases digits
  | cons first tail =>
      refine ⟨first, tail, rfl, or_iff_not_imp_left.mpr fun noMinus => ?_⟩
      have unsigned : readSign (first :: tail) = (false, first :: tail) := by
        rw [readSign]
        intro _ same
        exact noMinus (List.cons.inj same).1
      rw [unsigned] at digits
      cases digit : digitValue? first with
      | none => simp [readSomeDigits, readDigits, digit] at digits
      | some => rfl

/-! ### Values -/

section Equations

variable {bound : Nat} {source tail : Source}

theorem readValue_string (token : source.skipSpace = some '"' :: tail) :
    readValue (bound + 1) source =
      (readLiteral tail).map fun (literal, rest) => (.string literal, rest) := by
  rw [readValue, token]
  rfl

theorem readValue_array (token : source.skipSpace = some '[' :: tail) :
    readValue (bound + 1) source = match tail.skipSpace with
      | some ']' :: rest => some (.array [], rest)
      | rest => (readItems bound rest).map fun (items, rest) => (.array items, rest) := by
  rw [readValue, token]
  rfl

theorem readValue_object (token : source.skipSpace = some '\x7b' :: tail) :
    readValue (bound + 1) source = match tail.skipSpace with
      | some '\x7d' :: rest => some (.object [], rest)
      | rest => (readMembers bound rest).map fun (members, rest) => (.object members, rest) := by
  rw [readValue, token]
  rfl

/-- A number is told by its first symbol. -/
theorem readValue_number {first : Option Char} (token : source.skipSpace = first :: tail)
    (starts : first = some '-' ∨ (digitValue? first).isSome = true) :
    readValue (bound + 1) source =
      (readNumber (first :: tail)).map fun (number, rest) => (.number number, rest) := by
  rw [readValue, token]
  split
  all_goals first
    | rfl
    | next same =>
      obtain ⟨rfl, -⟩ := List.cons.inj same
      rcases starts with starts | starts
      · simp at starts
      · cases starts

theorem readItems_nil : readItems bound [] = none := by
  cases bound with
  | zero => rfl
  | succ bound => cases bound <;> rfl

theorem readMembers_nil : readMembers bound [] = none := by
  cases bound <;> rfl

section Members

variable {behindName inner behindValue rest : Source} {name : Literal} {value : Value}

/-- A member is a name, a colon and a value. -/
theorem readMembers_last (token : source.skipSpace = some '"' :: tail)
    (literal : readLiteral tail = some (name, behindName))
    (colon : behindName.skipSpace = some ':' :: inner)
    (item : readValue bound inner = some (value, behindValue))
    (closes : behindValue.skipSpace = some '\x7d' :: rest) :
    readMembers (bound + 1) source = some ([(name, value)], rest) := by
  simp [readMembers, token, literal, colon, item, closes]

theorem readMembers_further (token : source.skipSpace = some '"' :: tail)
    (literal : readLiteral tail = some (name, behindName))
    (colon : behindName.skipSpace = some ':' :: inner)
    (item : readValue bound inner = some (value, behindValue))
    (goesOn : behindValue.skipSpace = some ',' :: rest) :
    readMembers (bound + 1) source =
      (readMembers bound rest).map fun (members, rest) => ((name, value) :: members, rest) := by
  rw [readMembers]
  simp [token, literal, colon, item, goesOn]

end Members

end Equations

section Steps

variable {bound larger : Nat}

theorem readValue_readsOn (ends : EndsNumber further)
    (items : ReadsOn further (readItems bound) (readItems larger))
    (members : ReadsOn further (readMembers bound) (readMembers larger)) :
    ReadsOn further (readValue (bound + 1)) (readValue (larger + 1)) := by
  intro source value rest found
  rw [readValue] at found
  split at found
  case h_1 begins | h_2 begins | h_3 begins =>
    obtain ⟨rfl, rfl⟩ := Prod.mk.inj (Option.some.inj found)
    simp [readValue, Source.skipSpace_append_cons begins]
  · next begins =>
    rw [readValue_string (Source.skipSpace_append_cons begins)]
    exact map_readsOn _ found readLiteral_readsOn
  · next tail begins =>
    rw [readValue_array (Source.skipSpace_append_cons begins)]
    split at found
    · next closes =>
      obtain ⟨rfl, rfl⟩ := Prod.mk.inj (Option.some.inj found)
      rw [Source.skipSpace_append_cons closes]
      rfl
    · next noEnd =>
      obtain ⟨noEnd, longer⟩ := enclosed_readsOn _ items readItems_nil noEnd found
      split
      · next closes => exact (noEnd _ closes).elim
      · exact longer
  · next tail begins =>
    rw [readValue_object (Source.skipSpace_append_cons begins)]
    split at found
    · next closes =>
      obtain ⟨rfl, rfl⟩ := Prod.mk.inj (Option.some.inj found)
      rw [Source.skipSpace_append_cons closes]
      rfl
    · next noEnd =>
      obtain ⟨noEnd, longer⟩ := enclosed_readsOn _ members readMembers_nil noEnd found
      split
      · next closes => exact (noEnd _ closes).elim
      · exact longer
  · obtain ⟨⟨number, behind⟩, read, same⟩ := Option.map_eq_some_iff.mp found
    obtain ⟨first, tail, begins, starts⟩ := exists_head_of_readNumber read
    rw [begins] at found
    rw [readValue_number (Source.skipSpace_append_cons begins) starts]
    exact map_readsOn _ found (readNumber_readsOn ends)

theorem readItems_readsOn (value : ReadsOn further (readValue bound) (readValue larger))
    (items : ReadsOn further (readItems bound) (readItems larger)) :
    ReadsOn further (readItems (bound + 1)) (readItems (larger + 1)) := by
  intro source found rest read
  rw [readItems] at read
  split at read
  · cases read
  · next item behind first =>
    rw [readItems, value first]
    dsimp only
    split at read
    · next closes =>
      obtain ⟨rfl, rfl⟩ := Prod.mk.inj (Option.some.inj read)
      rw [Source.skipSpace_append_cons closes]
      rfl
    · next goesOn =>
      rw [Source.skipSpace_append_cons goesOn]
      exact map_readsOn _ read items
    · cases read

theorem readMembers_readsOn (value : ReadsOn further (readValue bound) (readValue larger))
    (members : ReadsOn further (readMembers bound) (readMembers larger)) :
    ReadsOn further (readMembers (bound + 1)) (readMembers (larger + 1)) := by
  intro source found rest read
  -- a member is only read where its name, its colon and its value are
  rw [readMembers] at read
  split at read
  case h_2 => cases read
  next quoted =>
  split at read
  case h_1 => cases read
  next name behindName literal =>
  split at read
  case h_2 => cases read
  next tail colon =>
  split at read
  case h_1 => cases read
  next item behind first =>
  split at read
  · next closes =>
    obtain ⟨rfl, rfl⟩ := Prod.mk.inj (Option.some.inj read)
    exact readMembers_last (Source.skipSpace_append_cons quoted) (readLiteral_readsOn literal)
      (Source.skipSpace_append_cons colon) (value first) (Source.skipSpace_append_cons closes)
  · next goesOn =>
    rw [readMembers_further (Source.skipSpace_append_cons quoted) (readLiteral_readsOn literal)
      (Source.skipSpace_append_cons colon) (value first) (Source.skipSpace_append_cons goesOn)]
    exact map_readsOn _ read members
  · cases read

end Steps

/-- What is read of a source does not depend on what follows, nor on how much fuel is left over. -/
theorem reads_on (ends : EndsNumber further) {bound larger : Nat} (enough : bound ≤ larger) :
    ReadsOn further (readValue bound) (readValue larger) ∧
      ReadsOn further (readItems bound) (readItems larger) ∧
      ReadsOn further (readMembers bound) (readMembers larger) := by
  induction bound generalizing larger with
  | zero =>
      refine ⟨?_, ?_, ?_⟩ <;> intro source value rest found <;> cases found
  | succ bound inductionHypothesis =>
      obtain ⟨larger, rfl⟩ := Nat.exists_eq_add_of_lt enough
      obtain ⟨value, items, members⟩ := inductionHypothesis (Nat.le_add_right bound larger)
      exact ⟨readValue_readsOn ends items members, readItems_readsOn value items,
        readMembers_readsOn value members⟩

/-- A text has a value if it can be read up to some space. -/
theorem read_eq_some_iff {text : String} {value : Value} :
    read text = some value ↔
      ∃ rest, readValue (2 * (Source.ofText text).length + 2) (Source.ofText text) =
        some (value, rest) ∧ rest.skipSpace.isEmpty = true := by
  unfold read readSource
  cases readValue (2 * (Source.ofText text).length + 2) (Source.ofText text) with
  | none => simp
  | some found =>
      obtain ⟨found, rest⟩ := found
      constructor
      · intro ends
        dsimp only at ends
        split at ends
        · next space => exact ⟨rest, by rw [Option.some.inj ends], space⟩
        · cases ends
      · rintro ⟨_, same, space⟩
        obtain ⟨rfl, rfl⟩ := Prod.mk.inj (Option.some.inj same)
        exact if_pos space

/-! ## First tokens -/

/-- The character that opens an array or an object. -/
def Value.opening? : Value → Option Char
  | .array _ => some '['
  | .object _ => some '\x7b'
  | _ => none

theorem token_of_readValue {bound : Nat} {source rest : Source} {value : Value} {mark : Char}
    (found : readValue bound source = some (value, rest)) (opens : value.opening? = some mark) :
    ∃ tail, source.skipSpace = some mark :: tail := by
  cases bound with
  | zero => cases found
  | succ bound =>
      rw [readValue] at found
      split at found
      case h_1 | h_2 | h_3 =>
        obtain ⟨rfl, -⟩ := Prod.mk.inj (Option.some.inj found)
        cases opens
      case h_4 | h_7 =>
        obtain ⟨_, -, rfl⟩ := exists_of_made found
        cases opens
      case h_5 tail begins =>
        split at found
        · obtain ⟨rfl, -⟩ := Prod.mk.inj (Option.some.inj found)
          obtain rfl := Option.some.inj opens
          exact ⟨tail, begins⟩
        · obtain ⟨items, -, rfl⟩ := exists_of_made found
          obtain rfl := Option.some.inj opens
          exact ⟨tail, begins⟩
      case h_6 tail begins =>
        split at found
        · obtain ⟨rfl, -⟩ := Prod.mk.inj (Option.some.inj found)
          obtain rfl := Option.some.inj opens
          exact ⟨tail, begins⟩
        · obtain ⟨members, -, rfl⟩ := exists_of_made found
          obtain rfl := Option.some.inj opens
          exact ⟨tail, begins⟩

/-- Space between tokens is blank. -/
theorem isBlank_of_isSpace {character : Char} (space : Source.isSpace (some character) = true) :
    Text.isBlank character = true := by
  simp only [Source.isSpace, Bool.or_eq_true, beq_iff_eq] at space
  rcases space with ((rfl | rfl) | rfl) | rfl <;> decide

/-- A text begins with its first token, blank characters apart. -/
theorem dropWhile_of_token {characters : List Char} {character : Char} {tail : Source}
    (token : Source.skipSpace (characters.map some) = some character :: tail)
    (visible : Text.isBlank character = false) :
    ∃ behind, characters.dropWhile Text.isBlank = character :: behind := by
  induction characters with
  | nil => cases token
  | cons first rest inductionHypothesis =>
      rw [Source.skipSpace, List.map_cons, List.dropWhile_cons] at token
      rw [List.dropWhile_cons]
      split at token
      · next space =>
        rw [if_pos (isBlank_of_isSpace space)]
        exact inductionHypothesis token
      · obtain rfl := Option.some.inj (List.cons.inj token).1
        rw [if_neg (by simp [visible])]
        exact ⟨rest, rfl⟩

section Beginnings

variable {text : String} {value : Value} {mark : Char}

/-- A text with a value that is an array or an object begins as such. -/
theorem trimStart_of_read (found : read text = some value) (opens : value.opening? = some mark) :
    ∃ behind, (Text.trimStart text).toList = mark :: behind := by
  obtain ⟨rest, found, -⟩ := read_eq_some_iff.mp found
  obtain ⟨tail, token⟩ := token_of_readValue found opens
  rw [Text.trimStart, String.toList_ofList]
  refine dropWhile_of_token token ?_
  cases value with
  | array | object =>
      obtain rfl := Option.some.inj opens
      decide
  | null | bool | number | string => cases opens

/-- Such a text is not blank. -/
theorem isBlankText_of_read (found : read text = some value) (opens : value.opening? = some mark) :
    Text.isBlankText text = false := by
  obtain ⟨behind, begins⟩ := trimStart_of_read found opens
  rw [Text.trimStart, String.toList_ofList] at begins
  rw [Text.isBlankText, ← Bool.not_eq_true]
  intro blank
  rw [List.dropWhile_eq_nil_iff.mpr (List.all_eq_true.mp blank)] at begins
  cases begins

end Beginnings

end GroupFederation.Json
