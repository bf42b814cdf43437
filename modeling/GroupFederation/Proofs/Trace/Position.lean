import GroupFederation.Proofs.Text.Hexadecimal
import GroupFederation.Trace.Context

/-!
# Positions in traces

The position of a span is its trace, its own identifier and its flags, two hundred bits in all. The
header `traceparent` is read here on its own, from the form that the W3C gives it: a version and
three words of hexadecimal digits, separated by dashes. The reader finds the position of a span in
what was written for the span, and in no other text.
-/

namespace GroupFederation.Trace

/-- What a call tells about the span that it belongs to. -/
structure Position where
  traceId : BitVec 128
  spanId : BitVec 64
  flags : BitVec 8
  deriving DecidableEq, Repr

/-- The position of the span. -/
def SpanContext.position (context : SpanContext) : Position :=
  ⟨context.traceId, context.spanId, context.flags⟩

/-- The form of the header: the version, and three words of 32, 16 and 2 digits. -/
structure IsTraceparent (text : String) (trace span flags : List Char) : Prop where
  rendered : text = "00-" ++ String.ofList trace ++ "-" ++ String.ofList span ++ "-" ++
    String.ofList flags
  trace : Text.Hex.IsWord 32 trace
  span : Text.Hex.IsWord 16 span
  flags : Text.Hex.IsWord 2 flags

/-- The bits of a word, four for each digit. -/
def readWord? (width : Nat) (digits : List Char) : Option (BitVec width) :=
  (Text.Hex.read? (width / 4) digits).map (BitVec.ofNat width)

/-- The position that a header of the first version tells. -/
def Position.read? (text : String) : Option Position :=
  match Text.splitOn '-' text.toList with
  | [['0', '0'], trace, span, flags] => do
      let traceId ← readWord? 128 trace
      let spanId ← readWord? 64 span
      let flags ← readWord? 8 flags
      return ⟨traceId, spanId, flags⟩
  | _ => none

/-! ## Words -/

section Words

variable {width : Nat} (count : Nat)

theorem sixteen_pow : 16 ^ count = 2 ^ (4 * count) := by
  rw [Nat.pow_mul]

theorem toNat_lt_sixteen_pow (word : BitVec (4 * count)) : word.toNat < 16 ^ count := by
  rw [sixteen_pow]
  exact word.isLt

theorem readWord?_eq_some_iff (fits : width = 4 * (count + 1)) (word : BitVec width)
    {digits : List Char} :
    readWord? width digits = some word ↔ digits = (SpanContext.hexText word).toList := by
  subst fits
  have size : 4 * (count + 1) / 4 = count + 1 := by omega
  simp only [readWord?, SpanContext.hexText, size, Option.map_eq_some_iff,
    Text.Hex.read?_eq_some_iff, String.toList_ofList]
  constructor
  · rintro ⟨value, ⟨bound, rfl⟩, rfl⟩
    rw [sixteen_pow] at bound
    rw [BitVec.toNat_ofNat, Nat.mod_eq_of_lt bound]
  · rintro rfl
    exact ⟨word.toNat, ⟨toNat_lt_sixteen_pow _ word, rfl⟩, by
      rw [BitVec.ofNat_toNat, BitVec.setWidth_eq]⟩

theorem isWord_hexText (fits : width = 4 * (count + 1)) (word : BitVec width) :
    Text.Hex.IsWord (count + 1) (SpanContext.hexText word).toList := by
  subst fits
  have size : 4 * (count + 1) / 4 = count + 1 := by omega
  rw [SpanContext.hexText, size, String.toList_ofList,
    Text.Hex.paddedHex_eq_lastDigits (toNat_lt_sixteen_pow _ word)]
  exact Text.Hex.isWord_lastDigits _ _

theorem dash_not_mem {width : Nat} {digits : List Char} (isWord : Text.Hex.IsWord width digits) :
    '-' ∉ digits := by
  intro member
  exact absurd (isWord.mem_alphabet '-' member) (by decide)

end Words

/-! ## Headers -/

theorem isTraceparent_traceparent (context : SpanContext) :
    IsTraceparent context.traceparent (SpanContext.hexText context.traceId).toList
      (SpanContext.hexText context.spanId).toList (SpanContext.hexText context.flags).toList := by
  constructor
  · simp only [SpanContext.traceparent, String.ofList_toList]
  · exact isWord_hexText 31 rfl _
  · exact isWord_hexText 15 rfl _
  · exact isWord_hexText 1 rfl _

/-- The dashes in a header are those between its words. -/
theorem splitOn_traceparent {text : String} {trace span flags : List Char}
    (isTraceparent : IsTraceparent text trace span flags) :
    Text.splitOn '-' text.toList = [['0', '0'], trace, span, flags] := by
  have characters : text.toList =
      ['0', '0'] ++ '-' :: (trace ++ '-' :: (span ++ '-' :: flags)) := by
    simp [isTraceparent.rendered]
  rw [characters, Text.splitOn_append (by decide),
    Text.splitOn_append (dash_not_mem isTraceparent.trace),
    Text.splitOn_append (dash_not_mem isTraceparent.span),
    Text.splitOn_of_not_mem (dash_not_mem isTraceparent.flags)]

/-- What is written for a span tells its position, and nothing else tells it. -/
theorem Position.read?_eq_some_iff {text : String} {context : SpanContext} :
    read? text = some context.position ↔ text = context.traceparent := by
  have written := splitOn_traceparent (isTraceparent_traceparent context)
  have isTrace {digits : List Char} :
      readWord? 128 digits = some context.traceId ↔
        digits = (SpanContext.hexText context.traceId).toList :=
    readWord?_eq_some_iff 31 rfl context.traceId
  have isSpan {digits : List Char} :
      readWord? 64 digits = some context.spanId ↔
        digits = (SpanContext.hexText context.spanId).toList :=
    readWord?_eq_some_iff 15 rfl context.spanId
  have areFlags {digits : List Char} :
      readWord? 8 digits = some context.flags ↔
        digits = (SpanContext.hexText context.flags).toList :=
    readWord?_eq_some_iff 1 rfl context.flags
  constructor
  · intro found
    unfold read? at found
    split at found
    · rename_i trace span flags pieces
      simp only [Option.bind_eq_bind, Option.bind_eq_some_iff, Option.pure_def, Option.some.injEq,
        SpanContext.position, Position.mk.injEq] at found
      obtain ⟨_, traceRead, _, spanRead, _, flagsRead, rfl, rfl, rfl⟩ := found
      rw [isTrace.mp traceRead, isSpan.mp spanRead, areFlags.mp flagsRead, ← written] at pieces
      rw [← String.toList_inj, ← Text.intercalate_splitOn '-' text.toList, pieces,
        Text.intercalate_splitOn]
    · cases found
  · rintro rfl
    unfold read?
    simp only [written, isTrace.mpr rfl, isSpan.mpr rfl, areFlags.mpr rfl]
    rfl

end GroupFederation.Trace
