import QuadPull.Proofs.DecimalText
import QuadPull.Proofs.NativeValues
import QuadPull.Term.Written

namespace QuadPull

open Lexical Vocabulary

namespace Lexical

structure TellsOf (m : Calendar.Moment) (day : Day) (time : Time) (zone : Option Int) : Prop where
  date : day = ⟨m.date.year, m.date.month, m.date.day⟩
  clock : time.hour = m.hour ∧ time.minute = m.minute ∧ time.second = m.second
  fraction : Text.ofDigits time.fraction * Number.tenTo 6 = m.microsecond * Number.tenTo time.fraction.length
  offset : zone.map (· * 60000000) = m.offset

end Lexical

namespace Literal

/-- The text of a literal spells a value of its datatype, and the value is the one given. -/
inductive Denotes (l : Literal) : Value → Prop
  | boolean (typed : l.datatype = xsdBoolean) {b : Bool} (spelled : BooleanText (core l.lexical) b) :
      Denotes l (.bool b)
  | integer (typed : l.datatype ∈ integerTypes) {n : Int} (spelled : IntegerText (core l.lexical) n) :
      Denotes l (.int n)
  | decimal (typed : l.datatype = xsdDecimal) {d : Number.Decimal} {object : Option Nat} {q : ℚ}
      (number : d.rational? = some q) (spelled : DecimalText (core l.lexical) q) :
      Denotes l (.decimal d object)
  | date (typed : l.datatype = xsdDate) {d : Calendar.Date}
      (spelled : DateText (core l.lexical) ⟨d.year, d.month, d.day⟩) : Denotes l (.date d)
  | moment (typed : l.datatype = xsdDateTime) {m : Calendar.Moment} {ds ts zs : List Char} {day : Day}
      {time : Time} {zone : Option Int} (parts : core l.lexical = ds ++ 'T' :: (ts ++ zs))
      (date : DateText ds day) (clock : TimeText ts time) (zoned : ZoneText zs zone)
      (told : TellsOf m day time zone) : Denotes l (.moment m)

def IsValid (l : Literal) : Prop :=
  l.IsWellFormed ∨ l.datatype = xsdDecimal ∧ ∃ q, DecimalText (core l.lexical) q

end Literal

namespace Value

/-- Booleans, integers of few enough digits, finite decimals, dates, and moments without an offset or with one
of whole minutes, fourteen hours at most. -/
def IsExpressible : Value → Prop
  | .bool _ | .date _ => True
  | .int n => isShort n = true
  | .decimal d _ => ∃ negative c e, d = .finite negative c e
  | .moment m => ∀ o ∈ m.offset, o % 60000000 = 0 ∧ o.natAbs ≤ 14 * 60 * 60000000
  | _ => False

def IsScientific : Value → Prop
  | .decimal d _ => ¬ d.IsPositional
  | _ => False

end Value

namespace Lexical

variable {marks cs : List Char} {s : String}

def plainMarks : List Char := ['+', '-', '.', ':', 'E', 'T', 't', 'r', 'u', 'e', 'f', 'a', 'l', 's']

theorem plainMarks_spec : ∀ c ∈ plainMarks, isSpace c = false ∧ Term.escapeChar c = [c] := by
  have all : (plainMarks.all fun c => !isSpace c && Term.escapeChar c == [c]) = true := rfl
  intro c member
  simpa using List.all_eq_true.1 all c member

theorem plain_of_isDigit {c : Char} (digit : Text.isDigit c = true) :
    isSpace c = false ∧ Term.escapeChar c = [c] := by
  refine ⟨?_, ?_⟩
  · rw [← Bool.not_eq_true, isSpace_iff]
    rintro (rfl | rfl | rfl | rfl) <;> exact absurd digit (by decide)
  · rcases Term.escapeChar_cases c with ⟨letter, among, -⟩ | ⟨-, alone⟩
    · have marks : ∀ e ∈ Term.escapes, ¬ Text.isDigit e.1 = true := by decide
      exact absurd digit (marks _ among)
    · exact alone

def IsPlain (s : String) : Prop := Calendar.WrittenIn plainMarks s.toList

theorem IsPlain.spec (plain : IsPlain s) : ∀ c ∈ s.toList, isSpace c = false ∧ Term.escapeChar c = [c] :=
  fun c member => (plain c member).elim plain_of_isDigit (plainMarks_spec c)

theorem IsPlain.core (plain : IsPlain s) : core s = s.toList :=
  Text.trimBy_of_none fun c member => (plain.spec c member).1

theorem IsPlain.escape (plain : IsPlain s) : Term.escape s = s := by
  have kept : ∀ cs : List Char, (∀ c ∈ cs, Term.escapeChar c = [c]) → Term.escapeChars cs = cs := by
    intro cs itself
    induction cs with
    | nil => rfl
    | cons c rest ih =>
      obtain ⟨head, tail⟩ := List.forall_mem_cons.1 itself
      simp only [Term.escapeChars, List.flatMap_cons, head] at ih ⊢
      rw [ih tail, List.singleton_append]
  rw [← String.toList_inj, Term.toList_escape, kept _ fun c member => (plain.spec c member).2]

theorem IsPlain.n3 {datatype : String} (plain : IsPlain s) (other : datatype ≠ xsdString) :
    ({ lexical := s, datatype } : Literal).n3 = "\"" ++ s ++ "\"^^<" ++ datatype ++ ">" := by
  simp [Literal.n3, quotedLexical, plain.escape, other, String.append_assoc]

theorem written_of_digits {width n : Nat} (digits : Text.Digits width cs n) : Calendar.WrittenIn marks cs :=
  fun c member => .inl (digits.all c member)

theorem UnsignedText.written {q : ℚ} (spelled : UnsignedText cs q) : Calendar.WrittenIn plainMarks cs := by
  cases spelled with
  | whole digits => exact written_of_digits digits
  | pointed before after =>
    exact .append (written_of_digits before) (.cons (by decide) (written_of_digits after))

theorem DecimalText.written {q : ℚ} (spelled : DecimalText cs q) : Calendar.WrittenIn plainMarks cs := by
  cases spelled with
  | plain unsigned => exact unsigned.written
  | plus unsigned | minus unsigned => exact .cons (by decide) unsigned.written

theorem IntegerText.written {n : Int} (spelled : IntegerText cs n) : Calendar.WrittenIn plainMarks cs := by
  cases spelled with
  | plain digits => exact written_of_digits digits
  | plus digits | minus digits => exact .cons (by decide) (written_of_digits digits)

theorem ScientificText.written {q : ℚ} (spelled : ScientificText cs q) : Calendar.WrittenIn plainMarks cs := by
  cases spelled with
  | mk numeral exponent => exact .append numeral.written (.cons (by decide) exponent.written)

theorem integerText_repr (n : Int) : IntegerText n.repr.toList n := by
  have digits := Text.digits_self n.natAbs
  have some_digit := Text.length_digits_pos n.natAbs
  rw [Number.toList_repr]
  by_cases negative : n < 0
  · have value : -(n.natAbs : Int) = n := by omega
    have spelled := IntegerText.minus digits some_digit
    rw [value] at spelled
    rwa [if_pos negative]
  · have value : (n.natAbs : Int) = n := by omega
    have spelled := IntegerText.plain digits some_digit
    rw [value] at spelled
    rwa [if_neg negative]

variable (d : Calendar.Date) (m : Calendar.Moment)

theorem dateText_iso : DateText d.iso ⟨d.year, d.month, d.day⟩ := by
  obtain ⟨year, month, day⟩ := d.parts_lt
  have years := YearText.plain (Text.digits_padded 4 (by decide) year) (by decide) (by simp)
  have spelled := DateText.mk years (Text.digits_padded 2 (by decide) month)
    (Text.digits_padded 2 (by decide) day)
  simpa [Calendar.Date.iso] using spelled

theorem day_isValid : (⟨d.year, d.month, d.day⟩ : Day).IsValid := by
  obtain ⟨-, -, month⟩ := d.isDay
  exact month

def timeOf : Time :=
  ⟨m.hour, m.minute, m.second, if m.microsecond = 0 then [] else Text.padded 6 m.microsecond⟩

theorem timeText_clockText : TimeText m.clockText (timeOf m) := by
  obtain ⟨hour, minute, second, microsecond⟩ := m.isTime
  refine .mk (Text.digits_padded 2 (by decide) (Nat.lt_trans hour (by decide)))
    (Text.digits_padded 2 (by decide) (Nat.lt_trans minute (by decide)))
    (Text.digits_padded 2 (by decide) (Nat.lt_trans second (by decide))) ?_
  unfold Calendar.Moment.isoFraction
  split
  · exact .none
  · exact .some (Text.digits_padded 6 (by decide) microsecond) (by decide)

theorem time_isValid : (timeOf m).IsValid := by
  obtain ⟨hour, minute, second, -⟩ := m.isTime
  exact .inl ⟨hour, minute, second⟩

theorem fraction_timeOf : Text.ofDigits (timeOf m).fraction * Number.tenTo 6 =
    m.microsecond * Number.tenTo (timeOf m).fraction.length := by
  obtain ⟨-, -, -, microsecond⟩ := m.isTime
  unfold timeOf
  by_cases none : m.microsecond = 0
  · simp [none, Text.ofDigits]
  · have digits := Text.digits_padded 6 (by decide) microsecond
    simp only [none, if_false, digits.value, digits.length]

theorem zoneText_isoOffset {o : Int} (whole : o % 60000000 = 0) (near : o.natAbs ≤ 14 * 60 * 60000000) :
    ∃ minutes : Int, ZoneText (Calendar.Moment.isoOffset o) (some minutes) ∧ minutes * 60000000 = o := by
  -- In whole minutes nothing is left for the seconds, so just hours and minutes are written.
  obtain ⟨k, size⟩ : ∃ k, o.natAbs = 60000000 * k := ⟨o.natAbs / 60000000, by omega⟩
  have seconds : o.natAbs / 1000000 = 60 * k := by omega
  have none : 60 * k % 60 = 0 ∧ o.natAbs % 1000000 = 0 := by omega
  have hour : 60 * k / 3600 = k / 60 := by omega
  have hours : Text.Digits 2 (Text.padded 2 (k / 60)) (k / 60) := by
    refine Text.digits_padded 2 (by decide) (show k / 60 < 100 from ?_)
    omega
  have minutes : Text.Digits 2 (Text.padded 2 (k % 60)) (k % 60) := by
    refine Text.digits_padded 2 (by decide) (show k % 60 < 100 from ?_)
    omega
  have bound : k % 60 < 60 ∧ 60 * (k / 60) + k % 60 ≤ 840 := by omega
  have written : Calendar.Moment.isoOffset o =
      (if o < 0 then '-' else '+') :: (Text.padded 2 (k / 60) ++ ':' :: Text.padded 2 (k % 60)) := by
    simp [Calendar.Moment.isoOffset, Calendar.Moment.isoFraction, seconds, none, hour]
  rw [written]
  by_cases negative : o < 0
  · rw [if_pos negative]
    exact ⟨_, .behind hours minutes bound, by omega⟩
  · rw [if_neg negative]
    exact ⟨_, .ahead hours minutes bound, by omega⟩

theorem zoneText_offsetText {m : Calendar.Moment} (expressible : (Value.moment m).IsExpressible) :
    ∃ zone, ZoneText m.offsetText zone ∧ zone.map (· * 60000000) = m.offset := by
  unfold Calendar.Moment.offsetText
  cases offset : m.offset with
  | none => exact ⟨none, .none, rfl⟩
  | some o =>
    obtain ⟨whole, near⟩ := expressible o offset
    obtain ⟨minutes, spelled, value⟩ := zoneText_isoOffset whole near
    exact ⟨some minutes, spelled, congrArg some value⟩

end Lexical

/-- A literal that is written in queries with its own text and its datatype. It is valid and denotes the value,
unless the value is written with an exponent: then it is not valid, though its text is the value's with one. -/
structure Literal.Renders (l : Literal) (v : Value) : Prop where
  written : l.n3 = "\"" ++ l.lexical ++ "\"^^<" ++ l.datatype ++ ">"
  valid : ¬ v.IsScientific → l.IsValid ∧ l.Denotes v
  scientific : v.IsScientific → ¬ l.IsValid ∧
    ∃ d object q, v = .decimal d object ∧ d.rational? = some q ∧ ScientificText (core l.lexical) q

namespace Literal

theorem IsWellFormed.checked {l : Literal} (sound : l.IsWellFormed) : l.datatype ∈ checkedTypes := by
  cases sound with
  | boolean typed | date typed | dateTime typed =>
    rw [typed]
    decide
  | integer typed => exact List.mem_cons_of_mem _ (List.mem_cons_of_mem _ (List.mem_cons_of_mem _ typed))

theorem renders_bool (b : Bool) :
    ({ lexical := if b then "true" else "false", datatype := xsdBoolean } : Literal).Renders (.bool b) := by
  have plain : IsPlain (if b then "true" else "false") := by
    have marked : ((if b then "true" else "false").toList.all plainMarks.contains) = true := by
      cases b <;> rfl
    exact fun c member => .inr (by simpa using List.all_eq_true.1 marked c member)
  have spelled : BooleanText (core (if b then "true" else "false")) b := by
    rw [plain.core]
    cases b with
    | true => exact .yes
    | false => exact .no
  exact ⟨plain.n3 (by decide), fun _ => ⟨.inl (.boolean rfl spelled), .boolean rfl spelled⟩, False.elim⟩

theorem renders_int (n : Int) :
    ({ lexical := toString n, datatype := xsdInteger } : Literal).Renders (.int n) := by
  have text := integerText_repr n
  have plain : IsPlain (toString n) := text.written
  have spelled : IntegerText (core (toString n)) n := plain.core ▸ text
  have typed : xsdInteger ∈ integerTypes := by decide
  have unbounded : InRange xsdInteger n := by
    intro r member named
    obtain rfl : r = ("integer", none, none) := by
      revert r
      decide
    simp
  exact ⟨plain.n3 (by decide), fun _ => ⟨.inl (.integer typed spelled unbounded), .integer typed spelled⟩,
    False.elim⟩

theorem renders_date (d : Calendar.Date) :
    ({ lexical := String.ofList d.iso, datatype := xsdDate } : Literal).Renders (.date d) := by
  have plain : IsPlain (String.ofList d.iso) := by
    rw [IsPlain, String.toList_ofList]
    exact .mono (by decide) (.iso_date d)
  have text : core (String.ofList d.iso) = d.iso := by rw [plain.core, String.toList_ofList]
  have spelled : DateText (core (String.ofList d.iso)) ⟨d.year, d.month, d.day⟩ := by
    rw [text]
    exact dateText_iso d
  have parts : core (String.ofList d.iso) = core (String.ofList d.iso) ++ [] := (List.append_nil _).symm
  exact ⟨plain.n3 (by decide),
    fun _ => ⟨.inl (.date rfl parts spelled (day_isValid d) .none), .date rfl spelled⟩, False.elim⟩

theorem renders_moment {m : Calendar.Moment} (expressible : (Value.moment m).IsExpressible) :
    ({ lexical := String.ofList m.iso, datatype := xsdDateTime } : Literal).Renders (.moment m) := by
  have plain : IsPlain (String.ofList m.iso) := by
    rw [IsPlain, String.toList_ofList]
    exact .mono (by decide) m.written_iso
  have parts : core (String.ofList m.iso) = m.date.iso ++ 'T' :: (m.clockText ++ m.offsetText) := by
    rw [plain.core, String.toList_ofList, m.iso_eq]
  obtain ⟨zone, zoned, offset⟩ := zoneText_offsetText expressible
  have date := dateText_iso m.date
  have clock := timeText_clockText m
  have told : TellsOf m _ _ zone := ⟨rfl, ⟨rfl, rfl, rfl⟩, fraction_timeOf m, offset⟩
  refine ⟨plain.n3 (by decide), fun _ => ⟨.inl ?_, .moment rfl parts date clock zoned told⟩, False.elim⟩
  exact .dateTime rfl parts date (day_isValid m.date) clock (time_isValid m) zoned

theorem renders_decimal {d : Number.Decimal} {object : Option Nat} {q : ℚ} (number : d.rational? = some q) :
    ({ lexical := d.toText, datatype := xsdDecimal } : Literal).Renders (.decimal d object) := by
  obtain ⟨positional, scientific⟩ := Number.Decimal.toText_spelled number
  by_cases place : d.IsPositional
  · have text := positional place
    have plain : IsPlain d.toText := text.written
    have spelled : DecimalText (core d.toText) q := plain.core ▸ text
    exact ⟨plain.n3 (by decide), fun _ => ⟨.inr ⟨rfl, q, spelled⟩, .decimal rfl number spelled⟩,
      fun exponential => absurd place exponential⟩
  · have text := scientific place
    have plain : IsPlain d.toText := text.written
    have spelled : ScientificText (core d.toText) q := plain.core ▸ text
    refine ⟨plain.n3 (by decide), fun none => absurd place none, fun _ => ?_⟩
    refine ⟨?_, d, object, q, rfl, number, spelled⟩
    rintro (sound | ⟨-, r, numeral⟩)
    · have typed : xsdDecimal ∈ checkedTypes := sound.checked
      exact absurd typed (by decide)
    · exact numeral.no_exponent spelled.exponent

end Literal

/-- Booleans, integers that can be written, finite decimals, dates, and moments without an offset or with one of
whole minutes, fourteen hours at most, all come to literals that are in the lexical spaces of their datatypes and
denote them, the decimals that are written with an exponent apart; the literals of these are in no lexical space. -/
theorem Value.literal_denotes {v : Value} (expressible : v.IsExpressible) :
    ∃ l, Term.ofValue v = .ok (.literal l) ∧ l.Renders v := by
  cases v with
  | bool b => exact ⟨_, rfl, Literal.renders_bool b⟩
  | int n =>
    refine ⟨_, ?_, Literal.renders_int n⟩
    rw [Term.ofValue, inspectInt_of_isShort expressible]
    rfl
  | decimal d =>
    obtain ⟨negative, c, e, rfl⟩ := expressible
    exact ⟨_, rfl, Literal.renders_decimal rfl⟩
  | date d => exact ⟨_, rfl, Literal.renders_date d⟩
  | moment m => exact ⟨_, rfl, Literal.renders_moment expressible⟩
  | _ => exact expressible.elim

def leapNoon : Calendar.Moment :=
  ⟨⟨2024, 2, 29, by decide⟩, 12, 0, 0, 500000, some 19800000000, by decide, by decide⟩

theorem Value.literals_of_noon_and_hundred :
    (∃ l, Term.ofValue (.moment leapNoon) = .ok (.literal l) ∧ l.IsValid ∧ l.Denotes (.moment leapNoon)) ∧
      ∃ l, Term.ofValue (.decimal (.finite false 1 2)) = .ok (.literal l) ∧ l.lexical = "1E+2" ∧
        ¬ l.IsValid := by
  have near : (Value.moment leapNoon).IsExpressible := by
    intro o offset
    obtain rfl := Option.some.inj offset
    decide
  have exponential : (Value.decimal (.finite false 1 2)).IsScientific := fun positional =>
    absurd positional.1 (by decide)
  refine ⟨?_, ?_⟩
  · obtain ⟨l, made, renders⟩ := literal_denotes near
    exact ⟨l, made, renders.valid id⟩
  · obtain ⟨l, made, renders⟩ := literal_denotes (v := .decimal (.finite false 1 2)) ⟨_, _, _, rfl⟩
    refine ⟨l, made, ?_, (renders.scientific exponential).1⟩
    obtain rfl := Term.literal.inj (Except.ok.inj made)
    decide

end QuadPull
