import QuadPull.Calendar.Date
import QuadPull.Proofs.Numerals
import QuadPull.Term.Basic
/-!
The lexical spaces of datatypes, apart from any reader. The texts of literals have white space around them
that does not count.
-/

namespace QuadPull

namespace Lexical

open Calendar (daysInMonth)

def isSpace (c : Char) : Bool := c == ' ' || c == '\t' || c == '\n' || c == '\r'

def core (s : String) : List Char := Text.trimBy isSpace s.toList

inductive BooleanText : List Char → Bool → Prop
  | yes : BooleanText ['t', 'r', 'u', 'e'] true
  | one : BooleanText ['1'] true
  | no : BooleanText ['f', 'a', 'l', 's', 'e'] false
  | zero : BooleanText ['0'] false

inductive IntegerText : List Char → Int → Prop
  | plain {width n : Nat} {ds : List Char} (digits : Text.Digits width ds n) (some_digit : 0 < width) :
      IntegerText ds n
  | plus {width n : Nat} {ds : List Char} (digits : Text.Digits width ds n) (some_digit : 0 < width) :
      IntegerText ('+' :: ds) n
  | minus {width n : Nat} {ds : List Char} (digits : Text.Digits width ds n) (some_digit : 0 < width) :
      IntegerText ('-' :: ds) (-n)

def ranges : List (String × Option Int × Option Int) :=
  [("integer", none, none),
    ("int", some (-2147483648), some 2147483647),
    ("long", some (-9223372036854775808), some 9223372036854775807),
    ("short", some (-32768), some 32767),
    ("byte", some (-128), some 127),
    ("nonNegativeInteger", some 0, none),
    ("positiveInteger", some 1, none),
    ("nonPositiveInteger", none, some 0),
    ("negativeInteger", none, some (-1)),
    ("unsignedLong", some 0, some 18446744073709551615),
    ("unsignedInt", some 0, some 4294967295),
    ("unsignedShort", some 0, some 65535),
    ("unsignedByte", some 0, some 255)]

example : ranges.map (fun r => Vocabulary.xsd.name r.1) = Vocabulary.integerTypes := rfl

def InRange (datatype : String) (n : Int) : Prop :=
  ∀ r ∈ ranges, Vocabulary.xsd.name r.1 = datatype →
    (∀ least ∈ r.2.1, least ≤ n) ∧ ∀ greatest ∈ r.2.2, n ≤ greatest

instance (datatype : String) (n : Int) : Decidable (InRange datatype n) := by
  unfold InRange
  infer_instance

structure Day where
  year : Int
  month : Nat
  day : Nat

/-- A month of the year and a day of that month. A year before the first leaps like the one after it. -/
def Day.IsValid (d : Day) : Prop :=
  1 ≤ d.month ∧ d.month ≤ 12 ∧ 1 ≤ d.day ∧ d.day ≤ daysInMonth d.year.natAbs d.month

inductive YearText : List Char → Int → Prop
  | plain {width n : Nat} {ds : List Char} (digits : Text.Digits width ds n) (long : 4 ≤ width)
      (first : 4 < width → ds.head? ≠ some '0') : YearText ds n
  | before {width n : Nat} {ds : List Char} (digits : Text.Digits width ds n) (long : 4 ≤ width)
      (first : 4 < width → ds.head? ≠ some '0') : YearText ('-' :: ds) (-n)

inductive DateText : List Char → Day → Prop
  | mk {year : Int} {month day : Nat} {ys ms ds : List Char} (years : YearText ys year)
      (months : Text.Digits 2 ms month) (days : Text.Digits 2 ds day) :
      DateText (ys ++ '-' :: (ms ++ '-' :: ds)) ⟨year, month, day⟩

structure Time where
  hour : Nat
  minute : Nat
  second : Nat
  fraction : List Char

/-- A time before midnight, or midnight at the end of the day. -/
def Time.IsValid (t : Time) : Prop :=
  t.hour < 24 ∧ t.minute < 60 ∧ t.second < 60 ∨
    t.hour = 24 ∧ t.minute = 0 ∧ t.second = 0 ∧ ∀ c ∈ t.fraction, c = '0'

inductive FractionText : List Char → List Char → Prop
  | none : FractionText [] []
  | some {width n : Nat} {ds : List Char} (digits : Text.Digits width ds n) (some_digit : 0 < width) :
      FractionText ('.' :: ds) ds

inductive TimeText : List Char → Time → Prop
  | mk {hour minute second : Nat} {hs ms ss fs fraction : List Char} (hours : Text.Digits 2 hs hour)
      (minutes : Text.Digits 2 ms minute) (seconds : Text.Digits 2 ss second)
      (fractions : FractionText fs fraction) :
      TimeText (hs ++ ':' :: (ms ++ ':' :: (ss ++ fs))) ⟨hour, minute, second, fraction⟩

/-- A zone and the minutes by which it is ahead: no zone, the mark of none ahead, or a sign, an hour and a
minute up to fourteen hours. -/
inductive ZoneText : List Char → Option Int → Prop
  | none : ZoneText [] none
  | zulu : ZoneText ['Z'] (some 0)
  | ahead {hour minute : Nat} {hs ms : List Char} (hours : Text.Digits 2 hs hour)
      (minutes : Text.Digits 2 ms minute) (bound : minute < 60 ∧ 60 * hour + minute ≤ 840) :
      ZoneText ('+' :: (hs ++ ':' :: ms)) (some ↑(60 * hour + minute))
  | behind {hour minute : Nat} {hs ms : List Char} (hours : Text.Digits 2 hs hour)
      (minutes : Text.Digits 2 ms minute) (bound : minute < 60 ∧ 60 * hour + minute ≤ 840) :
      ZoneText ('-' :: (hs ++ ':' :: ms)) (some (-↑(60 * hour + minute)))

end Lexical

open Lexical Vocabulary

def checkedTypes : List String := xsdBoolean :: xsdDateTime :: xsdDate :: integerTypes

namespace Literal

/-- The text of a literal is in the lexical space of its datatype, and denotes a value of it. -/
inductive IsWellFormed (l : Literal) : Prop
  | boolean (typed : l.datatype = xsdBoolean) {b : Bool} (spelled : BooleanText (core l.lexical) b)
  | integer (typed : l.datatype ∈ integerTypes) {n : Int} (spelled : IntegerText (core l.lexical) n)
      (within : InRange l.datatype n)
  | date (typed : l.datatype = xsdDate) {ds zs : List Char} {day : Day} {zone : Option Int}
      (parts : core l.lexical = ds ++ zs) (date : DateText ds day) (valid : day.IsValid)
      (zoned : ZoneText zs zone)
  | dateTime (typed : l.datatype = xsdDateTime) {ds ts zs : List Char} {day : Day} {time : Time}
      {zone : Option Int} (parts : core l.lexical = ds ++ 'T' :: (ts ++ zs)) (date : DateText ds day)
      (day_valid : day.IsValid) (clock : TimeText ts time) (time_valid : time.IsValid)
      (zoned : ZoneText zs zone)

def IsMalformed (l : Literal) : Prop := l.datatype ∈ checkedTypes ∧ ¬ l.IsWellFormed

end Literal

namespace Text

theorem trimBy_split (p : Char → Bool) (cs : List Char) :
    ∃ before after, cs = before ++ trimBy p cs ++ after ∧ (∀ c ∈ before, p c = true) ∧
      ∀ c ∈ after, p c = true := by
  have passed : ∀ ds : List Char, ∀ c ∈ ds.takeWhile p, p c = true := fun ds c member =>
    List.all_eq_true.1 List.all_takeWhile c member
  refine ⟨cs.takeWhile p, ((cs.dropWhile p).reverse.takeWhile p).reverse, ?_, passed cs, ?_⟩
  · rw [trimBy, List.append_assoc, ← List.reverse_append, List.takeWhile_append_dropWhile,
      List.reverse_reverse, List.takeWhile_append_dropWhile]
  · intro c member
    exact passed _ c (List.mem_reverse.1 member)

theorem mem_of_mem_trimBy {p : Char → Bool} {cs : List Char} {c : Char} (member : c ∈ trimBy p cs) :
    c ∈ cs := by
  obtain ⟨before, after, split, -⟩ := trimBy_split p cs
  rw [split]
  simp [member]

theorem dropWhile_congr {p q : Char → Bool} {cs : List Char} (alike : ∀ c ∈ cs, p c = q c) :
    cs.dropWhile p = cs.dropWhile q := by
  induction cs with
  | nil => rfl
  | cons c rest ih =>
    obtain ⟨head, tail⟩ := List.forall_mem_cons.1 alike
    rw [List.dropWhile_cons, List.dropWhile_cons, head, ih tail]

theorem trimBy_congr {p q : Char → Bool} {cs : List Char} (alike : ∀ c ∈ cs, p c = q c) :
    trimBy p cs = trimBy q cs := by
  have inside : ∀ c ∈ (cs.dropWhile q).reverse, p c = q c := fun c member =>
    alike c ((List.dropWhile_suffix q).subset (List.mem_reverse.1 member))
  rw [trimBy, trimBy, dropWhile_congr alike, dropWhile_congr inside]

end Text

namespace Lexical

variable {cs ds : List Char} {s : String} {n m : Int} {day : Day} {time : Time} {zone : Option Int}

def IsAscii (cs : List Char) : Prop := ∀ c ∈ cs, c.toNat < 128

theorem isAscii_append : IsAscii (cs ++ ds) ↔ IsAscii cs ∧ IsAscii ds := List.forall_mem_append

theorem isAscii_cons {c : Char} : IsAscii (c :: cs) ↔ c.toNat < 128 ∧ IsAscii cs := List.forall_mem_cons

theorem isAscii_of_digits {width n : Nat} (digits : Text.Digits width ds n) : IsAscii ds := by
  intro c member
  have bounds := Text.bounds_of_isDigit (digits.all c member)
  omega

theorem isSpace_iff {c : Char} : isSpace c = true ↔ c = ' ' ∨ c = '\t' ∨ c = '\n' ∨ c = '\r' := by
  simp [isSpace, or_assoc]

theorem isAscii_of_spaces (spaces : ∀ c ∈ cs, isSpace c = true) : IsAscii cs := by
  intro c member
  rcases isSpace_iff.1 (spaces c member) with rfl | rfl | rfl | rfl <;> decide

theorem core_split (s : String) : ∃ before after, s.toList = before ++ core s ++ after ∧
    (∀ c ∈ before, isSpace c = true) ∧ ∀ c ∈ after, isSpace c = true :=
  Text.trimBy_split isSpace s.toList

theorem isAscii_of_core (ascii : IsAscii (core s)) : IsAscii s.toList := by
  obtain ⟨before, after, split, before_spaces, after_spaces⟩ := core_split s
  rw [split, isAscii_append, isAscii_append]
  exact ⟨⟨isAscii_of_spaces before_spaces, ascii⟩, isAscii_of_spaces after_spaces⟩

theorem DateText.isAscii (spelled : DateText cs day) : IsAscii cs := by
  cases spelled with
  | mk years months days =>
    refine isAscii_append.2 ⟨?_, isAscii_cons.2 ⟨by decide, isAscii_append.2 ⟨isAscii_of_digits months,
      isAscii_cons.2 ⟨by decide, isAscii_of_digits days⟩⟩⟩⟩
    cases years with
    | plain digits => exact isAscii_of_digits digits
    | before digits => exact isAscii_cons.2 ⟨by decide, isAscii_of_digits digits⟩

theorem TimeText.isAscii (spelled : TimeText cs time) : IsAscii cs := by
  cases spelled with
  | mk hours minutes seconds fractions =>
    refine isAscii_append.2 ⟨isAscii_of_digits hours, isAscii_cons.2 ⟨by decide, isAscii_append.2
      ⟨isAscii_of_digits minutes, isAscii_cons.2 ⟨by decide, isAscii_append.2
        ⟨isAscii_of_digits seconds, ?_⟩⟩⟩⟩⟩
    cases fractions with
    | none => exact fun c member => nomatch member
    | some digits => exact isAscii_cons.2 ⟨by decide, isAscii_of_digits digits⟩

theorem ZoneText.isAscii (spelled : ZoneText cs zone) : IsAscii cs := by
  cases spelled with
  | none => exact fun c member => nomatch member
  | zulu => exact isAscii_cons.2 ⟨by decide, fun c member => nomatch member⟩
  | ahead hours minutes | behind hours minutes =>
    exact isAscii_cons.2 ⟨by decide, isAscii_append.2 ⟨isAscii_of_digits hours,
      isAscii_cons.2 ⟨by decide, isAscii_of_digits minutes⟩⟩⟩

theorem isAscii_of_parts {ts zs : List Char} (date : DateText ds day) (clock : TimeText ts time)
    (zoned : ZoneText zs zone) : IsAscii (ds ++ 'T' :: (ts ++ zs)) :=
  isAscii_append.2 ⟨date.isAscii, isAscii_cons.2 ⟨by decide, isAscii_append.2 ⟨clock.isAscii, zoned.isAscii⟩⟩⟩

theorem DateText.digits_of_ten (spelled : DateText cs day) (ten : cs.length = 10) :
    ∃ (year : Nat) (ys ms ds : List Char), cs = ys ++ '-' :: (ms ++ '-' :: ds) ∧ day.year = year ∧
      Text.Digits 4 ys year ∧ Text.Digits 2 ms day.month ∧ Text.Digits 2 ds day.day := by
  cases spelled with
  | mk years months days =>
    have months_length := months.length
    have days_length := days.length
    cases years with
    | plain digits long first =>
      have years_length := digits.length
      simp only [List.length_append, List.length_cons] at ten
      obtain rfl : _ = 4 := years_length.symm.trans (by omega)
      exact ⟨_, _, _, _, rfl, rfl, digits, months, days⟩
    | before digits long first =>
      have years_length := digits.length
      simp only [List.length_append, List.length_cons] at ten
      omega

theorem DateText.ten_le (spelled : DateText cs day) : 10 ≤ cs.length := by
  cases spelled with
  | mk years months days =>
    have months_length := months.length
    have days_length := days.length
    cases years with
    | plain digits long first | before digits long first =>
      have years_length := digits.length
      simp only [List.length_append, List.length_cons]
      omega

theorem IntegerText.unique (spelled : IntegerText cs n) (again : IntegerText cs m) : n = m := by
  have unsigned : ∀ {width k : Nat} {c : Char} {ds : List Char}, Text.Digits width (c :: ds) k →
      c ≠ '+' ∧ c ≠ '-' := by
    intro width k c ds digits
    have digit := digits.all c List.mem_cons_self
    constructor <;> rintro rfl <;> exact absurd digit (by decide)
  cases spelled with
  | plain digits =>
    cases again with
    | plain others => rw [digits.unique others]
    | plus => exact absurd rfl (unsigned digits).1
    | minus => exact absurd rfl (unsigned digits).2
  | plus digits =>
    cases again with
    | plain others => exact absurd rfl (unsigned others).1
    | plus others => rw [digits.unique others]
  | minus digits =>
    cases again with
    | plain others => exact absurd rfl (unsigned others).2
    | minus others => rw [digits.unique others]

end Lexical

end QuadPull
