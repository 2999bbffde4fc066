import QuadPull.Proofs.Inspection
import QuadPull.Proofs.IsoText
import QuadPull.Value.Conversion

namespace QuadPull

open Vocabulary

namespace Literal

variable {l : Literal}

theorem value?_integer (typed : l.datatype ∈ integerTypes) :
    l.value? = (Number.ofText? l.lexical).map .int := by
  simp [value?, typed]

theorem value?_boolean (typed : l.datatype = xsdBoolean) : l.value? = some (.bool (readBool l.lexical)) := by
  have others : xsdBoolean ∉ integerTypes ∧ xsdBoolean ∉ fractionalTypes := by decide
  simp [value?, typed, others]

theorem value?_dateTime (typed : l.datatype = xsdDateTime) :
    l.value? = (Calendar.Moment.ofIso? (zuluAsOffset l.lexical)).map .moment := by
  have others : xsdDateTime ∉ integerTypes ∧ xsdDateTime ∉ fractionalTypes ∧ xsdDateTime ≠ xsdBoolean := by
    decide
  simp [value?, typed, others]

theorem value?_date (typed : l.datatype = xsdDate) :
    l.value? = (Calendar.Date.ofIso? l.lexical).map .date := by
  have others : xsdDate ∉ integerTypes ∧ xsdDate ∉ fractionalTypes ∧ xsdDate ≠ xsdBoolean ∧
      xsdDate ≠ xsdDateTime := by decide
  simp [value?, typed, others]

end Literal

namespace Term

theorem literal_of_text {r : Except Error String} {datatype : String} {t : Term}
    (made : (do let s ← r; return typed s datatype) = .ok t) : ∃ l, t = .literal l := by
  cases r with
  | error e => cases made
  | ok s =>
    cases made
    exact ⟨_, rfl⟩

theorem literal_of_ofValue {v : Value} {t : Term} (native : ∀ u, v ≠ .term u)
    (made : ofValue v = .ok t) : ∃ l, t = .literal l := by
  cases v with
  | term u => exact absurd rfl (native u)
  | bool b | decimal d | moment m | date d =>
    cases made
    exact ⟨_, rfl⟩
  | double d =>
    rw [ofValue] at made
    cases whole : d.integer? with
    | some n =>
      rw [whole] at made
      exact literal_of_text made
    | none =>
      rw [whole] at made
      cases made
      exact ⟨_, rfl⟩
  | _ => exact literal_of_text made

variable (s : String)

theorem toValue_integer : (typed s xsdInteger).toValue =
    .ok (((Number.ofText? s).map .int).getD (.text s)) := by
  have integer : xsdInteger ∈ integerTypes := by decide
  rw [typed, toValue, Literal.toValue, Literal.value?_integer integer]

theorem toValue_boolean : (typed s xsdBoolean).toValue = .ok (.bool (readBool s)) := by
  rw [typed, toValue, Literal.toValue, Literal.value?_boolean rfl, Option.getD_some]

theorem toValue_dateTime : (typed s xsdDateTime).toValue =
    .ok (((Calendar.Moment.ofIso? (zuluAsOffset s)).map .moment).getD (.text s)) := by
  rw [typed, toValue, Literal.toValue, Literal.value?_dateTime rfl]

theorem toValue_date : (typed s xsdDate).toValue =
    .ok (((Calendar.Date.ofIso? s).map .date).getD (.text s)) := by
  rw [typed, toValue, Literal.toValue, Literal.value?_date rfl]

theorem toValue_string : (typed s xsdString).toValue = .ok (.text s) := by
  have others : xsdString ∉ integerTypes ∧ xsdString ∉ fractionalTypes ∧ xsdString ≠ xsdBoolean ∧
      xsdString ≠ xsdDateTime ∧ xsdString ≠ xsdDate := by decide
  simp [typed, toValue, Literal.toValue, Literal.value?, others]

end Term

namespace Value

def ComesBack (v : Value) : Prop := ∃ t, Term.ofValue v = .ok t ∧ t.toValue = .ok v

theorem comesBack_bool (b : Bool) : (Value.bool b).ComesBack := by
  have said : readBool (if b then "true" else "false") = b := by cases b <;> decide
  refine ⟨_, rfl, ?_⟩
  rw [Term.toValue_boolean, said]

theorem isShort_iff {n : Int} : isShort n = true ↔ n.natAbs < Number.tenTo Number.maxDigits := by
  unfold isShort
  exact decide_eq_true_iff

theorem comesBack_int {n : Int} (short : isShort n = true) : (Value.int n).ComesBack := by
  refine ⟨.typed (toString n) xsdInteger, ?_, ?_⟩
  · rw [Term.ofValue, inspectInt_of_isShort short]
    rfl
  · rw [Term.toValue_integer, Int.toString_eq_repr, Number.ofText?_repr (isShort_iff.1 short)]
    rfl

theorem comesBack_text (s : String) : (Value.text s).ComesBack := ⟨_, rfl, Term.toValue_string s⟩

theorem comesBack_date (d : Calendar.Date) : (Value.date d).ComesBack := by
  refine ⟨_, rfl, ?_⟩
  rw [Term.toValue_date, Calendar.Date.ofIso?_iso]
  rfl

theorem zuluAsOffset_iso (m : Calendar.Moment) :
    zuluAsOffset (String.ofList m.iso) = String.ofList m.iso := by
  have noZulu : 'Z' ∉ m.iso := fun member => (m.written_iso 'Z' member).elim (by decide) (by decide)
  unfold zuluAsOffset
  split
  · rename_i rest ends
    rw [String.toList_ofList] at ends
    exact absurd (List.mem_reverse.1 (ends ▸ List.mem_cons_self)) noZulu
  · rfl

theorem comesBack_moment {m : Calendar.Moment} (plain : m.HasPlainOffset) : (Value.moment m).ComesBack := by
  refine ⟨_, rfl, ?_⟩
  rw [Term.toValue_dateTime, zuluAsOffset_iso, Calendar.Moment.ofIso?_iso plain]
  rfl

/-- Booleans, integers of few enough digits, texts, dates, and moments with an offset of whole seconds or
none. -/
def IsNative : Value → Prop
  | .bool _ | .text _ | .date _ => True
  | .int n => isShort n = true
  | .moment m => ∀ o ∈ m.offset, o % 1000000 = 0
  | _ => False

theorem comesBack_of_isNative {v : Value} (native : v.IsNative) : v.ComesBack := by
  cases v with
  | bool b => exact comesBack_bool b
  | int n => exact comesBack_int native
  | text s => exact comesBack_text s
  | date d => exact comesBack_date d
  | moment m =>
    refine comesBack_moment fun o offset => ?_
    have whole := native o offset
    omega
  | _ => exact native.elim

end Value

theorem Literal.comesBack_toValue {l : Literal} (other : l.datatype ∉ fractionalTypes) :
    l.toValue.ComesBack := by
  unfold Literal.toValue
  cases read : l.value? with
  | none => exact Value.comesBack_text l.lexical
  | some v =>
    have other : fractionalTypes.contains l.datatype = false := by simpa using other
    unfold Literal.value? at read
    simp only [other, Bool.false_eq_true, if_false] at read
    split at read
    · obtain ⟨n, whole, rfl⟩ := Option.map_eq_some_iff.1 read
      exact Value.comesBack_int (Value.isShort_iff.2 (Number.natAbs_lt_of_ofText? whole))
    split at read
    · obtain rfl := Option.some.inj read
      exact Value.comesBack_bool _
    split at read
    · obtain ⟨m, moment, rfl⟩ := Option.map_eq_some_iff.1 read
      exact Value.comesBack_moment (Calendar.Moment.hasPlainOffset_of_ofIso? moment)
    split at read
    · obtain ⟨d, -, rfl⟩ := Option.map_eq_some_iff.1 read
      exact Value.comesBack_date d
    · cases read

namespace Term

/-- A term that is no literal, or a literal with texts for its lexical form and its datatype, which is not
one of the fractional types. -/
def IsDefinite : Term → Prop
  | .literal l => l.datatype ∉ fractionalTypes
  | .loose .nothing => False
  | .loose (.literal (.text _) (.text datatype) _ _) => datatype ∉ fractionalTypes
  | .loose (.literal ..) => False
  | _ => True

theorem IsDefinite.comesBack {t : Term} (definite : t.IsDefinite) :
    ∃ v, t.toValue = .ok v ∧ v.ComesBack := by
  unfold IsDefinite at definite
  split at definite
  · exact ⟨_, rfl, Literal.comesBack_toValue definite⟩
  · exact definite.elim
  · exact ⟨_, rfl, Literal.comesBack_toValue definite⟩
  · exact definite.elim
  · rename_i notLiteral notNothing _ notLoose
    have itself : t.toValue = .ok (.term t) := by
      cases t with
      | literal l => exact absurd rfl (notLiteral l)
      | loose l =>
        cases l with
        | nothing => exact absurd rfl notNothing
        | literal => exact absurd rfl (notLoose _ _ _ _)
        | _ => rfl
      | _ => rfl
    exact ⟨_, itself, t, rfl, itself⟩

end Term

/-- Native values come back from the terms that are written for them. What a term without a fractional
number is read as can be written, and the term that this gives is then given again. -/
theorem Value.native_comesBack :
    (∀ v : Value, v.IsNative → ∃ t, Term.ofValue v = .ok t ∧ t.toValue = .ok v) ∧
      ∀ t : Term, t.IsDefinite → ∃ u, (t.toValue >>= Term.ofValue) = .ok u ∧
        (u.toValue >>= Term.ofValue) = .ok u := by
  refine ⟨fun v native => comesBack_of_isNative native, fun t definite => ?_⟩
  obtain ⟨v, read, u, written, again⟩ := definite.comesBack
  refine ⟨u, ?_, ?_⟩
  · rw [read]
    exact written
  · rw [again]
    exact written

def firstMorning : Calendar.Moment :=
  ⟨⟨1, 1, 1, by decide⟩, 6, 0, 0, 1, some (-3601000000), by decide, by decide⟩

theorem Value.firstMorning_comesBack :
    (∃ t, Term.ofValue (.moment firstMorning) = .ok t ∧ t.toValue = .ok (.moment firstMorning)) ∧
      ∃ u, ((Term.typed " +1_0" xsdInteger).toValue >>= Term.ofValue) = .ok u ∧
        (u.toValue >>= Term.ofValue) = .ok u := by
  have whole : (Value.moment firstMorning).IsNative := by
    intro o offset
    obtain rfl := Option.some.inj offset
    decide
  have definite : (Term.typed " +1_0" xsdInteger).IsDefinite := by
    change xsdInteger ∉ fractionalTypes
    decide
  exact ⟨native_comesBack.1 _ whole, native_comesBack.2 _ definite⟩

example : String.ofList firstMorning.iso = "0001-01-01T06:00:00.000001-01:00:01" := by decide

end QuadPull
