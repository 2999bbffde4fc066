import QuadPull.Proofs.NativeValues
import QuadPull.Proofs.PlainForms

namespace QuadPull

open Lexical Vocabulary

namespace Lexical

variable {cs ds : List Char} {s : String} {n : Int}

/-- Characters that a reader of integers passes over or takes for others: underscores, vertical tabs and
form feeds, and all beyond ASCII. -/
def IsUnusual (c : Char) : Prop := c = '_' ∨ c = '\x0b' ∨ c = '\x0c' ∨ 127 < c.toNat

theorem not_isUnusual_of_isDigit {c : Char} (digit : Text.isDigit c = true) : ¬ IsUnusual c := by
  have bounds := Text.bounds_of_isDigit digit
  rintro (rfl | rfl | rfl | beyond)
  · exact absurd digit (by decide)
  · exact absurd digit (by decide)
  · exact absurd digit (by decide)
  · omega

theorem IntegerText.usual (spelled : IntegerText cs n) : ∀ c ∈ cs, ¬ IsUnusual c := by
  cases spelled with
  | plain digits => exact fun c member => not_isUnusual_of_isDigit (digits.all c member)
  | plus digits | minus digits =>
    refine List.forall_mem_cons.2 ⟨by unfold IsUnusual; decide, fun c member => ?_⟩
    exact not_isUnusual_of_isDigit (digits.all c member)

theorem usual_of_core (spelled : IntegerText (core s) n) : ∀ c ∈ s.toList, ¬ IsUnusual c := by
  obtain ⟨before, after, split, before_spaces, after_spaces⟩ := core_split s
  have space : ∀ c, isSpace c = true → ¬ IsUnusual c := by
    intro c blank
    rcases isSpace_iff.1 blank with rfl | rfl | rfl | rfl <;> unfold IsUnusual <;> decide
  rw [split, List.forall_mem_append, List.forall_mem_append]
  exact ⟨⟨fun c member => space c (before_spaces c member), spelled.usual⟩,
    fun c member => space c (after_spaces c member)⟩

theorem isSpace_of_usual {c : Char} (usual : ¬ IsUnusual c) : isSpace c = Text.isAsciiBlank c := by
  have other : c.toNat ≠ 0x0b ∧ c.toNat ≠ 0x0c :=
    ⟨fun same => usual (.inr (.inl (Char.toNat_inj.1 same))),
      fun same => usual (.inr (.inr (.inl (Char.toNat_inj.1 same))))⟩
  rw [Bool.eq_iff_iff, isSpace_iff]
  simp only [Text.isAsciiBlank, Bool.or_eq_true, Bool.and_eq_true, beq_iff_eq, decide_eq_true_eq,
    ← Char.toNat_inj]
  change c.toNat = 32 ∨ c.toNat = 9 ∨ c.toNat = 10 ∨ c.toNat = 13 ↔ _
  omega

theorem integerText_of_numeral {negative : Bool} (numeral : Number.numeral? cs = some (negative, ds))
    (usual : ∀ c ∈ cs, ¬ IsUnusual c) :
    IntegerText (Text.trimBy isSpace cs) (Number.negateIf negative (Text.ofDigits ds)) := by
  obtain ⟨rest, signed, grouped⟩ := Number.parts_of_numeral numeral
  rw [Text.trimBy_congr fun c member => isSpace_of_usual (usual c member)]
  have digits := Number.areDigits_of_grouped grouped
  have inside : '_' ∉ Text.trimBy Text.isAsciiBlank cs := fun member =>
    usual '_' (Text.mem_of_mem_trimBy member) (.inl rfl)
  have joined : '_' ∉ rest := by
    rcases Number.parts_of_signed signed with ⟨text, -⟩ | ⟨text, -⟩ | ⟨text, -⟩ <;> rw [text] at inside
    · exact fun member => inside (List.mem_cons_of_mem _ member)
    · exact fun member => inside (List.mem_cons_of_mem _ member)
    · exact inside
  obtain ⟨rfl, some_digit⟩ := Number.digits_of_grouped grouped joined
  have positive := List.length_pos_iff.2 some_digit
  rcases Number.parts_of_signed signed with ⟨text, rfl⟩ | ⟨text, rfl⟩ | ⟨text, rfl⟩ <;> rw [text]
  · exact .minus ⟨rfl, digits, rfl⟩ positive
  · exact .plus ⟨rfl, digits, rfl⟩ positive
  · exact .plain ⟨rfl, digits, rfl⟩ positive

theorem integerText_of_ofText? (read : Number.ofText? s = some n) (usual : ∀ c ∈ s.toList, ¬ IsUnusual c) :
    IntegerText (core s) n := by
  have plain : Text.plain s = s.toList := by
    rw [Text.plain, if_pos]
    rw [List.all_eq_true]
    intro c member
    have low : ¬ 127 < c.toNat := fun beyond => usual c member (.inr (.inr (.inr beyond)))
    exact decide_eq_true (by omega)
  rw [Number.ofText?, plain] at read
  obtain ⟨⟨negative, ds⟩, numeral, guarded⟩ := Option.bind_eq_some_iff.1 read
  obtain ⟨_, -, same⟩ := Option.bind_eq_some_iff.1 guarded
  obtain rfl := Option.some.inj same
  exact integerText_of_numeral numeral usual

end Lexical

namespace Literal

variable {l : Literal}

theorem toValue_eq_text_iff : l.toValue = .text l.lexical ↔ l.value? = none := by
  have native : l.value? ≠ some (.text l.lexical) := by
    unfold value?
    intro read
    split at read
    · simp at read
    split at read
    · simp at read
    split at read
    · simp at read
    split at read
    · simp at read
    split at read
    · simp at read
    · cases read
  unfold toValue
  cases read : l.value? with
  | none => simp
  | some v =>
    rw [read] at native
    simpa using fun same => native (congrArg some same)

/-- The text of a malformed literal is taken for a value: of a boolean any text; of an integer one with an
unusual character or beyond the range of its type; of a date or a moment one that has another form than the
plain one and that can be read all the same. -/
inductive IsMisread (l : Literal) : Prop
  | boolean (typed : l.datatype = xsdBoolean) (other : ∀ b, ¬ BooleanText (core l.lexical) b)
  | integer (typed : l.datatype ∈ integerTypes) {n : Int} (read : Number.ofText? l.lexical = some n)
      (other : (∃ c ∈ l.lexical.toList, IsUnusual c) ∨ ¬ InRange l.datatype n)
  | date (typed : l.datatype = xsdDate) {d : Calendar.Date} (read : Calendar.Date.ofIso? l.lexical = some d)
      (other : ¬ IsPlainDate (core l.lexical))
  | dateTime (typed : l.datatype = xsdDateTime) {m : Calendar.Moment}
      (read : Calendar.Moment.ofIso? (zuluAsOffset l.lexical) = some m)
      (other : ¬ IsPlainMoment (core l.lexical))

theorem not_integer_of {datatype : String} (other : datatype = xsdBoolean ∨ datatype = xsdDate ∨
    datatype = xsdDateTime) : datatype ∉ integerTypes := by
  rcases other with rfl | rfl | rfl <;> decide

theorem IsWellFormed.of_boolean (sound : l.IsWellFormed) (typed : l.datatype = xsdBoolean) :
    ∃ b, BooleanText (core l.lexical) b := by
  cases sound with
  | boolean _ spelled => exact ⟨_, spelled⟩
  | integer member => exact absurd member (not_integer_of (.inl typed))
  | date other => exact absurd (typed.symm.trans other) (by decide)
  | dateTime other => exact absurd (typed.symm.trans other) (by decide)

theorem IsWellFormed.of_integer (sound : l.IsWellFormed) (typed : l.datatype ∈ integerTypes) :
    ∃ n, IntegerText (core l.lexical) n ∧ InRange l.datatype n := by
  cases sound with
  | boolean other => exact absurd typed (not_integer_of (.inl other))
  | integer _ spelled within => exact ⟨_, spelled, within⟩
  | date other => exact absurd typed (not_integer_of (.inr (.inl other)))
  | dateTime other => exact absurd typed (not_integer_of (.inr (.inr other)))

theorem IsWellFormed.of_date (sound : l.IsWellFormed) (typed : l.datatype = xsdDate) :
    ∃ ds zs day zone, core l.lexical = ds ++ zs ∧ DateText ds day ∧ ZoneText zs zone := by
  cases sound with
  | boolean other => exact absurd (typed.symm.trans other) (by decide)
  | integer member => exact absurd member (not_integer_of (.inr (.inl typed)))
  | date _ parts date _ zoned => exact ⟨_, _, _, _, parts, date, zoned⟩
  | dateTime other => exact absurd (typed.symm.trans other) (by decide)

theorem IsWellFormed.of_dateTime (sound : l.IsWellFormed) (typed : l.datatype = xsdDateTime) :
    ∃ ds ts zs day time zone, core l.lexical = ds ++ 'T' :: (ts ++ zs) ∧ DateText ds day ∧
      TimeText ts time ∧ ZoneText zs zone := by
  cases sound with
  | boolean other => exact absurd (typed.symm.trans other) (by decide)
  | integer member => exact absurd member (not_integer_of (.inr (.inr typed)))
  | date other => exact absurd (typed.symm.trans other) (by decide)
  | dateTime _ parts date _ clock _ zoned => exact ⟨_, _, _, _, _, _, parts, date, clock, zoned⟩

theorem malformed_comes_back (malformed : l.IsMalformed) : l.toValue = .text l.lexical ∨ l.IsMisread := by
  obtain ⟨checked, unsound⟩ := malformed
  rw [toValue_eq_text_iff]
  simp only [checkedTypes, List.mem_cons] at checked
  rcases checked with typed | typed | typed | typed
  · exact .inr (.boolean typed fun b spelled => unsound (.boolean typed spelled))
  · rw [value?_dateTime typed, Option.map_eq_none_iff]
    cases read : Calendar.Moment.ofIso? (zuluAsOffset l.lexical) with
    | none => exact .inl rfl
    | some m =>
      refine .inr (.dateTime typed read ?_)
      rintro ⟨ds, ts, zs, parts, ten, ⟨day, date⟩, ⟨time, clock⟩, zone, zoned⟩
      obtain ⟨day_valid, time_valid⟩ := valid_of_moment_read read parts date ten clock zoned
      exact unsound (.dateTime typed parts date day_valid clock time_valid zoned)
  · rw [value?_date typed, Option.map_eq_none_iff]
    cases read : Calendar.Date.ofIso? l.lexical with
    | none => exact .inl rfl
    | some d =>
      refine .inr (.date typed read ?_)
      rintro ⟨ten, day, spelled⟩
      have valid := valid_of_ofIso? read spelled ten
      exact unsound (.date typed (List.append_nil _).symm spelled valid .none)
  · rw [value?_integer typed, Option.map_eq_none_iff]
    cases read : Number.ofText? l.lexical with
    | none => exact .inl rfl
    | some n =>
      refine .inr (.integer typed read ?_)
      by_contra other
      obtain ⟨usual, within⟩ := not_or.1 other
      have spelled := integerText_of_ofText? read fun c member unusual => usual ⟨c, member, unusual⟩
      exact unsound (.integer typed spelled (not_not.1 within))

theorem IsMisread.isMalformed (misread : l.IsMisread) : l.IsMalformed := by
  cases misread with
  | boolean typed other =>
    refine ⟨typed ▸ by decide, fun sound => ?_⟩
    obtain ⟨b, spelled⟩ := sound.of_boolean typed
    exact other b spelled
  | integer typed read other =>
    refine ⟨by simp [checkedTypes, typed], fun sound => ?_⟩
    obtain ⟨n, spelled, within⟩ := sound.of_integer typed
    have usual := usual_of_core spelled
    rcases other with ⟨c, member, unusual⟩ | beyond
    · exact usual c member unusual
    · exact beyond ((integerText_of_ofText? read usual).unique spelled ▸ within)
  | date typed read other =>
    refine ⟨typed ▸ by decide, fun sound => ?_⟩
    obtain ⟨ds, zs, day, zone, parts, date, zoned⟩ := sound.of_date typed
    obtain ⟨alone, ten⟩ := ten_of_ofIso? read parts date zoned
    exact other ⟨alone ▸ ten, day, alone ▸ date⟩
  | dateTime typed read other =>
    refine ⟨typed ▸ by decide, fun sound => ?_⟩
    obtain ⟨ds, ts, zs, day, time, zone, parts, date, clock, zoned⟩ := sound.of_dateTime typed
    have ten := ten_of_moment_read read parts date clock zoned
    exact other ⟨ds, ts, zs, parts, ten, ⟨day, date⟩, ⟨time, clock⟩, zone, zoned⟩

theorem IsMisread.toValue_ne (misread : l.IsMisread) : l.toValue ≠ .text l.lexical := by
  rw [Ne, toValue_eq_text_iff]
  cases misread with
  | boolean typed other => simp [value?_boolean typed]
  | integer typed read other => simp [value?_integer typed, read]
  | date typed read other => simp [value?_date typed, read]
  | dateTime typed read other => simp [value?_dateTime typed, read]

/-- Every literal has a value. A malformed one comes back as its own text unless it is misread, and what is
misread is malformed and does not come back. -/
theorem reading_settles (l : Literal) :
    (∃ v, (Term.literal l).toValue = .ok v) ∧
      (l.IsMalformed → (Term.literal l).toValue = .ok (.text l.lexical) ∨ l.IsMisread) ∧
      (l.IsMisread → l.IsMalformed ∧ (Term.literal l).toValue ≠ .ok (.text l.lexical)) := by
  refine ⟨⟨l.toValue, rfl⟩, fun malformed => ?_, fun misread => ⟨misread.isMalformed, ?_⟩⟩
  · exact (malformed_comes_back malformed).imp_left (congrArg Except.ok)
  · exact fun same => misread.toValue_ne (Except.ok.inj same)

def yes : Literal := { lexical := "yes", datatype := xsdBoolean }

def threeHundred : Literal := { lexical := "300", datatype := xsd.name "byte" }

def someMonday : Literal := { lexical := "2024-W01", datatype := xsdDate }

def threeAndNothing : Literal := { lexical := "3.0", datatype := xsdInteger }

theorem readings_of_malformed :
    (yes.IsMalformed ∧ (Term.literal yes).toValue = .ok (.bool false)) ∧
      (threeHundred.IsMalformed ∧ (Term.literal threeHundred).toValue = .ok (.int 300)) ∧
      (someMonday.IsMalformed ∧
        (Term.literal someMonday).toValue = .ok (.date ⟨2024, 1, 1, by decide⟩)) ∧
      threeAndNothing.IsMalformed ∧ (Term.literal threeAndNothing).toValue = .ok (.text "3.0") := by
  have unspelled : ∀ b, ¬ BooleanText (core yes.lexical) b := by
    intro b spelled
    have letters : core yes.lexical = ['y', 'e', 's'] := by decide +kernel
    rw [letters] at spelled
    cases spelled
  have beyond : ¬ InRange threeHundred.datatype 300 := by decide +kernel
  have short : ¬ IsPlainDate (core someMonday.lexical) := by
    rintro ⟨ten, -⟩
    exact absurd ten (by decide +kernel)
  have unspelled' : ∀ n, ¬ IntegerText (core threeAndNothing.lexical) n := by
    intro n spelled
    have letters : core threeAndNothing.lexical = ['3', '.', '0'] := by decide +kernel
    rw [letters] at spelled
    cases spelled with
    | plain digits => exact absurd (digits.all '.' (by simp)) (by decide)
  have read_integer : Number.ofText? threeHundred.lexical = some 300 := by decide +kernel
  have read_date : Calendar.Date.ofIso? someMonday.lexical = some ⟨2024, 1, 1, by decide⟩ := by
    decide +kernel
  have unread : Number.ofText? threeAndNothing.lexical = none := by decide +kernel
  have unsound : threeAndNothing.IsMalformed := by
    refine ⟨by decide, fun sound => ?_⟩
    obtain ⟨n, spelled, -⟩ := sound.of_integer (by decide)
    exact unspelled' n spelled
  obtain ⟨-, -, misread_yes⟩ := reading_settles yes
  obtain ⟨-, -, misread_hundred⟩ := reading_settles threeHundred
  obtain ⟨-, -, misread_monday⟩ := reading_settles someMonday
  obtain ⟨-, comes_back, -⟩ := reading_settles threeAndNothing
  refine ⟨⟨(misread_yes (.boolean rfl unspelled)).1, ?_⟩,
    ⟨(misread_hundred (.integer (by decide) read_integer (.inr beyond))).1, ?_⟩,
    ⟨(misread_monday (.date rfl read_date short)).1, ?_⟩, unsound, ?_⟩
  · rw [Term.toValue, toValue, value?_boolean rfl]
    exact congrArg (fun b => Except.ok (Value.bool b)) (by decide +kernel)
  · rw [Term.toValue, toValue, value?_integer (by decide), read_integer]
    rfl
  · rw [Term.toValue, toValue, value?_date rfl, read_date]
    rfl
  · refine (comes_back unsound).resolve_right fun misread => ?_
    refine misread.toValue_ne ?_
    rw [toValue, value?_integer (by decide), unread]
    rfl

end Literal

end QuadPull
