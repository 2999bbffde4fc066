import Mathlib.Data.List.Basic
import QuadPull.Calendar.Reader
import QuadPull.Proofs.Numerals
/-!
An offset of less than a second is read as zero, so a moment is read back unless it has such an offset,
and no moment that is read has one.
-/

namespace QuadPull

namespace Text

theorem numbers_plain {cs : List Char} (ascii : ∀ c ∈ cs, c.toNat < 128) :
    numbers cs = cs.map Char.toNat := by
  induction cs with
  | nil => rfl
  | cons c rest ih =>
    have low := ascii c List.mem_cons_self
    have notMark : c ≠ ownMark := by
      rintro rfl
      rw [toNat_ownMark] at low
      exact absurd low (by decide)
    have itself : numberOf c = c.toNat := by
      have shift : halfShift = 0x100000 := rfl
      rw [numberOf, if_neg]
      simp [isHalf]
      omega
    have others := ih fun d member => ascii d (List.mem_cons_of_mem _ member)
    rw [numbers_cons notMark, itself, others, List.map_cons]

theorem padded_eq_cons (width n : Nat) : ∃ c rest, padded width n = c :: rest ∧ isDigit c = true := by
  cases filled : padded width n with
  | nil => exact absurd (List.append_eq_nil_iff.1 filled).2 (digits_ne_nil n)
  | cons c rest => exact ⟨c, rest, rfl, isDigit_of_mem_padded (filled ▸ List.mem_cons_self)⟩

end Text

namespace Calendar

theorem not_isHalf_of_ascii {n : Nat} (low : n < 128) : Text.isHalf n = false := by
  simp [Text.isHalf]
  omega

theorem cells_plain {cs : List Char} (ascii : ∀ c ∈ cs, c.toNat < 128) : cells cs = cs := by
  induction cs with
  | nil => rfl
  | cons c rest ih =>
    have size : c.utf8Size = 1 :=
      Char.utf8Size_eq_one_iff.2 (UInt32.le_iff_toNat_le.2 (Nat.le_of_lt_succ (ascii c List.mem_cons_self)))
    have others := ih fun d member => ascii d (List.mem_cons_of_mem _ member)
    simpa [cells, size] using others

theorem cells?_plain {cs : List Char} (ascii : ∀ c ∈ cs, c.toNat < 128) :
    cells? (cs.map Char.toNat) = some cs := by
  have whole : (cs.map Char.toNat).any Text.isHalf = false := by
    rw [List.any_eq_false]
    intro n member
    obtain ⟨c, among, rfl⟩ := List.mem_map.1 member
    exact ne_true_of_eq_false (not_isHalf_of_ascii (ascii c among))
  have letters : (cs.map Char.toNat).map Char.ofNat = cs := by simp [Function.comp_def]
  rw [cells?, whole, letters, cells_plain ascii]
  rfl

theorem number?_eq_some {width n : Nat} {cs rest : List Char} :
    number? width cs = some (n, rest) ↔ ∃ ds, cs = ds ++ rest ∧ Text.Digits width ds n := by
  constructor
  · intro read
    simp only [number?] at read
    split at read
    · rename_i whole
      obtain ⟨rfl, rfl⟩ := Prod.mk.inj (Option.some.inj read)
      exact ⟨cs.take width, (List.take_append_drop width cs).symm, whole.1, List.all_eq_true.1 whole.2, rfl⟩
    · cases read
  · rintro ⟨ds, rfl, rfl, all, rfl⟩
    have taken : (ds ++ rest).take ds.length = ds := List.take_left
    have left : (ds ++ rest).drop ds.length = rest := List.drop_left
    rw [number?, taken, left, if_pos ⟨rfl, List.all_eq_true.2 all⟩]

theorem number?_padded (width : Nat) {n : Nat} (positive : 0 < width) (small : n < Number.tenTo width)
    (rest : List Char) : number? width (Text.padded width n ++ rest) = some (n, rest) :=
  number?_eq_some.2 ⟨_, rfl, Text.digits_padded width positive small⟩

namespace Date

variable (d : Date)

theorem parts_lt : d.year < 10000 ∧ d.month < 100 ∧ d.day < 100 := by
  obtain ⟨-, year, -, month, -, day⟩ := d.isDay
  have most : daysInMonth d.year d.month ≤ 31 := by
    unfold daysInMonth
    split
    · split <;> decide
    all_goals decide
  omega

theorem of?_self : of? d.year d.month d.day = some d := dif_pos d.isDay

theorem length_iso : d.iso.length = 10 := by
  obtain ⟨year, month, day⟩ := d.parts_lt
  simp [iso, Text.length_padded 4 (by decide) year, Text.length_padded 2 (by decide) month,
    Text.length_padded 2 (by decide) day]

end Date

theorem dateAt?_digits {year month day : Nat} {ys ms ds : List Char} (years : Text.Digits 4 ys year)
    (months : Text.Digits 2 ms month) (days : Text.Digits 2 ds day) (more : List Char) (length : Nat) :
    dateAt? (ys ++ '-' :: (ms ++ '-' :: (ds ++ more))) length = Date.of? year month day := by
  have read_month : number? 2 (ms ++ '-' :: (ds ++ more)) = some (month, '-' :: (ds ++ more)) :=
    number?_eq_some.2 ⟨ms, rfl, months⟩
  obtain ⟨c, c', rfl⟩ := List.length_eq_two.1 months.length
  have notWeek : c ≠ 'W' := by
    rintro rfl
    exact absurd (months.all 'W' List.mem_cons_self) (by decide)
  simp only [List.cons_append, List.nil_append] at read_month
  simp only [dateAt?]
  rw [number?_eq_some.2 ⟨ys, rfl, years⟩]
  simp [notWeek, read_month, number?_eq_some.2 ⟨ds, rfl, days⟩, hyphen?]

theorem dateAt?_iso (d : Date) (more : List Char) (length : Nat) :
    dateAt? (d.iso ++ more) length = some d := by
  obtain ⟨year, month, day⟩ := d.parts_lt
  have read := dateAt?_digits (Text.digits_padded 4 (by decide) year) (Text.digits_padded 2 (by decide) month)
    (Text.digits_padded 2 (by decide) day) more length
  rw [d.of?_self] at read
  simpa [Date.iso] using read

theorem step?_colon {rest : List Char} (goesOn : rest ≠ []) (after : Char) :
    step? after true (':' :: rest) = some (.part rest) := by
  cases rest with
  | nil => exact absurd rfl goesOn
  | cons c rest => rfl

theorem padded_append_ne_nil (width n : Nat) (rest : List Char) : Text.padded width n ++ rest ≠ [] := by
  obtain ⟨c, others, text, -⟩ := Text.padded_eq_cons width n
  simp [text]

theorem fraction?_padded {microsecond : Nat} (small : microsecond < 1000000) (after : Char) (clock : Clock) :
    fraction? after (Text.padded 6 microsecond) clock =
      some { clock with microsecond, leftover := after != '\x00' } := by
  have read := number?_padded 6 (by decide) small []
  rw [List.append_nil] at read
  simp [fraction?, Text.length_padded 6 (by decide) small, read, following, Number.tenTo]

theorem clock?_short {hour minute : Nat} (small : hour < 100 ∧ minute < 100) (after : Char) :
    clock? after (Text.padded 2 hour ++ ':' :: Text.padded 2 minute) =
      some { hour, minute, leftover := after != '\x00' } := by
  have read_hour := number?_padded 2 (by decide) small.1 (':' :: Text.padded 2 minute)
  have read_minute := number?_padded 2 (by decide) small.2 []
  have to_minute := padded_append_ne_nil 2 minute []
  rw [List.append_nil] at read_minute to_minute
  simp [clock?, read_hour, following, step?_colon to_minute, read_minute]
  simp [step?]

theorem clock?_full {hour minute second microsecond : Nat}
    (small : hour < 100 ∧ minute < 100 ∧ second < 100 ∧ microsecond < 1000000) (after : Char) :
    clock? after (Text.padded 2 hour ++ ':' :: (Text.padded 2 minute ++ ':' :: (Text.padded 2 second ++
      Moment.isoFraction microsecond))) =
      some { hour, minute, second, microsecond, leftover := after != '\x00' } := by
  obtain ⟨hour_small, minute_small, second_small, micro_small⟩ := small
  have read_hour := number?_padded 2 (by decide) hour_small
    (':' :: (Text.padded 2 minute ++ ':' :: (Text.padded 2 second ++ Moment.isoFraction microsecond)))
  have read_minute := number?_padded 2 (by decide) minute_small
    (':' :: (Text.padded 2 second ++ Moment.isoFraction microsecond))
  have read_second := number?_padded 2 (by decide) second_small (Moment.isoFraction microsecond)
  have to_second := padded_append_ne_nil 2 second (Moment.isoFraction microsecond)
  have to_minute := padded_append_ne_nil 2 minute
    (':' :: (Text.padded 2 second ++ Moment.isoFraction microsecond))
  by_cases none : microsecond = 0
  · simp [clock?, read_hour, following, step?_colon to_minute, read_minute, step?_colon to_second,
      read_second]
    simp [Moment.isoFraction, none, step?]
  · have to_fraction : step? after true ('.' :: Text.padded 6 microsecond) =
        some (.fraction (Text.padded 6 microsecond)) := by
      obtain ⟨c, rest, text, -⟩ := Text.padded_eq_cons 6 microsecond
      simp [text, step?]
    simp [clock?, read_hour, following, step?_colon to_minute, read_minute, step?_colon to_second,
      read_second]
    simp [Moment.isoFraction, none, to_fraction, fraction?_padded micro_small]

theorem Clock.offset_split {seconds micro : Nat} {o : Int} (parts : o.natAbs = 1000000 * seconds + micro)
    (kept : o = 0 ∨ seconds ≠ 0) (leftover : Bool) :
    Clock.offset ⟨seconds / 3600, seconds / 60 % 60, seconds % 60, micro, leftover⟩ (decide (o < 0)) = o := by
  have whole : 3600 * (seconds / 3600) + 60 * (seconds / 60 % 60) + seconds % 60 = seconds := by omega
  simp only [Clock.offset, whole]
  by_cases none : seconds = 0
  · rw [if_pos none]
    exact (kept.resolve_right (not_not_intro none)).symm
  · rw [if_neg none]
    by_cases negative : o < 0 <;> simp [negative] <;> omega

/-- An offset is read back after its mark when it is zero or at least a second. -/
theorem offset?_iso {o : Int} (bounded : o.natAbs < dayLength) (kept : o = 0 ∨ 1000000 ≤ o.natAbs) :
    offset? (if o < 0 then '-' else '+') (Moment.isoOffset o).tail = some o := by
  have day : dayLength = 86400000000 := rfl
  generalize seconds_def : o.natAbs / 1000000 = seconds
  generalize micro_def : o.natAbs % 1000000 = micro
  have parts : o.natAbs = 1000000 * seconds + micro := by omega
  have whole : o = 0 ∨ seconds ≠ 0 := kept.imp_right fun long => by omega
  have small : seconds / 3600 < 100 ∧ seconds / 60 % 60 < 100 ∧ seconds % 60 < 100 ∧ micro < 1000000 := by
    omega
  have sign : ((if o < 0 then '-' else '+') == 'Z') = false := by split <;> rfl
  have negative : ((if o < 0 then '-' else '+') == '-') = decide (o < 0) := by split <;> simp [*]
  have read : ∀ cs,
      clock? '\x00' cs = some ⟨seconds / 3600, seconds / 60 % 60, seconds % 60, micro, false⟩ →
      offset? (if o < 0 then '-' else '+') cs = some o := by
    intro cs clock
    unfold offset?
    rw [if_neg (ne_true_of_eq_false sign), negative]
    refine Option.bind_eq_some_iff.2 ⟨_, clock, Option.bind_eq_some_iff.2 ⟨(), ?_, ?_⟩⟩
    · exact (Option.guard_eq_some' _).2 rfl
    exact congrArg some (Clock.offset_split parts whole false)
  simp only [Moment.isoOffset, seconds_def, micro_def, List.cons_append, List.tail_cons, List.append_assoc]
  refine read _ ?_
  by_cases minutes : seconds % 60 = 0 ∧ micro = 0
  · obtain ⟨no_second, no_micro⟩ := minutes
    rw [if_pos ⟨no_second, no_micro⟩, no_second, no_micro]
    simpa [Moment.isoFraction] using clock?_short ⟨small.1, small.2.1⟩ '\x00'
  · rw [if_neg minutes]
    exact clock?_full small '\x00'

def WrittenIn (marks cs : List Char) : Prop := ∀ c ∈ cs, Text.isDigit c = true ∨ c ∈ marks

namespace WrittenIn

variable {marks more first second cs : List Char}

theorem padded (width n : Nat) : WrittenIn marks (Text.padded width n) :=
  fun _ member => .inl (Text.isDigit_of_mem_padded member)

theorem append (left : WrittenIn marks first) (right : WrittenIn marks second) :
    WrittenIn marks (first ++ second) :=
  fun c member => (List.mem_append.1 member).elim (left c) (right c)

theorem cons {mark : Char} (isMark : mark ∈ marks) (rest : WrittenIn marks cs) :
    WrittenIn marks (mark :: cs) := by
  intro c member
  rcases List.mem_cons.1 member with rfl | there
  · exact .inr isMark
  · exact rest c there

theorem nil : WrittenIn marks [] := fun _ member => nomatch member

theorem mono (subset : marks ⊆ more) (written : WrittenIn marks cs) : WrittenIn more cs :=
  fun c member => (written c member).imp_right fun isMark => subset isMark

theorem ascii (low : (marks.all fun c => c.toNat < 128) = true) (written : WrittenIn marks cs) :
    ∀ c ∈ cs, c.toNat < 128 := by
  intro c member
  rcases written c member with digit | isMark
  · have bounds := Text.bounds_of_isDigit digit
    omega
  · exact of_decide_eq_true (List.all_eq_true.1 low c isMark)

theorem isoFraction (isMark : '.' ∈ marks) (microsecond : Nat) :
    WrittenIn marks (Moment.isoFraction microsecond) := by
  unfold Moment.isoFraction
  split
  · exact .nil
  · exact .cons isMark (.padded _ _)

theorem isoOffset (o : Int) : WrittenIn ['-', '+', ':', '.'] (Moment.isoOffset o) := by
  have seconds : ∀ (p : Prop) [Decidable p] (n : Nat),
      WrittenIn ['-', '+', ':', '.'] (if p then [] else ':' :: Text.padded 2 n) := by
    intro p _ n
    split
    · exact .nil
    · exact .cons (by decide) (.padded _ _)
  unfold Moment.isoOffset
  refine .append (.append (.append (.cons ?_ (.padded _ _)) (.cons (by decide) (.padded _ _))) (seconds _ _))
    (isoFraction (by decide) _)
  split <;> decide

theorem iso_date (d : Date) : WrittenIn ['-'] d.iso :=
  .append (.append (.padded _ _) (.cons (by decide) (.padded _ _))) (.cons (by decide) (.padded _ _))

end WrittenIn

namespace Moment

variable (m : Moment)

def clockText : List Char :=
  Text.padded 2 m.hour ++ ':' :: (Text.padded 2 m.minute ++ ':' :: (Text.padded 2 m.second ++
    isoFraction m.microsecond))

def offsetText : List Char := (m.offset.map isoOffset).getD []

theorem iso_eq : m.iso = m.date.iso ++ 'T' :: (m.clockText ++ m.offsetText) := by
  simp [iso, clockText, offsetText]

theorem written_clockText : WrittenIn [':', '.'] m.clockText :=
  .append (.padded _ _) (.cons (by decide) (.append (.padded _ _) (.cons (by decide)
    (.append (.padded _ _) (WrittenIn.isoFraction (by decide) _)))))

theorem written_iso : WrittenIn ['-', '+', ':', '.', 'T'] m.iso := by
  rw [iso_eq]
  refine .append (.mono (by decide) (.iso_date _)) (.cons (by decide) (.append ?_ ?_))
  · exact .mono (by decide) m.written_clockText
  unfold offsetText
  cases m.offset with
  | none => exact .nil
  | some o => exact .mono (by decide) (.isoOffset o)

/-- An offset that is zero or at least a second. -/
def HasPlainOffset : Prop := ∀ o ∈ m.offset, o = 0 ∨ 1000000 ≤ o.natAbs

theorem of?_self : of? m.date m.hour m.minute m.second m.microsecond m.offset = some m :=
  dif_pos ⟨m.isTime, m.isOffset⟩

theorem clock?_clockText (after : Char) :
    clock? after m.clockText = some ⟨m.hour, m.minute, m.second, m.microsecond, after != '\x00'⟩ := by
  obtain ⟨hour, minute, second, microsecond⟩ := m.isTime
  exact clock?_full ⟨by omega, by omega, by omega, microsecond⟩ after

variable {m}

theorem unmarked_clockText : ∀ c ∈ m.clockText, (!isOffsetMark c) = true := by
  intro c member
  have other : c ≠ '+' ∧ c ≠ '-' ∧ c ≠ 'Z' := by
    rcases m.written_clockText c member with digit | isMark
    · refine ⟨?_, ?_, ?_⟩ <;> rintro rfl <;> exact absurd digit (by decide)
    · simp only [List.mem_cons, List.not_mem_nil, or_false] at isMark
      rcases isMark with rfl | rfl <;> decide
  simp [isOffsetMark, other]

theorem offsetText_some {o : Int} (offset : m.offset = some o) :
    m.offsetText = (if o < 0 then '-' else '+') :: (isoOffset o).tail := by
  simp [offsetText, offset, isoOffset]

theorem cut_iso : (m.clockText ++ m.offsetText).takeWhile (!isOffsetMark ·) = m.clockText ∧
    (m.clockText ++ m.offsetText).dropWhile (!isOffsetMark ·) = m.offsetText := by
  rw [List.takeWhile_append_of_pos unmarked_clockText, List.dropWhile_append_of_pos unmarked_clockText]
  cases offset : m.offset with
  | none => simp [offsetText, offset]
  | some o =>
    have isMark : isOffsetMark (if o < 0 then '-' else '+') = true := by split <;> rfl
    simp [offsetText_some offset, isMark]

theorem timeOf?_iso (kept : m.HasPlainOffset) : timeOf? m.date (m.clockText ++ m.offsetText) = some m := by
  have itself := m.of?_self
  obtain ⟨taken, left⟩ := m.cut_iso
  unfold timeOf?
  rw [taken, left]
  cases offset : m.offset with
  | none =>
    have text : m.offsetText = [] := by simp [offsetText, offset]
    rw [offset] at itself
    rw [text]
    exact Option.bind_eq_some_iff.2 ⟨_, m.clock?_clockText _, Option.bind_eq_some_iff.2
      ⟨(), (Option.guard_eq_some' _).2 rfl, itself⟩⟩
  | some o =>
    have read := offset?_iso (m.isOffset o offset) (kept o offset)
    rw [offset] at itself
    rw [offsetText_some offset]
    exact Option.bind_eq_some_iff.2 ⟨_, m.clock?_clockText _, Option.bind_eq_some_iff.2 ⟨o, read, itself⟩⟩

end Moment

theorem separated_plain {ns : List Nat} (ascii : ∀ n ∈ ns, n < 128) : separated ns = ns := by
  have none : (separatorPlaces.find? fun place => ns[place]?.any Text.isHalf) = none := by
    rw [List.find?_eq_none]
    intro place _
    cases read : ns[place]? with
    | none => simp
    | some n => simp [not_isHalf_of_ascii (ascii n (List.mem_of_getElem? read))]
  rw [separated, none]

theorem cellAt_append (first rest : List Char) (i : Nat) :
    cellAt (first ++ rest) (first.length + i) = cellAt rest i := by
  simp [cellAt, List.getD_eq_getElem?_getD, List.getElem?_append_right]

theorem datePlaces_digits {year month day : Nat} {ys ms ds : List Char} (years : Text.Digits 4 ys year)
    (months : Text.Digits 2 ms month) (days : Text.Digits 2 ds day) (more : List Char) :
    datePlaces (ys ++ '-' :: (ms ++ '-' :: (ds ++ more))) = 10 := by
  have after_year := cellAt_append ys ('-' :: (ms ++ '-' :: (ds ++ more)))
  rw [years.length] at after_year
  have hyphen := after_year 0
  have month := after_year 1
  have length : (ys ++ '-' :: (ms ++ '-' :: (ds ++ more))).length ≠ 7 := by
    simp [years.length, months.length, days.length]
    omega
  obtain ⟨c, c', rfl⟩ := List.length_eq_two.1 months.length
  have notWeek : c ≠ 'W' := by
    rintro rfl
    exact absurd (months.all 'W' List.mem_cons_self) (by decide)
  change cellAt _ 4 = '-' at hyphen
  change cellAt _ 5 = c at month
  rw [datePlaces, if_neg length, hyphen, if_pos (beq_self_eq_true _), month, if_neg (by simpa using notWeek)]

theorem datePlaces_iso (d : Date) (more : List Char) : datePlaces (d.iso ++ more) = 10 := by
  obtain ⟨year, month, day⟩ := d.parts_lt
  have places := datePlaces_digits (Text.digits_padded 4 (by decide) year)
    (Text.digits_padded 2 (by decide) month) (Text.digits_padded 2 (by decide) day) more
  simpa [Date.iso] using places

theorem Date.ofIso?_iso (d : Date) : Date.ofIso? (String.ofList d.iso) = some d := by
  have ascii := WrittenIn.ascii rfl (.iso_date d)
  have read := dateAt?_iso d [] 10
  rw [List.append_nil] at read
  simp [Date.ofIso?, Text.numbers_plain ascii, cells?_plain ascii, Date.length_iso, read]

theorem Moment.ofIso?_iso {m : Moment} (kept : m.HasPlainOffset) :
    Moment.ofIso? (String.ofList m.iso) = some m := by
  have ascii := WrittenIn.ascii rfl m.written_iso
  have low : ∀ n ∈ m.iso.map Char.toNat, n < 128 := by
    intro n member
    obtain ⟨c, among, rfl⟩ := List.mem_map.1 member
    exact ascii c among
  have long : 7 ≤ (m.iso.map Char.toNat).length := by
    simp [Moment.iso_eq, Date.length_iso]
    omega
  -- Its characters are all of ASCII, so that each is its own number and takes one place.
  have numbers : Text.numbers (String.ofList m.iso).toList = m.iso.map Char.toNat := by
    rw [String.toList_ofList, Text.numbers_plain ascii]
  have celled : cells? (separated (m.iso.map Char.toNat)) = some m.iso := by
    rw [separated_plain low, cells?_plain ascii]
  have places : datePlaces m.iso = 10 := m.iso_eq ▸ datePlaces_iso m.date _
  have date : dateAt? m.iso 10 = some m.date := m.iso_eq ▸ dateAt?_iso m.date _ 10
  have rest : m.iso.drop 10 = 'T' :: (m.clockText ++ m.offsetText) := by
    rw [Moment.iso_eq, List.drop_left' m.date.length_iso]
  unfold Moment.ofIso?
  rw [numbers]
  have passed := (Option.guard_eq_some' ()).2 long
  refine Option.bind_eq_some_iff.2 ⟨(), passed, Option.bind_eq_some_iff.2 ⟨_, celled, ?_⟩⟩
  rw [places]
  refine Option.bind_eq_some_iff.2 ⟨_, date, ?_⟩
  rw [rest]
  exact Moment.timeOf?_iso kept

theorem Clock.offset_plain (c : Clock) (negative : Bool) :
    c.offset negative = 0 ∨ 1000000 ≤ (c.offset negative).natAbs := by
  simp only [Clock.offset]
  generalize 3600 * c.hour + 60 * c.minute + c.second = seconds
  by_cases none : seconds = 0
  · exact .inl (if_pos none)
  · right
    rw [if_neg none]
    split <;> omega

theorem offset?_plain {mark : Char} {cs : List Char} {o : Int} (read : offset? mark cs = some o) :
    o = 0 ∨ 1000000 ≤ o.natAbs := by
  unfold offset? at read
  by_cases zulu : (mark == 'Z') = true
  · rw [if_pos zulu] at read
    obtain ⟨_, -, same⟩ := Option.bind_eq_some_iff.1 read
    exact .inl (Option.some.inj same).symm
  · rw [if_neg zulu] at read
    obtain ⟨c, -, guarded⟩ := Option.bind_eq_some_iff.1 read
    obtain ⟨_, -, same⟩ := Option.bind_eq_some_iff.1 guarded
    exact Option.some.inj same ▸ c.offset_plain _

namespace Moment

variable {date : Date} {m : Moment}

theorem hasPlainOffset_of_of? {hour minute second microsecond : Nat} {offset : Option Int}
    (plain : ∀ o ∈ offset, o = 0 ∨ 1000000 ≤ o.natAbs)
    (made : Moment.of? date hour minute second microsecond offset = some m) : m.HasPlainOffset := by
  unfold Moment.of? at made
  split at made
  · rw [← Option.some.inj made]
    exact plain
  · cases made

theorem hasPlainOffset_of_timeOf? {cs : List Char} (read : timeOf? date cs = some m) : m.HasPlainOffset := by
  unfold timeOf? at read
  split at read
  · obtain ⟨c, -, guarded⟩ := Option.bind_eq_some_iff.1 read
    obtain ⟨_, -, made⟩ := Option.bind_eq_some_iff.1 guarded
    exact hasPlainOffset_of_of? (by simp) made
  · obtain ⟨c, -, marked⟩ := Option.bind_eq_some_iff.1 read
    obtain ⟨o, offset, made⟩ := Option.bind_eq_some_iff.1 marked
    refine hasPlainOffset_of_of? (fun p member => ?_) made
    exact Option.some.inj member ▸ offset?_plain offset

theorem hasPlainOffset_of_ofIso? {s : String} (read : Moment.ofIso? s = some m) : m.HasPlainOffset := by
  unfold Moment.ofIso? at read
  obtain ⟨_, -, guarded⟩ := Option.bind_eq_some_iff.1 read
  obtain ⟨cs, -, celled⟩ := Option.bind_eq_some_iff.1 guarded
  obtain ⟨date, -, dated⟩ := Option.bind_eq_some_iff.1 celled
  split at dated
  · exact hasPlainOffset_of_of? (by simp) dated
  · exact hasPlainOffset_of_timeOf? dated

end Moment

end Calendar

end QuadPull
