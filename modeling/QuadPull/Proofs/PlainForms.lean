import QuadPull.Proofs.IsoText
import QuadPull.Proofs.LexicalSpace
import QuadPull.Value.Conversion

namespace QuadPull.Lexical

variable {cs ds zs ts before more : List Char} {s : String} {day : Day} {time : Time} {zone : Option Int}

def IsPlainDate (cs : List Char) : Prop := cs.length = 10 ∧ ∃ day, DateText cs day

def IsPlainMoment (cs : List Char) : Prop :=
  ∃ ds ts zs, cs = ds ++ 'T' :: (ts ++ zs) ∧ ds.length = 10 ∧ (∃ day, DateText ds day) ∧
    (∃ time, TimeText ts time) ∧ ∃ zone, ZoneText zs zone

theorem digit_of_number? {width : Nat} {c : Char} {result : Nat × List Char}
    (read : Calendar.number? (width + 1) (c :: cs) = some result) : Text.isDigit c = true := by
  obtain ⟨ds, split, digits⟩ := Calendar.number?_eq_some.1 read
  cases ds with
  | nil => exact absurd digits.length (Nat.succ_ne_zero width).symm
  | cons d ds =>
    obtain ⟨rfl, -⟩ := List.cons.inj split
    exact digits.all c List.mem_cons_self

theorem digit_of_dateAt? {length : Nat} {c : Char} {date : Calendar.Date}
    (read : Calendar.dateAt? (c :: cs) length = some date) : Text.isDigit c = true := by
  obtain ⟨_, number, -⟩ := Option.bind_eq_some_iff.1 read
  exact digit_of_number? number

theorem nothing_before {length : Nat} {date : Calendar.Date}
    (read : Calendar.dateAt? (before ++ cs) length = some date)
    (spaces : ∀ c ∈ before, isSpace c = true) : before = [] := by
  cases before with
  | nil => rfl
  | cons c before =>
    have digit := digit_of_dateAt? read
    rcases isSpace_iff.1 (spaces c List.mem_cons_self) with rfl | rfl | rfl | rfl <;>
      exact absurd digit (by decide)

theorem valid_of_dateAt? {length : Nat} {date : Calendar.Date} (spelled : DateText ds day)
    (ten : ds.length = 10) (read : Calendar.dateAt? (ds ++ more) length = some date) : day.IsValid := by
  obtain ⟨year, ys, ms, ds, rfl, same, years, months, days⟩ := spelled.digits_of_ten ten
  simp only [List.append_assoc, List.cons_append] at read
  rw [Calendar.dateAt?_digits years months days] at read
  unfold Calendar.Date.of? at read
  split at read
  · rename_i isDay
    rw [Day.IsValid, same]
    exact isDay.2.2
  · cases read

theorem dateAt?_of_ofIso? {date : Calendar.Date} (ascii : IsAscii s.toList)
    (read : Calendar.Date.ofIso? s = some date) :
    (s.toList.length = 7 ∨ s.toList.length = 8 ∨ s.toList.length = 10) ∧
      Calendar.dateAt? s.toList s.toList.length = some date := by
  unfold Calendar.Date.ofIso? at read
  rw [Text.numbers_plain ascii, Calendar.cells?_plain ascii] at read
  change (if _ then _ else none) = _ at read
  split at read
  · rename_i length
    exact ⟨length, read⟩
  · cases read

theorem valid_of_ofIso? {date : Calendar.Date} (read : Calendar.Date.ofIso? s = some date)
    (spelled : DateText (core s) day) (ten : (core s).length = 10) : day.IsValid := by
  obtain ⟨-, read⟩ := dateAt?_of_ofIso? (isAscii_of_core spelled.isAscii) read
  obtain ⟨before, after, split, spaces, -⟩ := core_split s
  rw [split, List.append_assoc] at read
  obtain rfl := nothing_before read spaces
  exact valid_of_dateAt? spelled ten read

theorem ten_of_ofIso? {date : Calendar.Date} (read : Calendar.Date.ofIso? s = some date)
    (parts : core s = ds ++ zs) (spelled : DateText ds day) (zoned : ZoneText zs zone) :
    core s = ds ∧ ds.length = 10 := by
  have ascii : IsAscii (core s) := parts ▸ isAscii_append.2 ⟨spelled.isAscii, zoned.isAscii⟩
  obtain ⟨length, -⟩ := dateAt?_of_ofIso? (isAscii_of_core ascii) read
  obtain ⟨before, after, split, -, -⟩ := core_split s
  have ten := spelled.ten_le
  rw [split, parts] at length
  simp only [List.length_append] at length
  have none : zs = [] := List.length_eq_zero_iff.1 (by omega)
  exact ⟨by rw [parts, none, List.append_nil], by omega⟩

theorem zuluAsOffset_append {xs : List Char} (text : s.toList = xs ++ more)
    (other : xs.getLast? ≠ some 'Z') :
    ∃ more', (zuluAsOffset s).toList = xs ++ more' ∧ (IsAscii more → IsAscii more') := by
  rcases List.eq_nil_or_concat more with rfl | ⟨first, last, rfl⟩
  · refine ⟨[], ?_, id⟩
    unfold zuluAsOffset
    split
    · rename_i rest ends
      rw [List.append_nil] at text
      rw [text] at ends
      refine absurd ?_ other
      rw [← List.head?_reverse, ends, List.head?_cons]
    · exact text
  · rw [List.concat_eq_append] at text ⊢
    have ends : s.toList.reverse = last :: (xs ++ first).reverse := by
      rw [text, ← List.append_assoc, List.reverse_append]
      rfl
    unfold zuluAsOffset
    split
    · rename_i rest zulu
      obtain ⟨-, rfl⟩ := List.cons.inj (zulu.symm.trans ends)
      refine ⟨first ++ ['+', '0', '0', ':', '0', '0'], by simp, fun ascii => ?_⟩
      exact isAscii_append.2 ⟨(isAscii_append.1 ascii).1, by simp [IsAscii]⟩
    · exact ⟨_, text, id⟩

theorem parts_of_moment {m : Calendar.Moment} (ascii : IsAscii s.toList)
    (read : Calendar.Moment.ofIso? s = some m) :
    ∃ date, Calendar.dateAt? s.toList (Calendar.datePlaces s.toList) = some date ∧
      (s.toList.drop (Calendar.datePlaces s.toList) = [] ∨
        ∃ c rest, s.toList.drop (Calendar.datePlaces s.toList) = c :: rest ∧
          Calendar.timeOf? date rest = some m) := by
  have low : ∀ n ∈ s.toList.map Char.toNat, n < 128 := by
    intro n member
    obtain ⟨c, among, rfl⟩ := List.mem_map.1 member
    exact ascii c among
  unfold Calendar.Moment.ofIso? at read
  rw [Text.numbers_plain ascii] at read
  obtain ⟨_, -, read⟩ := Option.bind_eq_some_iff.1 read
  rw [Calendar.separated_plain low, Calendar.cells?_plain ascii] at read
  obtain ⟨_, celled, read⟩ := Option.bind_eq_some_iff.1 read
  obtain rfl := Option.some.inj celled
  obtain ⟨date, dated, read⟩ := Option.bind_eq_some_iff.1 read
  refine ⟨date, dated, ?_⟩
  split at read
  · rename_i nothing
    exact .inl nothing
  · rename_i c rest left
    have member : c ∈ s.toList := List.mem_of_mem_drop (left ▸ List.mem_cons_self)
    have size : c.utf8Size = 1 :=
      Char.utf8Size_eq_one_iff.2 (UInt32.le_iff_toNat_le.2 (Nat.le_of_lt_succ (ascii c member)))
    rw [size] at read
    exact .inr ⟨c, rest, left, read⟩

theorem parts_of_fraction? {after : Char} {clock c : Calendar.Clock}
    (read : Calendar.fraction? after cs clock = some c) :
    c.hour = clock.hour ∧ c.minute = clock.minute ∧ c.second = clock.second := by
  obtain ⟨_, -, same⟩ := Option.bind_eq_some_iff.1 read
  obtain rfl := Option.some.inj same
  exact ⟨rfl, rfl, rfl⟩

theorem parts_of_clock? {hour minute second : Nat} {hs ms ss : List Char} {after : Char} {c : Calendar.Clock}
    (hours : Text.Digits 2 hs hour) (minutes : Text.Digits 2 ms minute) (seconds : Text.Digits 2 ss second)
    (read : Calendar.clock? after (hs ++ ':' :: (ms ++ ':' :: (ss ++ more))) = some c) :
    c.hour = hour ∧ c.minute = minute ∧ c.second = second := by
  have to_minute : ms ++ ':' :: (ss ++ more) ≠ [] := by simp
  have to_second : ss ++ more ≠ [] := by
    intro none
    have none := congrArg List.length none
    rw [List.length_append, seconds.length] at none
    exact absurd none (by simp)
  unfold Calendar.clock? at read
  rw [Calendar.number?_eq_some.2 ⟨hs, rfl, hours⟩] at read
  simp only [Option.bind_eq_bind, Option.bind_some, Calendar.following, List.headD_cons,
    beq_self_eq_true, Calendar.step?_colon to_minute, Calendar.number?_eq_some.2 ⟨ms, rfl, minutes⟩,
    Calendar.step?_colon to_second, Calendar.number?_eq_some.2 ⟨ss, rfl, seconds⟩] at read
  obtain ⟨step, -, read⟩ := Option.bind_eq_some_iff.1 read
  cases step with
  | done leftover =>
    obtain rfl := Option.some.inj read
    exact ⟨rfl, rfl, rfl⟩
  | part rest => exact parts_of_fraction? read
  | fraction rest => exact parts_of_fraction? read

theorem clock_of_timeOf? {date : Calendar.Date} {m : Calendar.Moment}
    (read : Calendar.timeOf? date cs = some m) :
    ∃ after c, Calendar.clock? after (cs.takeWhile (!Calendar.isOffsetMark ·)) = some c ∧
      Calendar.IsTime c.hour c.minute c.second c.microsecond := by
  have isTime : ∀ {h mi s us : Nat} {o : Option Int}, Calendar.Moment.of? date h mi s us o = some m →
      Calendar.IsTime h mi s us := by
    intro h mi s us o made
    unfold Calendar.Moment.of? at made
    split at made
    · rename_i valid
      exact valid.1
    · cases made
  unfold Calendar.timeOf? at read
  split at read
  · obtain ⟨c, clock, read⟩ := Option.bind_eq_some_iff.1 read
    obtain ⟨_, -, made⟩ := Option.bind_eq_some_iff.1 read
    exact ⟨_, c, clock, isTime made⟩
  · obtain ⟨c, clock, read⟩ := Option.bind_eq_some_iff.1 read
    obtain ⟨_, -, made⟩ := Option.bind_eq_some_iff.1 read
    exact ⟨_, c, clock, isTime made⟩

theorem unmarked_of_digits {width n : Nat} (digits : Text.Digits width ds n) :
    ∀ c ∈ ds, (!Calendar.isOffsetMark c) = true := by
  intro c member
  have digit := digits.all c member
  have other : c ≠ '+' ∧ c ≠ '-' ∧ c ≠ 'Z' := by
    refine ⟨?_, ?_, ?_⟩ <;> rintro rfl <;> exact absurd digit (by decide)
  simp [Calendar.isOffsetMark, other]

theorem valid_of_timeOf? {hour minute second : Nat} {hs ms ss : List Char} {date : Calendar.Date}
    {m : Calendar.Moment} (hours : Text.Digits 2 hs hour) (minutes : Text.Digits 2 ms minute)
    (seconds : Text.Digits 2 ss second)
    (read : Calendar.timeOf? date (hs ++ ':' :: (ms ++ ':' :: (ss ++ more))) = some m) :
    hour < 24 ∧ minute < 60 ∧ second < 60 := by
  obtain ⟨after, c, clock, isTime⟩ := clock_of_timeOf? read
  have colon : ∀ cs, (':' :: cs).takeWhile (!Calendar.isOffsetMark ·) =
      ':' :: cs.takeWhile (!Calendar.isOffsetMark ·) := fun cs => List.takeWhile_cons_of_pos rfl
  rw [List.takeWhile_append_of_pos (unmarked_of_digits hours), colon,
    List.takeWhile_append_of_pos (unmarked_of_digits minutes), colon,
    List.takeWhile_append_of_pos (unmarked_of_digits seconds)] at clock
  obtain ⟨rfl, rfl, rfl⟩ := parts_of_clock? hours minutes seconds clock
  exact ⟨isTime.1, isTime.2.1, isTime.2.2.1⟩

theorem DateText.datePlaces (spelled : DateText ds day) (ten : ds.length = 10) (more : List Char) :
    Calendar.datePlaces (ds ++ more) = 10 := by
  obtain ⟨year, ys, ms, ds, rfl, -, years, months, days⟩ := spelled.digits_of_ten ten
  simpa using Calendar.datePlaces_digits years months days more

/-- What is read as a moment begins as the trimmed text does: a mark of no offset is at the end. -/
theorem text_of_moment_read {front rest : List Char} {m : Calendar.Moment}
    (read : Calendar.Moment.ofIso? (zuluAsOffset s) = some m) (parts : core s = front ++ rest)
    (ascii : IsAscii (core s)) (begun : front ≠ []) (last : front.getLast? ≠ some 'Z') :
    ∃ more, (zuluAsOffset s).toList = front ++ more ∧ IsAscii (zuluAsOffset s).toList := by
  obtain ⟨before, after, split, spaces, -⟩ := core_split s
  have text : s.toList = (before ++ front) ++ (rest ++ after) := by
    rw [split, parts]
    simp
  have other : (before ++ front).getLast? ≠ some 'Z' := by
    rwa [List.getLast?_append_of_ne_nil _ begun]
  obtain ⟨more, spelled, ascii_more⟩ := zuluAsOffset_append text other
  obtain ⟨ascii_front, ascii_rest⟩ := isAscii_append.1 (text ▸ isAscii_of_core ascii)
  have ascii : IsAscii (zuluAsOffset s).toList :=
    spelled ▸ isAscii_append.2 ⟨ascii_front, ascii_more ascii_rest⟩
  obtain ⟨found, dated, -⟩ := parts_of_moment ascii read
  rw [spelled, List.append_assoc] at dated
  obtain rfl := nothing_before dated spaces
  exact ⟨more, spelled, ascii⟩

theorem valid_of_moment_read {m : Calendar.Moment} (read : Calendar.Moment.ofIso? (zuluAsOffset s) = some m)
    (parts : core s = ds ++ 'T' :: (ts ++ zs)) (date : DateText ds day) (ten : ds.length = 10)
    (clock : TimeText ts time) (zoned : ZoneText zs zone) : day.IsValid ∧ time.IsValid := by
  have ascii : IsAscii (core s) := parts ▸ isAscii_of_parts date clock zoned
  cases clock with
  | @mk hour minute second hs ms ss fs fraction hours minutes seconds fractions =>
    have front : core s = (ds ++ 'T' :: (hs ++ ':' :: (ms ++ ':' :: ss))) ++ (fs ++ zs) := by
      rw [parts]
      simp
    have last : (ds ++ 'T' :: (hs ++ ':' :: (ms ++ ':' :: ss))).getLast? ≠ some 'Z' := by
      obtain ⟨a, b, rfl⟩ := List.length_eq_two.1 seconds.length
      have ends : ds ++ 'T' :: (hs ++ ':' :: (ms ++ ':' :: [a, b])) =
          (ds ++ 'T' :: (hs ++ ':' :: (ms ++ ':' :: [a]))) ++ [b] := by simp
      rw [ends, List.getLast?_concat]
      rintro ⟨⟩
      exact absurd (seconds.all 'Z' (by simp)) (by decide)
    obtain ⟨more, spelled, ascii⟩ := text_of_moment_read read front ascii (by simp) last
    rw [List.append_assoc] at spelled
    have left : (zuluAsOffset s).toList.drop 10 = 'T' :: (hs ++ ':' :: (ms ++ ':' :: (ss ++ more))) := by
      rw [spelled, List.drop_left' ten]
      simp
    obtain ⟨found, dated, timed⟩ := parts_of_moment ascii read
    rw [spelled, date.datePlaces ten, ← spelled, left] at timed
    rw [spelled] at dated
    refine ⟨valid_of_dateAt? date ten dated, .inl ?_⟩
    rcases timed with nothing | ⟨c, rest, goes_on, timed⟩
    · cases nothing
    · obtain ⟨-, rfl⟩ := List.cons.inj goes_on
      exact valid_of_timeOf? hours minutes seconds timed

theorem leftover_of_strange {n : Nat} {x : Char} {c : Calendar.Clock} (digits : Text.Digits 2 ds n)
    (strange : x = 'T' ∨ x = '-') (read : Calendar.clock? '\x00' (ds ++ x :: more) = some c) :
    c.leftover = true := by
  have not_digit : Text.isDigit x = false := by rcases strange with rfl | rfl <;> rfl
  have colon : (x == ':') = false := by rcases strange with rfl | rfl <;> rfl
  have mark : (x == '.' || x == ',') = false := by rcases strange with rfl | rfl <;> rfl
  have null : (x != '\x00') = true := by rcases strange with rfl | rfl <;> rfl
  unfold Calendar.clock? at read
  rw [Calendar.number?_eq_some.2 ⟨ds, rfl, digits⟩] at read
  simp only [Option.bind_eq_bind, Option.bind_some, Calendar.following, List.headD_cons, colon] at read
  cases more with
  | nil =>
    simp only [Calendar.step?, null, Option.bind_some] at read
    obtain rfl := Option.some.inj read
    rfl
  | cons y more =>
    simp only [Calendar.step?, Bool.false_and, Bool.false_eq_true, if_false, mark, Option.bind_some] at read
    obtain ⟨_, number, -⟩ := Option.bind_eq_some_iff.1 read
    exact absurd (digit_of_number? number) (by rw [not_digit]; decide)

theorem offset?_of_strange {n : Nat} {x : Char} (digits : Text.Digits 2 ds n)
    (strange : x = 'T' ∨ x = '-') : Calendar.offset? '-' (ds ++ x :: more) = none := by
  unfold Calendar.offset?
  rw [if_neg (by decide)]
  cases read : Calendar.clock? '\x00' (ds ++ x :: more) with
  | none => rfl
  | some c => simp [leftover_of_strange digits strange read]

theorem timeOf?_of_strange {n : Nat} {x : Char} {xs : List Char} {date : Calendar.Date}
    (unmarked : ∀ c ∈ xs, (!Calendar.isOffsetMark c) = true) (digits : Text.Digits 2 ds n)
    (strange : x = 'T' ∨ x = '-') : Calendar.timeOf? date (xs ++ '-' :: (ds ++ x :: more)) = none := by
  have cut : (xs ++ '-' :: (ds ++ x :: more)).dropWhile (!Calendar.isOffsetMark ·) =
      '-' :: (ds ++ x :: more) := by
    rw [List.dropWhile_append_of_pos unmarked]
    rfl
  unfold Calendar.timeOf?
  rw [cut]
  simp [offset?_of_strange digits strange]

/-- Behind four digits and another one, only a date without hyphens can be read. -/
theorem eight_of_dateAt? {year length : Nat} {ys : List Char} {c : Char} {date : Calendar.Date}
    (years : Text.Digits 4 ys year) (digit : Text.isDigit c = true)
    (read : Calendar.dateAt? (ys ++ c :: more) length = some date) :
    ∃ month day ms ds rest, c :: more = ms ++ (ds ++ rest) ∧ Text.Digits 2 ms month ∧
      Text.Digits 2 ds day := by
  have hyphen : ((c :: more).head? == some '-') = false := by
    rw [List.head?_cons, beq_eq_false_iff_ne]
    rintro ⟨⟩
    exact absurd digit (by decide)
  have notWeek : c ≠ 'W' := by
    rintro rfl
    exact absurd digit (by decide)
  unfold Calendar.dateAt? at read
  rw [Calendar.number?_eq_some.2 ⟨ys, rfl, years⟩] at read
  simp only [Option.bind_eq_bind, Option.bind_some, hyphen, Bool.false_eq_true, if_false] at read
  split at read
  · rename_i week
    exact absurd (List.cons.inj week).1 notWeek
  · obtain ⟨⟨month, rest⟩, month_read, read⟩ := Option.bind_eq_some_iff.1 read
    obtain ⟨ms, first, months⟩ := Calendar.number?_eq_some.1 month_read
    obtain ⟨_, same, read⟩ := Option.bind_eq_some_iff.1 read
    obtain rfl := Option.some.inj same
    obtain ⟨⟨day, _⟩, day_read, -⟩ := Option.bind_eq_some_iff.1 read
    obtain ⟨ds, rfl, days⟩ := Calendar.number?_eq_some.1 day_read
    exact ⟨month, day, ms, ds, _, first, months, days⟩

theorem digits_split {xs rest : List Char} (digits : ∀ c ∈ ds, Text.isDigit c = true)
    (same : xs ++ '-' :: more = ds ++ rest) : ∃ extra, xs = ds ++ extra ∧ rest = extra ++ '-' :: more := by
  rcases List.append_eq_append_iff.1 same with ⟨extra, split, left⟩ | ⟨extra, split, left⟩
  · cases extra with
    | nil => exact ⟨[], by simp [split], by simpa using left.symm⟩
    | cons c extra =>
      obtain ⟨rfl, -⟩ := List.cons.inj left
      exact absurd (digits '-' (by simp [split])) (by decide)
  · exact ⟨extra, split, left⟩

theorem datePlaces_of_digit {four : List Char} {c : Char} (length : four.length = 4)
    (digit : Text.isDigit c = true) (many : (four ++ c :: more).length ≠ 7) :
    Calendar.datePlaces (four ++ c :: more) = 8 := by
  have not_mark : c ≠ '-' ∧ c ≠ 'W' := by
    constructor <;> rintro rfl <;> exact absurd digit (by decide)
  have fifth := Calendar.cellAt_append four (c :: more) 0
  rw [length] at fifth
  change Calendar.cellAt (four ++ c :: more) 4 = c at fifth
  rw [Calendar.datePlaces, if_neg many]
  simp [fifth, not_mark]

/-- Behind more digits, the hyphens of a date are marks of an offset that is none. -/
theorem timeOf?_of_hyphens {month day : Nat} {extra ms rest : List Char} {x : Char} {date : Calendar.Date}
    (digits : ∀ c ∈ extra, Text.isDigit c = true) (months : Text.Digits 2 ms month)
    (days : Text.Digits 2 ds day) (goes_on : extra ++ '-' :: (ms ++ '-' :: (ds ++ 'T' :: more)) = x :: rest) :
    Calendar.timeOf? date rest = none := by
  cases extra with
  | nil =>
    obtain ⟨-, rfl⟩ := List.cons.inj goes_on
    exact timeOf?_of_strange (unmarked_of_digits months) days (.inl rfl)
  | cons e extra =>
    obtain ⟨-, rfl⟩ := List.cons.inj goes_on
    have others : Text.Digits extra.length extra (Text.ofDigits extra) :=
      ⟨rfl, fun c member => digits c (List.mem_cons_of_mem _ member), rfl⟩
    exact timeOf?_of_strange (unmarked_of_digits others) months (.inr rfl)

theorem unread_of_long_year {width year month day : Nat} {ys ms : List Char} {m : Calendar.Moment}
    (years : Text.Digits width ys year) (long : 4 < width) (months : Text.Digits 2 ms month)
    (days : Text.Digits 2 ds day) (text : s.toList = ys ++ '-' :: (ms ++ '-' :: (ds ++ 'T' :: more)))
    (ascii : IsAscii s.toList) : Calendar.Moment.ofIso? s ≠ some m := by
  intro read
  obtain ⟨date, dated, timed⟩ := parts_of_moment ascii read
  obtain ⟨four, c, tail, rfl, length⟩ : ∃ four c tail, ys = four ++ c :: tail ∧ four.length = 4 := by
    have years_length := years.length
    cases left : ys.drop 4 with
    | nil =>
      have short := List.drop_eq_nil_iff.1 left
      omega
    | cons c tail =>
      exact ⟨ys.take 4, c, tail, by rw [← left, List.take_append_drop], by rw [List.length_take]; omega⟩
  have digit : Text.isDigit c = true := years.all c (by simp)
  have first : Text.Digits 4 four (Text.ofDigits four) :=
    ⟨length, fun d member => years.all d (by simp [member]), rfl⟩
  rw [List.append_assoc, List.cons_append] at text
  have places : Calendar.datePlaces s.toList = 8 := by
    rw [text]
    refine datePlaces_of_digit length digit ?_
    simp [length, months.length, days.length]
    omega
  rw [places] at dated timed
  rw [text] at dated
  obtain ⟨_, _, ms', ds', rest, split, months', days'⟩ := eight_of_dateAt? first digit dated
  have same : (c :: tail) ++ '-' :: (ms ++ '-' :: (ds ++ 'T' :: more)) = (ms' ++ ds') ++ rest := by
    simpa using split
  obtain ⟨extra, tail_split, rfl⟩ := digits_split (List.forall_mem_append.2 ⟨months'.all, days'.all⟩) same
  have left : s.toList.drop 8 = extra ++ '-' :: (ms ++ '-' :: (ds ++ 'T' :: more)) := by
    have eight : (four ++ (ms' ++ ds')).length = 8 := by
      simp [length, months'.length, days'.length]
    rw [text, split, ← List.append_assoc ms', ← List.append_assoc four, List.drop_left' eight]
  have extra_digits : ∀ d ∈ extra, Text.isDigit d = true := by
    intro d member
    have later : d ∈ c :: tail := by simp [tail_split, member]
    exact years.all d (List.mem_append_right _ later)
  rw [left] at timed
  rcases timed with nothing | ⟨x, rest, goes_on, timed⟩
  · simp at nothing
  · rw [timeOf?_of_hyphens extra_digits months days goes_on] at timed
    cases timed

theorem ten_of_moment_read {m : Calendar.Moment} (read : Calendar.Moment.ofIso? (zuluAsOffset s) = some m)
    (parts : core s = ds ++ 'T' :: (ts ++ zs)) (date : DateText ds day) (clock : TimeText ts time)
    (zoned : ZoneText zs zone) : ds.length = 10 := by
  have ascii : IsAscii (core s) := parts ▸ isAscii_of_parts date clock zoned
  have front : core s = (ds ++ ['T']) ++ (ts ++ zs) := by
    rw [parts]
    simp
  have last : (ds ++ ['T']).getLast? ≠ some 'Z' := by
    rw [List.getLast?_concat]
    decide
  obtain ⟨more, spelled, ascii⟩ := text_of_moment_read read front ascii (by simp) last
  cases date with
  | @mk year month day ys ms ds years months days =>
    have text : (zuluAsOffset s).toList = ys ++ '-' :: (ms ++ '-' :: (ds ++ 'T' :: more)) := by
      rw [spelled]
      simp
    cases years with
    | plain digits long first =>
      have years_length := digits.length
      have months_length := months.length
      have days_length := days.length
      by_contra other
      simp only [List.length_append, List.length_cons] at other
      have longer : 4 < _ := Nat.lt_of_le_of_ne long (by omega)
      exact unread_of_long_year digits longer months days text ascii read
    | before digits =>
      obtain ⟨found, dated, -⟩ := parts_of_moment ascii read
      rw [text] at dated
      exact absurd (digit_of_dateAt? dated) (by decide)

end QuadPull.Lexical
