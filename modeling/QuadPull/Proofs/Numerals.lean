import Mathlib.Data.Option.Basic
import QuadPull.Number.Whole

namespace QuadPull

namespace Text

theorem isDigit_iff {c : Char} : isDigit c = true ↔ c.isDigit = true := by
  simp only [isDigit, Char.isDigit, Bool.and_eq_true, decide_eq_true_eq]
  exact Iff.rfl

theorem bounds_of_isDigit {c : Char} (digit : isDigit c = true) : 0x30 ≤ c.toNat ∧ c.toNat ≤ 0x39 := by
  simpa [isDigit] using digit

theorem ofDigits_eq (cs : List Char) : ofDigits cs = Nat.ofDigitChars 10 cs 0 := rfl

theorem ofDigits_digits (n : Nat) : ofDigits (digits n) = n := Nat.ofDigitChars_ten_toDigits

theorem isDigit_of_mem_digits {n : Nat} {c : Char} (member : c ∈ digits n) : isDigit c = true :=
  isDigit_iff.2 (Nat.isDigit_of_mem_toDigits (by decide) (by decide) member)

theorem length_digits_pos (n : Nat) : 0 < (digits n).length := Nat.length_toDigits_pos

theorem digits_ne_nil (n : Nat) : digits n ≠ [] := List.ne_nil_of_length_pos (length_digits_pos n)

theorem length_digits_le {n width : Nat} (positive : 0 < width) :
    (digits n).length ≤ width ↔ n < Number.tenTo width :=
  Nat.length_toDigits_le_iff (by decide) positive

theorem isDigit_of_mem_padded {width n : Nat} {c : Char} (member : c ∈ padded width n) :
    isDigit c = true := by
  rcases List.mem_append.1 member with zero | digit
  · rw [List.eq_of_mem_replicate zero]
    rfl
  · exact isDigit_of_mem_digits digit

structure Digits (width : Nat) (cs : List Char) (n : Nat) : Prop where
  length : cs.length = width
  all : ∀ c ∈ cs, isDigit c = true
  value : ofDigits cs = n

theorem Digits.unique {width width' n n' : Nat} {cs : List Char} (digits : Digits width cs n)
    (others : Digits width' cs n') : n = n' :=
  digits.value.symm.trans others.value

theorem Digits.append {width width' n m : Nat} {cs ds : List Char} (left : Digits width cs n)
    (right : Digits width' ds m) : Digits (width + width') (cs ++ ds) (n * Number.tenTo width' + m) := by
  obtain ⟨rfl, left_digits, rfl⟩ := left
  obtain ⟨rfl, right_digits, rfl⟩ := right
  refine ⟨List.length_append, fun c member => (List.mem_append.1 member).elim (left_digits c) (right_digits c),
    ?_⟩
  rw [ofDigits_eq, Nat.ofDigitChars_append, Nat.ofDigitChars_eq_ofDigitChars_zero, Nat.mul_comm]
  rfl

theorem Digits.split {width n : Nat} {cs ds : List Char} (whole : Digits width (cs ++ ds) n) :
    Digits cs.length cs (ofDigits cs) ∧ Digits ds.length ds (ofDigits ds) ∧
      n = ofDigits cs * Number.tenTo ds.length + ofDigits ds := by
  have left : Digits cs.length cs (ofDigits cs) :=
    ⟨rfl, fun c member => whole.all c (List.mem_append_left _ member), rfl⟩
  have right : Digits ds.length ds (ofDigits ds) :=
    ⟨rfl, fun c member => whole.all c (List.mem_append_right _ member), rfl⟩
  exact ⟨left, right, whole.unique (left.append right)⟩

theorem digits_self (n : Nat) : Digits (digits n).length (digits n) n :=
  ⟨rfl, fun _ member => isDigit_of_mem_digits member, ofDigits_digits n⟩

theorem digits_zeros (k : Nat) : Digits k (List.replicate k '0') 0 := by
  refine ⟨List.length_replicate, fun c member => ?_, ?_⟩
  · rw [List.eq_of_mem_replicate member]
    rfl
  · induction k with
    | zero => rfl
    | succ k ih => rwa [ofDigits_eq, List.replicate_succ, Nat.ofDigitChars_cons]

theorem ofDigits_padded (width n : Nat) : ofDigits (padded width n) = n := by
  have filled := (digits_zeros (width - (digits n).length)).append (digits_self n)
  rw [Nat.zero_mul, Nat.zero_add] at filled
  exact filled.value

theorem length_padded (width : Nat) {n : Nat} (positive : 0 < width) (small : n < Number.tenTo width) :
    (padded width n).length = width := by
  have short := (length_digits_le positive).2 small
  simp only [padded, List.length_append, List.length_replicate]
  omega

theorem digits_padded (width : Nat) {n : Nat} (positive : 0 < width) (small : n < Number.tenTo width) :
    Digits width (padded width n) n :=
  ⟨length_padded width positive small, fun _ member => isDigit_of_mem_padded member, ofDigits_padded width n⟩

/-- Digits after a number make less than the next number followed by as many zeros. -/
theorem ofDigitChars_lt {cs : List Char} (areDigits : ∀ c ∈ cs, isDigit c = true) (n : Nat) :
    Nat.ofDigitChars 10 cs n < (n + 1) * Number.tenTo cs.length := by
  induction cs generalizing n with
  | nil => simp [Nat.ofDigitChars]
  | cons c rest ih =>
    have digit : c.toNat - '0'.toNat < 10 := by
      have bounds := bounds_of_isDigit (areDigits c List.mem_cons_self)
      have zero : '0'.toNat = 0x30 := rfl
      omega
    have onward : Number.tenTo (c :: rest).length = 10 * Number.tenTo rest.length := Nat.pow_succ'
    rw [Nat.ofDigitChars_cons, onward]
    calc Nat.ofDigitChars 10 rest (10 * n + (c.toNat - '0'.toNat))
      _ < (10 * n + (c.toNat - '0'.toNat) + 1) * Number.tenTo rest.length :=
        ih (fun d member => areDigits d (List.mem_cons_of_mem _ member)) _
      _ ≤ ((n + 1) * 10) * Number.tenTo rest.length := Nat.mul_le_mul_right _ (by omega)
      _ = (n + 1) * (10 * Number.tenTo rest.length) := Nat.mul_assoc _ _ _

theorem ofDigits_lt {cs : List Char} (areDigits : ∀ c ∈ cs, isDigit c = true) :
    ofDigits cs < Number.tenTo cs.length := by
  have less := ofDigitChars_lt areDigits 0
  rwa [Nat.zero_add, Nat.one_mul] at less

theorem trimBy_of_none {p : Char → Bool} {cs : List Char} (none : ∀ c ∈ cs, p c = false) :
    trimBy p cs = cs := by
  have drops : ∀ ds : List Char, (∀ c ∈ ds, p c = false) → ds.dropWhile p = ds := by
    intro ds stay
    cases ds with
    | nil => rfl
    | cons c rest => simp [stay c List.mem_cons_self]
  rw [trimBy, drops cs none, drops cs.reverse fun c member => none c (List.mem_reverse.1 member),
    List.reverse_reverse]

end Text

namespace Number

theorem tenTo_le {m n : Nat} (le : m ≤ n) : tenTo m ≤ tenTo n := Nat.pow_le_pow_right (by decide) le

theorem groupedDigits?_of_digits {cs : List Char} (some_digit : cs ≠ [])
    (areDigits : ∀ c ∈ cs, Text.isDigit c = true) : groupedDigits? cs = some cs := by
  induction cs with
  | nil => exact absurd rfl some_digit
  | cons c rest ih =>
    have digit := areDigits c List.mem_cons_self
    cases rest with
    | nil => simp [groupedDigits?, digit]
    | cons d rest =>
      have others : ∀ e ∈ d :: rest, Text.isDigit e = true := fun e member =>
        areDigits e (List.mem_cons_of_mem _ member)
      -- An underscore would be looked for before the next digit.
      have notUnderscore : d ≠ '_' := by
        rintro rfl
        exact absurd (others '_' List.mem_cons_self) (by decide)
      rw [groupedDigits?, if_pos digit, ih (List.cons_ne_nil _ _) others, Option.map_some]
      · rintro ⟨⟩
      · exact fun _ same => notUnderscore (List.cons.inj same).1

theorem areDigits_of_grouped {cs ds : List Char} (grouped : groupedDigits? cs = some ds) :
    ∀ c ∈ ds, Text.isDigit c = true := by
  fun_induction groupedDigits? cs generalizing ds with
  | case1 => cases grouped
  | case2 c digit =>
    obtain rfl := Option.some.inj grouped
    simpa using digit
  | case3 => cases grouped
  | case4 c rest digit ih =>
    obtain ⟨es, rest_grouped, rfl⟩ := Option.map_eq_some_iff.1 grouped
    exact List.forall_mem_cons.2 ⟨digit, ih rest_grouped⟩
  | case5 => cases grouped
  | case6 c rest _ _ digit ih =>
    obtain ⟨es, rest_grouped, rfl⟩ := Option.map_eq_some_iff.1 grouped
    exact List.forall_mem_cons.2 ⟨digit, ih rest_grouped⟩
  | case7 => cases grouped

theorem digits_of_grouped {cs ds : List Char} (grouped : groupedDigits? cs = some ds) (joined : '_' ∉ cs) :
    cs = ds ∧ cs ≠ [] := by
  fun_induction groupedDigits? cs generalizing ds with
  | case1 => cases grouped
  | case2 c digit => exact ⟨by simpa using grouped, List.cons_ne_nil _ _⟩
  | case3 => cases grouped
  | case4 => simp at joined
  | case5 => cases grouped
  | case6 c rest _ _ digit ih =>
    obtain ⟨es, rest_grouped, rfl⟩ := Option.map_eq_some_iff.1 grouped
    obtain ⟨rfl, -⟩ := ih rest_grouped fun member => joined (List.mem_cons_of_mem _ member)
    exact ⟨rfl, List.cons_ne_nil _ _⟩
  | case7 => cases grouped

theorem toList_repr (n : Int) :
    n.repr.toList = (if n < 0 then ['-'] else []) ++ Text.digits n.natAbs := by
  cases n with
  | ofNat m =>
    have positive : ¬ Int.ofNat m < 0 := Int.not_lt.2 (Int.natCast_nonneg m)
    rw [if_neg positive]
    simp [Int.repr, Nat.repr, Text.digits]
  | negSucc m => simp [Int.repr, Nat.repr, Text.digits, Int.negSucc_lt_zero]

theorem signed_repr (n : Int) :
    signed n.repr.toList = (decide (n < 0), Text.digits n.natAbs) := by
  rw [toList_repr]
  by_cases negative : n < 0
  · simp [negative, signed]
  · simp only [negative, if_false, List.nil_append, decide_false]
    cases digits : Text.digits n.natAbs with
    | nil => exact absurd digits (Text.digits_ne_nil _)
    | cons c rest =>
      have digit : Text.isDigit c = true :=
        Text.isDigit_of_mem_digits (n := n.natAbs) (digits ▸ List.mem_cons_self)
      unfold signed
      split
      · rename_i same
        obtain ⟨rfl, -⟩ := List.cons.inj same
        exact absurd digit (by decide)
      · rename_i same
        obtain ⟨rfl, -⟩ := List.cons.inj same
        exact absurd digit (by decide)
      · rfl

theorem mem_repr {n : Int} {c : Char} (member : c ∈ n.repr.toList) :
    c = '-' ∨ Text.isDigit c = true := by
  rw [toList_repr] at member
  rcases List.mem_append.1 member with sign | digit
  · split at sign
    · exact .inl (List.mem_singleton.1 sign)
    · cases sign
  · exact .inr (Text.isDigit_of_mem_digits digit)

theorem numeral?_repr (n : Int) :
    numeral? n.repr.toList = some (decide (n < 0), Text.digits n.natAbs) := by
  have noBlank : ∀ c ∈ n.repr.toList, Text.isAsciiBlank c = false := by
    intro c member
    rcases mem_repr member with rfl | digit
    · rfl
    · have bounds := Text.bounds_of_isDigit digit
      simp only [Text.isAsciiBlank, Bool.or_eq_false_iff, beq_eq_false_iff_ne, Bool.and_eq_false_iff,
        decide_eq_false_iff_not]
      omega
  have grouped := groupedDigits?_of_digits (Text.digits_ne_nil n.natAbs)
    fun c member => Text.isDigit_of_mem_digits member
  simp [numeral?, Text.trimBy_of_none noBlank, signed_repr, grouped]

theorem negateIf_natAbs (n : Int) : negateIf (decide (n < 0)) n.natAbs = n := by
  by_cases negative : n < 0
  · rw [negateIf, decide_eq_true negative, if_pos rfl]
    omega
  · rw [negateIf, decide_eq_false negative, if_neg Bool.false_ne_true]
    omega

theorem ofText?_repr {n : Int} (short : n.natAbs < tenTo maxDigits) : ofText? n.repr = some n := by
  have ascii : ∀ c ∈ n.repr.toList, c.toNat < 128 := by
    intro c member
    rcases mem_repr member with rfl | digit
    · decide
    · have bounds := Text.bounds_of_isDigit digit
      omega
  have plain : Text.plain n.repr = n.repr.toList := by
    rw [Text.plain, if_pos]
    simpa using ascii
  have length : (Text.digits n.natAbs).length ≤ maxDigits := (Text.length_digits_le (by decide)).2 short
  rw [ofText?, plain]
  refine Option.bind_eq_some_iff.2 ⟨_, numeral?_repr n, Option.bind_eq_some_iff.2 ⟨(), ?_, ?_⟩⟩
  · exact (Option.guard_eq_some' _).2 length
  rw [Text.ofDigits_digits, negateIf_natAbs]
  rfl

theorem parts_of_signed {negative : Bool} {cs rest : List Char} (parts : signed cs = (negative, rest)) :
    cs = '-' :: rest ∧ negative = true ∨ cs = '+' :: rest ∧ negative = false ∨
      cs = rest ∧ negative = false := by
  unfold signed at parts
  split at parts <;> obtain ⟨rfl, rfl⟩ := Prod.mk.inj parts
  · exact .inl ⟨rfl, rfl⟩
  · exact .inr (.inl ⟨rfl, rfl⟩)
  · exact .inr (.inr ⟨rfl, rfl⟩)

theorem parts_of_numeral {negative : Bool} {cs ds : List Char} (numeral : numeral? cs = some (negative, ds)) :
    ∃ rest, signed (Text.trimBy Text.isAsciiBlank cs) = (negative, rest) ∧
      groupedDigits? rest = some ds := by
  unfold numeral? at numeral
  cases parts : signed (Text.trimBy Text.isAsciiBlank cs) with
  | mk sign rest =>
    rw [parts] at numeral
    obtain ⟨es, grouped, same⟩ := Option.bind_eq_some_iff.1 numeral
    obtain ⟨rfl, rfl⟩ := Prod.mk.inj (Option.some.inj same)
    exact ⟨rest, rfl, grouped⟩

theorem natAbs_lt_of_ofText? {s : String} {n : Int} (read : ofText? s = some n) :
    n.natAbs < tenTo maxDigits := by
  obtain ⟨⟨negative, ds⟩, numeral, guarded⟩ := Option.bind_eq_some_iff.1 read
  obtain ⟨_, passed, same⟩ := Option.bind_eq_some_iff.1 guarded
  obtain ⟨rest, -, grouped⟩ := parts_of_numeral numeral
  have value : n = negateIf negative (Text.ofDigits ds) := (Option.some.inj same).symm
  calc n.natAbs
    _ = Text.ofDigits ds := by rw [value, negateIf]; split <;> simp
    _ < tenTo ds.length := Text.ofDigits_lt (areDigits_of_grouped grouped)
    _ ≤ tenTo maxDigits := tenTo_le ((Option.guard_eq_some' _).1 passed)

end Number

end QuadPull
