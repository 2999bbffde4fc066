/-!
Halves that stand alone. Two halves make one character, and half of a pair is none; a text may hold one
all the same. It is held as a character of the last plane, and the few characters that are used so are
held behind a mark when they stand for themselves. `numbers` reads back what `held` writes.
-/

namespace QuadPull.Text

def isHighHalf (n : Nat) : Bool := 0xd800 ≤ n && n < 0xdc00

def isLowHalf (n : Nat) : Bool := 0xdc00 ≤ n && n < 0xe000

def isHalf (n : Nat) : Bool := 0xd800 ≤ n && n < 0xe000

def ofHalves (high low : Nat) : Nat := 0x10000 + (high - 0xd800) * 0x400 + (low - 0xdc00)

/-- The distance from a half to the character that it is held as. -/
def halfShift : Nat := 0x100000

/-- The mark before a character that stands for itself. -/
def ownMark : Char := Char.ofNat 0x10e000

def isReserved (n : Nat) : Bool := isHalf (n - halfShift) || n == ownMark.toNat

def held (n : Nat) : List Char :=
  if isHalf n then [Char.ofNat (halfShift + n)]
  else if isReserved n then [ownMark, Char.ofNat n]
  else [Char.ofNat n]

def numberOf (c : Char) : Nat :=
  if isHalf (c.toNat - halfShift) then c.toNat - halfShift else c.toNat

def numbers : List Char → List Nat
  | [] => []
  | [c] => [numberOf c]
  | c :: d :: rest =>
    if c = ownMark then d.toNat :: numbers rest else numberOf c :: numbers (d :: rest)

def ofNumbers (ns : List Nat) : String := String.ofList (ns.flatMap held)

def ofPlain (s : String) : String := ofNumbers (s.toList.map Char.toNat)

def isWhole (s : String) : Bool := (numbers s.toList).all fun n => !isHalf n

def letters (cs : List Char) : List Char := (numbers cs).map Char.ofNat

def characters (s : String) : List String := (numbers s.toList).map fun n => ofNumbers [n]

theorem numbers_cons {c : Char} (h : c ≠ ownMark) (cs : List Char) :
    numbers (c :: cs) = numberOf c :: numbers cs := by
  cases cs <;> simp [numbers, h]

theorem toNat_ofNat {n : Nat} (valid : n < 0x110000) (whole : isHalf n = false) :
    (Char.ofNat n).toNat = n := by
  have h : n.isValidChar := by
    simp only [isHalf, Bool.and_eq_false_iff, decide_eq_false_iff_not] at whole
    simp only [Nat.isValidChar]
    omega
  have whole : Char.ofNat n = Char.ofNatAux n h := dif_pos h
  exact whole ▸ rfl

theorem toNat_ownMark : ownMark.toNat = 0x10e000 := toNat_ofNat (by decide) (by decide)

theorem ne_ownMark {n : Nat} (valid : n < 0x110000) (whole : isHalf n = false)
    (other : n ≠ 0x10e000) : Char.ofNat n ≠ ownMark := by
  intro h
  rw [← toNat_ofNat valid whole, h, toNat_ownMark] at other
  exact other rfl

theorem numbers_held_append {n : Nat} (valid : n < 0x110000) (cs : List Char) :
    numbers (held n ++ cs) = n :: numbers cs := by
  unfold held
  split
  · rename_i half
    have bounds : 0xd800 ≤ n ∧ n < 0xe000 := by simpa [isHalf] using half
    have shift : halfShift = 0x100000 := rfl
    have whole : isHalf (halfShift + n) = false := by simp [isHalf]; omega
    have valid : halfShift + n < 0x110000 := by omega
    rw [List.singleton_append, numbers_cons (ne_ownMark valid whole (by omega)), numberOf,
      toNat_ofNat valid whole]
    simp [half]
  · rename_i whole
    have whole : isHalf n = false := by simpa using whole
    split
    · simp [numbers, toNat_ofNat valid whole]
    · rename_i own
      have own : isHalf (n - halfShift) = false ∧ n ≠ 0x10e000 := by
        simpa [isReserved, toNat_ownMark] using own
      rw [List.singleton_append, numbers_cons (ne_ownMark valid whole own.2), numberOf,
        toNat_ofNat valid whole]
      simp [own.1]

end QuadPull.Text
