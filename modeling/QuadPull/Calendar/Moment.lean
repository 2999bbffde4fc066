import QuadPull.Calendar.Date

namespace QuadPull.Calendar

def dayLength : Nat := 86400000000

def IsTime (hour minute second microsecond : Nat) : Prop :=
  hour < 24 ∧ minute < 60 ∧ second < 60 ∧ microsecond < 1000000

instance (hour minute second microsecond : Nat) :
    Decidable (IsTime hour minute second microsecond) := by
  unfold IsTime; infer_instance

def IsOffset (offset : Option Int) : Prop := ∀ o ∈ offset, o.natAbs < dayLength

instance (offset : Option Int) : Decidable (IsOffset offset) :=
  match offset with
  | none => isTrue (by simp [IsOffset])
  | some o => if h : o.natAbs < dayLength then isTrue (by simpa [IsOffset] using h)
    else isFalse (by simpa [IsOffset] using h)

structure Moment where
  date : Date
  hour : Nat
  minute : Nat
  second : Nat
  microsecond : Nat
  offset : Option Int
  isTime : IsTime hour minute second microsecond
  isOffset : IsOffset offset
  deriving DecidableEq

namespace Moment

def of? (date : Date) (hour minute second microsecond : Nat) (offset : Option Int) :
    Option Moment :=
  if h : IsTime hour minute second microsecond ∧ IsOffset offset then
    some ⟨date, hour, minute, second, microsecond, offset, h.1, h.2⟩
  else none

def elapsed (m : Moment) : Nat :=
  m.date.dayNumber * dayLength + ((m.hour * 60 + m.minute) * 60 + m.second) * 1000000 + m.microsecond

/-- Whether two moments are one. A moment without an offset is never one with an offset. -/
def same (m n : Moment) : Bool :=
  match m.offset, n.offset with
  | none, none => m.elapsed == n.elapsed
  | some o, some p => (m.elapsed : Int) - o == (n.elapsed : Int) - p
  | _, _ => false

def isoFraction (microsecond : Nat) : List Char :=
  if microsecond = 0 then [] else '.' :: Text.padded 6 microsecond

def isoOffset (offset : Int) : List Char :=
  let seconds := offset.natAbs / 1000000
  let micro := offset.natAbs % 1000000
  (if offset < 0 then '-' else '+') :: Text.padded 2 (seconds / 3600) ++
    ':' :: Text.padded 2 (seconds / 60 % 60) ++
    (if seconds % 60 = 0 ∧ micro = 0 then [] else ':' :: Text.padded 2 (seconds % 60)) ++
    isoFraction micro

def iso (m : Moment) : List Char :=
  m.date.iso ++ 'T' :: Text.padded 2 m.hour ++ ':' :: Text.padded 2 m.minute ++
    ':' :: Text.padded 2 m.second ++ isoFraction m.microsecond ++
    (m.offset.map isoOffset).getD []

end QuadPull.Calendar.Moment
