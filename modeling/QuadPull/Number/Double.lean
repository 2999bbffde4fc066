import QuadPull.Number.Natural
/-!
Binary floating point numbers of 64 bits, as exact values: a sign, a mantissa below `2 ^ 53` and a
power of two. Every number is held in one form only, so equality of values with one sign is equality.
-/

namespace QuadPull.Number

/-- The form of a finite value: the mantissa fills 53 bits unless the exponent is the least. -/
def Canonical (mantissa : Nat) (exponent : Int) : Prop :=
  mantissa < twoTo 53 ∧ -1074 ≤ exponent ∧ exponent ≤ 971 ∧ (twoTo 52 ≤ mantissa ∨ exponent = -1074)

instance (mantissa : Nat) (exponent : Int) : Decidable (Canonical mantissa exponent) := by
  unfold Canonical; infer_instance

inductive Double where
  | nan
  | infinity (negative : Bool)
  | finite (negative : Bool) (mantissa : Nat) (exponent : Int)
    (canonical : Canonical mantissa exponent)
  deriving DecidableEq, Repr

namespace Double

def zero (negative : Bool) : Double := .finite negative 0 (-1074) (by decide)

def ofParts (negative : Bool) (mantissa : Nat) (exponent : Int) : Double :=
  if h : Canonical mantissa exponent then .finite negative mantissa exponent h
  else .infinity negative

def scaled (num den : Nat) (shift : Int) : Nat × Nat :=
  if shift < 0 then (num * twoTo shift.natAbs, den) else (num, den * twoTo shift.natAbs)

def roundEven (num den : Nat) : Nat :=
  let q := num / den
  let r := num % den
  if den < 2 * r || (2 * r == den && q % 2 == 1) then q + 1 else q

def exponentOf (num den : Nat) : Int :=
  let e := (num.log2 : Int) - den.log2 - 53
  let (n, d) := scaled num den e
  max (if twoTo 53 * d ≤ n then e + 1 else e) (-1074)

def ofRatio (negative : Bool) (num den : Nat) : Double :=
  if num = 0 then zero negative
  else
    let e := exponentOf num den
    let (n, d) := scaled num den e
    let m := roundEven n d
    if m = twoTo 53 then ofParts negative (twoTo 52) (e + 1) else ofParts negative m e

def ofDecimal (negative : Bool) (coefficient : Nat) (exponent : Int) : Double :=
  if coefficient = 0 then zero negative
  else
    let size := (Nat.toDigits 10 coefficient).length + exponent
    if 400 < size then .infinity negative
    else if size < -400 then zero negative
    else if 0 ≤ exponent then ofRatio negative (coefficient * tenTo exponent.natAbs) 1
    else ofRatio negative coefficient (tenTo exponent.natAbs)

def ofInt? (n : Int) : Option Double :=
  match ofRatio (decide (n < 0)) n.natAbs 1 with
  | .infinity _ => none
  | d => some d

def truncated? : Double → Option Int
  | .finite negative m e _ =>
    let n := if 0 ≤ e then m * twoTo e.natAbs else m / twoTo e.natAbs
    some (if negative then -(n : Int) else n)
  | _ => none

/-- The natural nearest to a mantissa times a power of two, a tie to the even one. -/
def nearest (mantissa : Nat) (exponent : Int) : Nat :=
  if 0 ≤ exponent then mantissa * twoTo exponent.natAbs
  else roundEven mantissa (twoTo exponent.natAbs)

/-- Some times a finite value, as an integer. The part before the point is taken exactly, and the
fraction as the nearest value to its product, of which the nearest integer is taken. -/
def times? (d : Double) (n : Nat) : Option Int :=
  match d with
  | .finite negative m e _ =>
    let den := if 0 ≤ e then 1 else twoTo e.natAbs
    let num := if 0 ≤ e then m * twoTo e.natAbs else m
    match ofRatio false (num % den * n) den with
    | .finite _ m e _ =>
      let k := num / den * n + nearest m e
      some (if negative then -(k : Int) else k)
    | _ => none
  | _ => none

def integer? (d : Double) : Option Int :=
  match d with
  | .finite _ m e _ => if 0 ≤ e || m % twoTo e.natAbs == 0 then d.truncated? else none
  | _ => none

def isZero : Double → Bool
  | .finite _ m _ _ => m == 0
  | _ => false

def ltNat (d : Double) (n : Nat) : Bool :=
  match d with
  | .nan => false
  | .infinity negative => negative
  | .finite true m _ _ => 0 < n || m != 0
  | .finite false m e _ => if 0 ≤ e then m * twoTo e.natAbs < n else m < n * twoTo e.natAbs

end QuadPull.Number.Double
