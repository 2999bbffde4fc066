import QuadPull.Number.Decimal
import QuadPull.Number.Double
/-!
Exact numbers: what integers, floating point numbers and decimals have in common. A number is held by its
sign, its powers of two and five, and what is left of it, so that equal numbers have one form however many
digits they are written with.
-/

namespace QuadPull.Number

inductive Exact where
  | nan
  | infinity (negative : Bool)
  | zero
  | finite (negative : Bool) (rest : Nat) (twos fives : Int)
  deriving DecidableEq, Repr

def factorOut (p : Nat) : Nat → Nat → Nat × Nat
  | 0, n => (0, n)
  | times + 1, n =>
    if n % p == 0 then
      let (k, rest) := factorOut p times (n / p)
      (k + 1, rest)
    else (0, n)

theorem factorOut_spec (p times n : Nat) :
    Nat.pow p (factorOut p times n).1 * (factorOut p times n).2 = n := by
  induction times generalizing n with
  | zero => exact Nat.one_mul n
  | succ times ih =>
    unfold factorOut
    split
    · rename_i h
      have divides : p * (n / p) = n := Nat.mul_div_cancel' (Nat.dvd_of_mod_eq_zero (by simpa using h))
      have power (k : Nat) : Nat.pow p (k + 1) = p * Nat.pow p k := Nat.mul_comm _ _
      rw [power, Nat.mul_assoc, ih, divides]
    · exact Nat.one_mul n

namespace Exact

/-- The number `n * 2 ^ twos * 5 ^ fives`. -/
def ofParts (negative : Bool) (n : Nat) (twos fives : Int) : Exact :=
  if n = 0 then .zero
  else
    let (two, rest) := factorOut 2 (n.log2 + 1) n
    let (five, rest) := factorOut 5 (rest.log2 + 1) rest
    .finite negative rest (twos + two) (fives + five)

def ofInt (n : Int) : Exact := ofParts (decide (n < 0)) n.natAbs 0 0

def ofDouble : Double → Exact
  | .nan => .nan
  | .infinity negative => .infinity negative
  | .finite negative m e _ => ofParts negative m e 0

/-- A decimal that signals is a number as little as one that does not. -/
def ofDecimal : Decimal → Exact
  | .nan .. => .nan
  | .infinity negative => .infinity negative
  | .finite negative c e => ofParts negative c e e

def equals (a b : Exact) : Bool :=
  match a with
  | .nan => false
  | a => a = b

end QuadPull.Number.Exact
