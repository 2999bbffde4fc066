import QuadPull.Number.Numeral
/-!
Decimal numbers that keep their digits: `1.50` is not `1.5`. They are written with an exponent when
the point would stand outside or far before the digits.
-/

namespace QuadPull.Number

inductive Decimal where
  | finite (negative : Bool) (coefficient : Nat) (exponent : Int)
  | infinity (negative : Bool)
  | nan (negative signaling : Bool) (payload : List Char)
  deriving DecidableEq

namespace Decimal

def asciiDigit (c : Char) : Char :=
  match Text.digit? c with
  | some d => Char.ofNat (0x30 + d)
  | none => c

def nan? (negative signaling : Bool) (cs : List Char) : Option Decimal :=
  if cs.all Text.isDigit then some (.nan negative signaling (cs.dropWhile (· == '0'))) else none

def greatestExponent : Int := 999999999999999999

def leastExponent : Int := -1999999999999999997

def inRange (coefficient : Nat) (exponent : Int) : Bool :=
  exponent + (Text.digits coefficient).length - 1 ≤ greatestExponent && leastExponent ≤ exponent

/-- Reads a decimal; blanks around it and underscores anywhere are dropped. -/
def ofText? (s : String) : Option Decimal := do
  let cs := ((Text.trimBy Text.isBlank s.toList).filter (· != '_')).map asciiDigit
  let (negative, rest) := signed cs
  match rest.map lowerAscii with
  | 'i' :: 'n' :: 'f' :: tail =>
    guard (tail = [] || tail = ['i', 'n', 'i', 't', 'y'])
    return .infinity negative
  | 'n' :: 'a' :: 'n' :: tail => nan? negative false tail
  | 's' :: 'n' :: 'a' :: 'n' :: tail => nan? negative true tail
  | _ =>
    let (coefficient, e) ← unsigned? rest
    guard (inRange coefficient e)
    return .finite negative coefficient e

def exponentText (e : Int) : List Char :=
  if e = 0 then [] else 'E' :: (if e < 0 then '-' else '+') :: Text.digits e.natAbs

def pointed (ds : List Char) (point : Int) : List Char :=
  if point ≤ 0 then '0' :: '.' :: List.replicate point.natAbs '0' ++ ds
  else if point.natAbs < ds.length then ds.take point.natAbs ++ '.' :: ds.drop point.natAbs
  else ds ++ List.replicate (point.natAbs - ds.length) '0'

def magnitude (coefficient : Nat) (exponent : Int) : List Char :=
  let ds := Text.digits coefficient
  let left := exponent + ds.length
  let point := if exponent ≤ 0 && -6 < left then left else 1
  pointed ds point ++ exponentText (left - point)

def toText : Decimal → String
  | .finite negative c e => (if negative then "-" else "") ++ String.ofList (magnitude c e)
  | .infinity negative => if negative then "-Infinity" else "Infinity"
  | .nan negative signaling payload =>
    (if negative then "-" else "") ++ (if signaling then "sNaN" else "NaN") ++ String.ofList payload

def isZero : Decimal → Bool
  | .finite _ c _ => c == 0
  | _ => false

def mostZeros : Nat := 10000000

/-- `coefficient * 10 ^ exponent` without what is behind the point; none when it is out of reach. No
power is taken of an exponent beyond the size of the coefficient. -/
def whole? (coefficient : Nat) (exponent : Int) : Option Nat :=
  if coefficient = 0 then some 0
  else if exponent < 0 then
    some (if coefficient.log2 < exponent.natAbs then 0 else coefficient / tenTo exponent.natAbs)
  else if mostZeros < exponent.natAbs then none
  else some (coefficient * tenTo exponent.natAbs)

def truncated? : Decimal → Option Int
  | .finite negative c e => (whole? c e).map (negateIf negative)
  | _ => none

def toDouble? : Decimal → Option Double
  | .finite negative c e => some (.ofDecimal negative c e)
  | .infinity negative => some (.infinity negative)
  | .nan _ signaling _ => if signaling then none else some .nan

/-- Whether `coefficient * 10 ^ exponent` is less than a natural. No power is taken of an exponent that
settles it by its size. -/
def scaledLt (coefficient : Nat) (exponent : Int) (n : Nat) : Bool :=
  if coefficient = 0 then 0 < n
  else if exponent < 0 then
    if coefficient.log2 < exponent.natAbs then 0 < n else coefficient < n * tenTo exponent.natAbs
  else if n.log2 < exponent.natAbs then false
  else coefficient * tenTo exponent.natAbs < n

def ltNat? (d : Decimal) (n : Nat) : Option Bool :=
  match d with
  | .nan .. => none
  | .infinity negative => some negative
  | .finite true c _ => some (0 < n || c != 0)
  | .finite false c e => some (scaledLt c e n)

end QuadPull.Number.Decimal
