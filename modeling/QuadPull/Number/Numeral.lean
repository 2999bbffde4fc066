import QuadPull.Number.Double
import QuadPull.Number.Whole
/-!
Floating point numerals: a sign, digits with a point and an exponent, or the words for infinity and
for what is no number. Underscores may stand between digits.
-/

namespace QuadPull.Number

/-- Drops underscores, each of which must stand between two digits. -/
def joined? (before : Option Char) : List Char → Option (List Char)
  | [] => some []
  | '_' :: c :: rest =>
    if before.any Text.isDigit && Text.isDigit c then (joined? (some c) rest).map (c :: ·) else none
  | '_' :: [] => none
  | c :: rest => (joined? (some c) rest).map (c :: ·)

def lowerAscii (c : Char) : Char := if 'A' ≤ c && c ≤ 'Z' then Char.ofNat (c.toNat + 32) else c

def exponent? : List Char → Option Int
  | [] => some 0
  | c :: rest =>
    let (negative, ds) := signed rest
    if lowerAscii c != 'e' || ds.isEmpty || !ds.all Text.isDigit then none
    else some (negateIf negative (Text.ofDigits ds))

def mantissa (cs : List Char) : List Char × List Char × List Char :=
  let whole := cs.takeWhile Text.isDigit
  match cs.dropWhile Text.isDigit with
  | '.' :: rest => (whole, rest.takeWhile Text.isDigit, rest.dropWhile Text.isDigit)
  | rest => (whole, [], rest)

/-- A decimal numeral without its sign, as `coefficient * 10 ^ exponent`. -/
def unsigned? (cs : List Char) : Option (Nat × Int) := do
  let (whole, fraction, rest) := mantissa cs
  guard (!(whole ++ fraction).isEmpty)
  let e ← exponent? rest
  return (Text.ofDigits (whole ++ fraction), e - fraction.length)

namespace Double

def word? (negative : Bool) (cs : List Char) : Option Double :=
  let w := String.ofList (cs.map lowerAscii)
  if w = "inf" || w = "infinity" then some (.infinity negative)
  else if w = "nan" then some .nan
  else none

def ofPlain? (cs : List Char) : Option Double := do
  let joined ← joined? none cs
  let (negative, rest) := signed (Text.trimBy Text.isAsciiBlank joined)
  match word? negative rest with
  | some d => return d
  | none =>
    let (coefficient, e) ← unsigned? rest
    return ofDecimal negative coefficient e

def ofText? (s : String) : Option Double := ofPlain? (Text.plain s)

end Double

end QuadPull.Number
