import QuadPull.Number.Double
import QuadPull.Text.Digit
/-!
The text of a floating point number: the fewest digits that read back as it, laid out positionally
from `0.0001` up to `10 ^ 16` and with an exponent elsewhere.
-/

namespace QuadPull.Number.Double

structure Decimals where
  digits : Nat
  scale : Int
  deriving DecidableEq, Repr

def crossed (c : Nat) (g : Int) (num den : Nat) : Nat × Nat :=
  if 0 ≤ g then (c * tenTo g.natAbs * den, num) else (c * den, num * tenTo g.natAbs)

/-- The reals that round to `m * 2 ^ e`, in quarters of the last place: the gap below is halved when
the mantissa is the least of its power, and the ends belong to the even mantissas. -/
def readsBack (m : Nat) (e : Int) (c : Nat) (g : Int) : Bool :=
  let (up, down) := if 0 ≤ e then (twoTo e.natAbs, 1) else (1, twoTo e.natAbs)
  let below := if m == twoTo 52 && e != -1074 then 1 else 2
  let (l, r) := crossed c g ((4 * m - below) * up) (4 * down)
  let (l', r') := crossed c g ((4 * m + 2) * up) (4 * down)
  if m % 2 == 0 then decide (r ≤ l) && decide (l' ≤ r') else decide (r < l) && decide (l' < r')

def decade (num den : Nat) : Int :=
  let guess := ((num.log2 : Int) - den.log2) * 30103 / 100000 - 2
  let above (k : Int) : Bool := let (l, r) := crossed 1 k num den; r < l
  (((List.range 6).map fun (i : Nat) => guess + (i : Int)).find? above).getD (guess + 6)

/-- The nearer of a value's two neighbours on a grid of tens that reads back, a tie to the even. -/
def onGrid (m : Nat) (e : Int) (num den : Nat) (g : Int) : Option Decimals :=
  let (n, d) := if 0 ≤ g then (num, den * tenTo g.natAbs) else (num * tenTo g.natAbs, den)
  let c := n / d
  let r := n % d
  match readsBack m e c g, readsBack m e (c + 1) g with
  | false, false => none
  | true, false => some ⟨c, g⟩
  | false, true => some ⟨c + 1, g⟩
  | true, true => if 2 * r < d || (2 * r == d && c % 2 == 0) then some ⟨c, g⟩ else some ⟨c + 1, g⟩

/-- The fewest digits that read back as `m * 2 ^ e`; seventeen always do. -/
def shortest (m : Nat) (e : Int) : Decimals :=
  let (num, den) := if 0 ≤ e then (m * twoTo e.natAbs, 1) else (m, twoTo e.natAbs)
  let k := decade num den
  ((List.range 17).findSome? fun (i : Nat) => onGrid m e num den (k - (i + 1))).getD ⟨m, e⟩

structure Layout where
  leastPoint : Int
  greatestPoint : Int
  exponentWidth : Nat

/-- Positional from four zeros after the point to sixteen digits before it; exponents have a sign and
at least two digits. -/
def layout : Layout := ⟨-3, 16, 2⟩

def dropTrailingZeros (ds : List Char) : List Char := (ds.reverse.dropWhile (· == '0')).reverse

def positional (ds : List Char) (point : Int) : List Char :=
  if point ≤ 0 then '0' :: '.' :: List.replicate point.natAbs '0' ++ ds
  else if point.natAbs < ds.length then ds.take point.natAbs ++ '.' :: ds.drop point.natAbs
  else ds ++ List.replicate (point.natAbs - ds.length) '0' ++ ['.', '0']

def scientific (ds : List Char) (exponent : Int) : List Char :=
  ds.take 1 ++ (if ds.length ≤ 1 then [] else '.' :: ds.drop 1) ++
    'e' :: (if exponent < 0 then '-' else '+') :: Text.padded layout.exponentWidth exponent.natAbs

def magnitude (m : Nat) (e : Int) : List Char :=
  let s := shortest m e
  let ds := Text.digits s.digits
  let point := ds.length + s.scale
  let ds := dropTrailingZeros ds
  if layout.leastPoint ≤ point && point ≤ layout.greatestPoint then positional ds point
  else scientific ds (point - 1)

def toText : Double → String
  | .nan => "nan"
  | .infinity negative => if negative then "-inf" else "inf"
  | .finite negative m e _ =>
    (if negative then "-" else "") ++
      (if m = 0 then "0.0" else String.ofList (magnitude m e))

end QuadPull.Number.Double
