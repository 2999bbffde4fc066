import QuadPull.Number.Natural
import QuadPull.Text.Digit
/-!
Integers as text. A numeral has a sign, digits with single underscores between them, and at most
`maxDigits` digits; blanks may surround it.
-/

namespace QuadPull.Number

def maxDigits : Nat := 4300

/-- The digits of a numeral: none may be missing beside an underscore. -/
def groupedDigits? : List Char → Option (List Char)
  | [] => none
  | [c] => if Text.isDigit c then some [c] else none
  | c :: '_' :: rest => if Text.isDigit c then (groupedDigits? rest).map (c :: ·) else none
  | c :: rest => if Text.isDigit c then (groupedDigits? rest).map (c :: ·) else none

def signed : List Char → Bool × List Char
  | '-' :: rest => (true, rest)
  | '+' :: rest => (false, rest)
  | cs => (false, cs)

def negateIf (negative : Bool) (n : Nat) : Int := if negative then -(n : Int) else n

def numeral? (cs : List Char) : Option (Bool × List Char) := do
  let (negative, rest) := signed (Text.trimBy Text.isAsciiBlank cs)
  let ds ← groupedDigits? rest
  return (negative, ds)

def ofPlain? (cs : List Char) : Option Int := do
  let (negative, ds) ← numeral? cs
  guard (ds.length ≤ maxDigits)
  return negateIf negative (Text.ofDigits ds)

def ofText? (s : String) : Option Int := ofPlain? (Text.plain s)

def toText? (n : Int) : Option String :=
  if n.natAbs < tenTo maxDigits then some (toString n) else none

end QuadPull.Number
