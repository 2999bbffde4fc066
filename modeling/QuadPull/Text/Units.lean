import QuadPull.Text.Half
import QuadPull.Text.Utf8
/-!
The units of a text. The bytes of a text are taken for UTF-8 unless zeros among the first four show
that a character takes two or four of them.
-/

namespace QuadPull.Text

inductive Units where
  | single
  | pairs (bigFirst : Bool)
  | fours (bigFirst : Bool)
  deriving DecidableEq, Repr

/-- The numbers of characters, given by numbers below 65536. A half alone stays. -/
def joinHalves : List Nat → List Nat
  | high :: low :: rest =>
    if isHighHalf high && isLowHalf low then ofHalves high low :: joinHalves rest
    else high :: joinHalves (low :: rest)
  | ns => ns

def bigNumber (bs : List UInt8) : Nat := bs.foldl (fun n b => n * 256 + b.toNat) 0

def unitNumber (bigFirst : Bool) (bs : List UInt8) : Nat :=
  bigNumber (if bigFirst then bs else bs.reverse)

namespace Units

/-- The units that bytes are in. -/
def ofBytes : List UInt8 → Units
  | 0 :: 0 :: _ :: _ :: _ => .fours true
  | 0 :: _ :: _ :: _ :: _ => .pairs true
  | _ :: 0 :: 0 :: 0 :: _ => .fours false
  | _ :: 0 :: _ :: _ :: _ => .pairs false
  | [0, _] => .pairs true
  | [_, 0] => .pairs false
  | _ => .single

def pairNumbers? (bigFirst : Bool) : List UInt8 → Option (List Nat)
  | [] => some []
  | a :: b :: rest => (pairNumbers? bigFirst rest).map (unitNumber bigFirst [a, b] :: ·)
  | _ => none

def fourNumbers? (bigFirst : Bool) : List UInt8 → Option (List Nat)
  | [] => some []
  | a :: b :: c :: d :: rest =>
    (fourNumbers? bigFirst rest).map (unitNumber bigFirst [a, b, c, d] :: ·)
  | _ => none

end Units

def reread? (s : String) : Option String :=
  let bytes := (numbers s.toList).flatMap fun n => Utf8.bytesOf (Char.ofNat n)
  match Units.ofBytes (bytes.take 4) with
  | .single => some s
  | .pairs bigFirst => do
    let units ← Units.pairNumbers? bigFirst bytes
    return ofNumbers (joinHalves units)
  | .fours bigFirst => do
    let units ← Units.fourNumbers? bigFirst bytes
    guard (units.all (· < 0x110000))
    return ofNumbers units

end QuadPull.Text
