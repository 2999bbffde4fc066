import QuadPull.Value.Equality
import QuadPull.Value.Inspect
/-!
Values read as integers, as numbers and as records, and compared with small naturals.
-/

namespace QuadPull

def putField (fields : List (String × Value)) (key : String) (v : Value) :
    List (String × Value) :=
  if fields.any (·.1 = key) then fields.map fun f => if f.1 = key then (key, v) else f
  else fields ++ [(key, v)]

namespace Value

def byteChars (bs : List UInt8) : List Char := bs.map fun b => Char.ofNat b.toNat

def orBad {α : Type} (v : Option α) : Except Error α :=
  match v with
  | some a => .ok a
  | none => .error .badValue

def toInt : Value → Except Error Int
  | .bool b => .ok (if b then 1 else 0)
  | .int n => .ok n
  | .double .nan _ => .error .badValue
  | .double d _ => (d.truncated?).elim (.error .overflow) .ok
  | .decimal (.nan ..) _ => .error .badValue
  | .decimal (.infinity _) _ => .error .overflow
  | .decimal d _ => (d.truncated?).elim (.error .outOfReach) .ok
  | .text s => orBad (Number.ofText? s)
  | .bytes bs => orBad (Number.ofPlain? (byteChars bs))
  | _ => .error .wrongKind

def toDouble : Value → Except Error Number.Double
  | .bool b => .ok (.ofRatio false (if b then 1 else 0) 1)
  | .int n => (Number.Double.ofInt? n).elim (.error .overflow) .ok
  | .double d _ => .ok d
  | .decimal d _ => orBad d.toDouble?
  | .text s => orBad (Number.Double.ofText? s)
  | .bytes bs => orBad (Number.Double.ofPlain? (byteChars bs))
  | _ => .error .wrongKind

def lessThan (v : Value) (n : Nat) : Except Error Bool :=
  match v with
  | .bool b => .ok ((if b then 1 else 0) < n)
  | .int i => .ok (i < n)
  | .double d _ => .ok (d.ltNat n)
  | .decimal d _ => (d.ltNat? n).elim (.error .incomparable) .ok
  | _ => .error .wrongKind

def notPositive (v : Value) : Except Error Bool := do
  let negative ← v.lessThan 0
  return negative || !v.truthy

def toPair : Value → Except Error (Value × Value)
  | .list items | .tuple items | .sequence items _ =>
    match items with
    | [key, v] => if key.hashable then .ok (key, v) else .error .wrongKind
    | _ => .error .badValue
  | .text s =>
    match Text.characters s with
    | [a, b] => .ok (.text a, .text b)
    | _ => .error .badValue
  | .record [(a, _), (b, _)] => .ok (a, b)
  | .bytes [a, b] => .ok (.int a.toNat, .int b.toNat)
  | .record _ | .bytes _ | .term (.quoted ..) => .error .badValue
  | _ => .error .wrongKind

def toPairs : Value → Except Error (List (Value × Value))
  | .record fields => .ok fields
  | .list items | .tuple items | .sequence items _ => items.mapM toPair
  | .text s => ((Text.characters s).map Value.text).mapM toPair
  | .bytes bs => (bs.map fun b => Value.int b.toNat).mapM toPair
  | .term (.quoted s p o g) => [Value.term s, .term p, .term o, .term g].mapM toPair
  | _ => .error .wrongKind

def sameKey (a b : Value) : Bool := holdsTrue (a.equals b)

/-- Puts a value under a key that may be any value: a new key goes to the end, a present one stays. -/
def putPair (pairs : List (Value × Value)) (pair : Value × Value) : List (Value × Value) :=
  if pairs.any (sameKey ·.1 pair.1) then
    pairs.map fun q => if sameKey q.1 pair.1 then (q.1, pair.2) else q
  else pairs ++ [pair]

def isNoDecimal : Value → Bool
  | .decimal (.nan ..) _ => true
  | _ => false

mutual

/-- Whether two values have an order: two of one kind do, and so do numbers of any kinds; tuples do when
the first parts that differ do. -/
def compare : Value → Value → Except Error Unit
  | .text _, .text _ | .bytes _, .bytes _ | .date _, .date _ => .ok ()
  | .moment m, .moment n =>
    if m.offset.isSome == n.offset.isSome then .ok () else .error .wrongKind
  | .tuple vs, .tuple ws => compareInOrder vs ws
  | v, w =>
    if v.number?.isNone || w.number?.isNone then .error .wrongKind
    else if v.isNoDecimal || w.isNoDecimal then .error .incomparable
    else .ok ()

def compareInOrder : List Value → List Value → Except Error Unit
  | v :: vs, w :: ws => do if ← v.equals w then compareInOrder vs ws else v.compare w
  | _, _ => .ok ()

end

def haveOrder : List Value → Except Error Unit
  | [] => .ok ()
  | key :: rest => do
    rest.forM key.compare
    haveOrder rest

end Value

end QuadPull
