import QuadPull.Document.Basic
import QuadPull.Error
import QuadPull.Number.Whole
import QuadPull.Text.Units
/-!
Reading documents from text. A reader takes characters off the front and gives back what follows.
-/

namespace QuadPull.Document

def isGap (c : Char) : Bool := c == ' ' || c == '\t' || c == '\n' || c == '\r'

def skipGap (cs : List Char) : List Char := cs.dropWhile isGap

def unit? : List Char → Option (Nat × List Char)
  | a :: b :: c :: d :: rest => do
    let a ← Text.hexValue? a
    let b ← Text.hexValue? b
    let c ← Text.hexValue? c
    let d ← Text.hexValue? d
    return (((a * 16 + b) * 16 + c) * 16 + d, rest)
  | _ => none

def lowHalf? : List Char → Option (Nat × List Char)
  | '\x5c' :: 'u' :: rest => do
    let (n, rest) ← unit? rest
    guard (Text.isLowHalf n)
    return (n, rest)
  | _ => none

/-- A character given by its number. Two halves make one character, and a half alone stays. -/
def numbered? (cs : List Char) : Option (Nat × List Char) := do
  let (n, rest) ← unit? cs
  if Text.isHighHalf n then
    match lowHalf? rest with
    | some (low, rest) => return (Text.ofHalves n low, rest)
    | none => return (n, rest)
  else return (n, rest)

def escapes : List (Char × Char) :=
  [('\x22', '\x22'), ('\x5c', '\x5c'), ('/', '/'), ('b', '\x08'), ('f', '\x0c'), ('n', '\n'),
    ('r', '\r'), ('t', '\t')]

def escaped? : List Char → Option (Nat × List Char)
  | 'u' :: rest => numbered? rest
  | c :: rest => (escapes.lookup c).map fun d => (d.toNat, rest)
  | [] => none

/-- The text up to the closing quote, after characters that are there already, the last one first. -/
def textRest? : Nat → List Char → List Char → Option (List Char × List Char)
  | 0, _, _ => none
  | _ + 1, _, [] => none
  | _ + 1, before, '\x22' :: rest => some (before.reverse, rest)
  | fuel + 1, before, '\x5c' :: rest =>
    match escaped? rest with
    | some (n, rest) => textRest? fuel ((Text.held n).reverseAux before) rest
    | none => none
  | fuel + 1, before, c :: rest =>
    if c.toNat < 0x20 then none else textRest? fuel (c :: before) rest

def wholeDigits? : List Char → Option (List Char × List Char)
  | '0' :: rest => some (['0'], rest)
  | cs =>
    let ds := cs.takeWhile Text.isDigit
    if ds.isEmpty then none else some (ds, cs.dropWhile Text.isDigit)

def fractionDigits (cs : List Char) : List Char × List Char :=
  match cs with
  | '.' :: rest =>
    let ds := rest.takeWhile Text.isDigit
    if ds.isEmpty then ([], cs) else (ds, rest.dropWhile Text.isDigit)
  | _ => ([], cs)

def exponentPart (cs : List Char) : Option Int × List Char :=
  match cs with
  | c :: rest =>
    let (negative, tail) := Number.signed rest
    let ds := tail.takeWhile Text.isDigit
    if (c == 'e' || c == 'E') && !ds.isEmpty then
      (some (Number.negateIf negative (Text.ofDigits ds)), tail.dropWhile Text.isDigit)
    else (none, cs)
  | [] => (none, cs)

def number? (negative : Bool) (cs : List Char) : Option (Except Error Document × List Char) := do
  let (whole, rest) ← wholeDigits? cs
  let (fraction, rest) := fractionDigits rest
  let (exponent, rest) := exponentPart rest
  let coefficient := Text.ofDigits (whole ++ fraction)
  if fraction.isEmpty && exponent.isNone then
    if Number.maxDigits < whole.length then return (.error .numberTooLong, rest)
    else return (.ok (.int (Number.negateIf negative coefficient)), rest)
  else
    let e := exponent.getD 0 - fraction.length
    return (.ok (.double (.ofDecimal negative coefficient e)), rest)

def words : List (String × Document) :=
  [("null", .null), ("true", .bool true), ("false", .bool false), ("NaN", .double .nan),
    ("Infinity", .double (.infinity false)), ("-Infinity", .double (.infinity true))]

def afterWord? (word : String) (cs : List Char) : Option (List Char) :=
  if word.toList.isPrefixOf cs then some (cs.drop word.length) else none

def word? (cs : List Char) : Option (Document × List Char) :=
  words.findSome? fun (word, d) => (afterWord? word cs).map (d, ·)

def orNone {α : Type} (r : Option α) : Except Error α := r.elim (.error .notJson) .ok

/-- Puts a field into an object: the last of several with one key counts. -/
def putField (fields : List (String × Document)) (key : String) (d : Document) :
    List (String × Document) :=
  if fields.any (·.1 = key) then fields.map fun f => if f.1 = key then (key, d) else f
  else fields ++ [(key, d)]

def readText (fuel : Nat) (cs : List Char) : Except Error (String × List Char) :=
  match cs with
  | '\x22' :: rest => do
    let (s, rest) ← orNone (textRest? fuel [] rest)
    return (String.ofList s, rest)
  | _ => .error .notJson

def maxLevels : Nat := 980

mutual

/-- The document at the front, with a number of levels at most. -/
def read : Nat → Nat → List Char → Except Error (Document × List Char)
  | 0, _, _ => .error .notJson
  | fuel + 1, levels, cs =>
    match cs, levels with
    | '\x7b' :: _, 0 | '[' :: _, 0 => .error .tooDeep
    | '\x7b' :: rest, levels + 1 =>
      match skipGap rest with
      | '\x7d' :: rest => .ok (.object [], rest)
      | rest => readFields fuel levels [] rest
    | '[' :: rest, levels + 1 =>
      match skipGap rest with
      | ']' :: rest => .ok (.list [], rest)
      | rest => readItems fuel levels [] rest
    | '\x22' :: _, _ => do
      let (s, rest) ← readText fuel cs
      return (.text s, rest)
    | _, _ =>
      match word? cs with
      | some (d, rest) => .ok (d, rest)
      | none => do
        let (negative, rest) :=
          match cs with
          | '-' :: rest => (true, rest)
          | _ => (false, cs)
        let (d, rest) ← orNone (number? negative rest)
        let d ← d
        return (d, rest)

def readItems : Nat → Nat → List Document → List Char → Except Error (Document × List Char)
  | 0, _, _, _ => .error .notJson
  | fuel + 1, levels, items, cs => do
    let (d, rest) ← read fuel levels (skipGap cs)
    match skipGap rest with
    | ',' :: rest => readItems fuel levels (d :: items) rest
    | ']' :: rest => return (.list (d :: items).reverse, rest)
    | _ => throw .notJson

def readFields :
    Nat → Nat → List (String × Document) → List Char → Except Error (Document × List Char)
  | 0, _, _, _ => .error .notJson
  | fuel + 1, levels, fields, cs => do
    let (key, rest) ← readText fuel (skipGap cs)
    match skipGap rest with
    | ':' :: rest =>
      let (d, rest) ← read fuel levels (skipGap rest)
      let fields := putField fields key d
      match skipGap rest with
      | ',' :: rest => readFields fuel levels fields rest
      | '\x7d' :: rest => return (.object fields, rest)
      | _ => throw .notJson
    | _ => throw .notJson

end

def ofText (s : String) : Except Error Document := do
  let cs :=
    match s.toList with
    | '\ufeff' :: rest => rest
    | cs => cs
  let (d, rest) ← read (2 * cs.length + 2) maxLevels (skipGap cs)
  if (skipGap rest).isEmpty then return d else throw .notJson

end QuadPull.Document
