import QuadPull.Calendar.Moment
import QuadPull.Text.Half
/-!
Dates and moments as text. A date is written in full or as a week date, with or without hyphens. A
moment may go on with any one character and a time of day, whose parts may be run together and whose
fraction is cut to six digits, and then an offset. Places in a text are counted in UTF-8 bytes.
-/

namespace QuadPull.Calendar

/-- What fills the places of a character after its first. -/
def filler : Char := '\uffff'

def cells (cs : List Char) : List Char :=
  cs.flatMap fun c => c :: List.replicate (c.utf8Size - 1) filler

def cellAt (cs : List Char) (i : Nat) : Char := cs.getD i '\x00'

def number? (width : Nat) (cs : List Char) : Option (Nat × List Char) :=
  let ds := cs.take width
  if ds.length = width ∧ ds.all Text.isDigit then some (Text.ofDigits ds, cs.drop width) else none

def hyphen? (hyphens : Bool) (cs : List Char) : Option (List Char) :=
  if hyphens then (match cs with | '-' :: rest => some rest | _ => none) else some cs

/-- Reads the date at the start of a text; `length` tells whether a week date has a weekday. -/
def dateAt? (cs : List Char) (length : Nat) : Option Date := do
  let (year, rest) ← number? 4 cs
  let hyphens := rest.head? == some '-'
  let rest := if hyphens then rest.tail else rest
  match rest with
  | 'W' :: rest =>
    let (week, rest) ← number? 2 rest
    if cs.length - rest.length < length then
      let rest ← hyphen? hyphens rest
      let (weekday, _) ← number? 1 rest
      Date.ofWeek? year week weekday
    else Date.ofWeek? year week 1
  | _ =>
    let (month, rest) ← number? 2 rest
    let rest ← hyphen? hyphens rest
    let (day, _) ← number? 2 rest
    Date.of? year month day

def cells? (ns : List Nat) : Option (List Char) :=
  if ns.any Text.isHalf then none else some (cells (ns.map Char.ofNat))

def Date.ofIso? (s : String) : Option Date := do
  let cs ← cells? (Text.numbers s.toList)
  if cs.length = 7 ∨ cs.length = 8 ∨ cs.length = 10 then dateAt? cs cs.length else none

def datePlaces (cs : List Char) : Nat :=
  let at' := cellAt cs
  if cs.length = 7 then 7
  else if at' 4 == '-' then
    if at' 5 == 'W' then
      if at' 8 == '-' && !Text.isDigit (at' 10) then 10 else 8
    else 10
  else if at' 4 == 'W' then
    let digitsEnd := 7 + ((cs.drop 7).takeWhile Text.isDigit).length
    if digitsEnd < 9 then digitsEnd else if digitsEnd % 2 == 0 then 7 else 8
  else 8

structure Clock where
  hour : Nat := 0
  minute : Nat := 0
  second : Nat := 0
  microsecond : Nat := 0
  leftover : Bool := false

def following (after : Char) (cs : List Char) : Char := cs.headD after

/-- Reads a fraction of a second, of which six digits count. -/
def fraction? (after : Char) (cs : List Char) (clock : Clock) : Option Clock := do
  let width := min 6 cs.length
  let (n, rest) ← number? width cs
  let rest := rest.dropWhile Text.isDigit
  return { clock with
    microsecond := n * Number.tenTo (6 - width)
    leftover := following after rest != '\x00' }

inductive Step where
  | done (leftover : Bool)
  | part (rest : List Char)
  | fraction (rest : List Char)

def step? (after : Char) (colons : Bool) (cs : List Char) : Option Step :=
  match cs with
  | [] => some (.done (after != '\x00'))
  | [c] => some (.done (c != '\x00'))
  | c :: rest =>
    if colons && c == ':' then some (.part rest)
    else if c == '.' || c == ',' then some (.fraction rest)
    else if colons then none
    else some (.part cs)

/-- Reads a time of day. A colon after the hour asks for a colon after the minute. -/
def clock? (after : Char) (cs : List Char) : Option Clock := do
  let (hour, rest) ← number? 2 cs
  let colons := following after rest == ':'
  match ← step? after colons rest with
  | .done leftover => return { hour, leftover }
  | .fraction rest => fraction? after rest { hour }
  | .part rest =>
    let (minute, rest) ← number? 2 rest
    match ← step? after colons rest with
    | .done leftover => return { hour, minute, leftover }
    | .fraction rest => fraction? after rest { hour, minute }
    | .part rest =>
      let (second, rest) ← number? 2 rest
      match ← step? after colons rest with
      | .done leftover => return { hour, minute, second, leftover }
      | .fraction rest | .part rest => fraction? after rest { hour, minute, second }

def Clock.offset (c : Clock) (negative : Bool) : Int :=
  let seconds := 3600 * c.hour + 60 * c.minute + c.second
  let micro := 1000000 * seconds + c.microsecond
  if seconds = 0 then 0 else if negative then -(micro : Int) else micro

def offset? (mark : Char) (cs : List Char) : Option Int := do
  if mark == 'Z' then
    guard (following '\x00' cs == '\x00')
    return 0
  let c ← clock? '\x00' cs
  guard (!c.leftover)
  return c.offset (mark == '-')

def isOffsetMark (c : Char) : Bool := c == '+' || c == '-' || c == 'Z'

def timeOf? (date : Date) (cs : List Char) : Option Moment := do
  let time := cs.takeWhile (!isOffsetMark ·)
  match cs.dropWhile (!isOffsetMark ·) with
  | [] =>
    let c ← clock? '\x00' time
    guard (!c.leftover)
    Moment.of? date c.hour c.minute c.second c.microsecond none
  | mark :: rest =>
    let c ← clock? mark time
    let offset ← offset? mark rest
    Moment.of? date c.hour c.minute c.second c.microsecond (some offset)

def separatorPlaces : List Nat := [7, 8, 10]

/-- The numbers of a moment with a `T` for the first half alone that may be a separator. -/
def separated (ns : List Nat) : List Nat :=
  match separatorPlaces.find? fun place => ns[place]?.any Text.isHalf with
  | some place => ns.set place 'T'.toNat
  | none => ns

def Moment.ofIso? (s : String) : Option Moment := do
  let ns := Text.numbers s.toList
  guard (7 ≤ ns.length)
  let cs ← cells? (separated ns)
  let places := datePlaces cs
  let date ← dateAt? cs places
  match cs.drop places with
  | [] => Moment.of? date 0 0 0 0 none
  | c :: rest => timeOf? date (rest.drop (c.utf8Size - 1))

end QuadPull.Calendar
