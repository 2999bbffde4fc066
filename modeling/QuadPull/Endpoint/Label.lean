import QuadPull.Text.Composed
import QuadPull.Text.Direction
import QuadPull.Text.Joining
import QuadPull.Text.LabelLetter
import QuadPull.Text.Mark
import QuadPull.Text.Punycode
import QuadPull.Text.Script
/-!
Labels of domain names, as the library that sends the requests reads them: which characters they may be
made of and in which order, and how a label beyond plain characters is written in those.
-/

namespace QuadPull

inductive LabelFault where
  | form
  | letter
  | context
  | direction
  deriving DecidableEq, Repr

namespace Label

def require (b : Bool) (fault : LabelFault) : Except LabelFault Unit :=
  if b then .ok () else .error fault

/-- The length of a whole name with a dot at its end, beyond which no label is looked at. -/
def maxName : Nat := 254

def maxLabel : Nat := 63

def hyphen : Nat := 0x2d

def hyphensInPlace (ns : List Nat) : Bool :=
  (ns.drop 2).take 2 != [hyphen, hyphen] && ns.head? != some hyphen && ns.getLast? != some hyphen

/-- A joiner stands after a mark that takes the vowel off; one that keeps letters apart may also stand
between two that would join. `before` has the last character first. -/
def joinerInPlace (apart : Bool) (before after : List Nat) : Bool :=
  let joined := ((before.dropWhile Text.isTransparent).head?.any Text.joinsNext) &&
    ((after.dropWhile Text.isTransparent).head?.any Text.joinsPrevious)
  before.head?.any (Text.combiningClass · = Text.viramaClass) || (apart && joined)

def isNameless (n : Nat) : Bool :=
  Text.direction n = .unknown || (0x17000 ≤ n && n < 0x187f8) || (0x18d00 ≤ n && n < 0x18d09)

def checkJoiner (apart : Bool) (before after : List Nat) : Except LabelFault Unit := do
  require (!before.head?.any isNameless) .form
  require (joinerInPlace apart before after) .context

def isArabicDigit (n : Nat) : Bool := 0x660 ≤ n && n ≤ 0x669

def isPersianDigit (n : Nat) : Bool := 0x6f0 ≤ n && n ≤ 0x6f9

def signInPlace? (ns before : List Nat) (n : Nat) (after : List Nat) : Option Bool :=
  if n = 0xb7 then some (before.head? == some 0x6c && after.head? == some 0x6c)
  else if n = 0x375 then some (after.head?.any Text.isGreek)
  else if n = 0x5f3 || n = 0x5f4 then some (before.head?.any Text.isHebrew)
  else if n = 0x30fb then some (ns.any fun m => m != n && Text.isJapanese m)
  else if isArabicDigit n then some (!ns.any isPersianDigit)
  else if isPersianDigit n then some (!ns.any isArabicDigit)
  else none

def checkLetter (ns before : List Nat) (n : Nat) (after : List Nat) : Except LabelFault Unit :=
  if Text.isLabelLetter n then .ok ()
  else if n = 0x200c then checkJoiner true before after
  else if n = 0x200d then checkJoiner false before after
  else
    match signInPlace? ns before n after with
    | some inPlace => require inPlace .context
    | none => .error .letter

def checkLetters (ns : List Nat) : List Nat → List Nat → Except LabelFault Unit
  | _, [] => .ok ()
  | before, n :: after => do
    checkLetter ns before n after
    checkLetters ns (n :: before) after

/-- A label with a letter or a number that runs from right to left begins with such a letter, has no
letter of the other direction and digits of one kind only, and ends with a letter or a digit, marks
left aside. -/
def oneWay (ds : List Text.Direction) : Bool :=
  if ds.any fun d => d = .rightToLeft || d = .arabicNumber then
    ds.head? == some .rightToLeft && !ds.contains .leftToRight &&
      !(ds.contains .arabicNumber && ds.contains .europeanNumber) &&
      (ds.reverse.dropWhile (· == .mark)).head?.any (· != .neutral)
  else true

def check (ns : List Nat) : Except LabelFault Unit := do
  require (!ns.isEmpty && ns.length ≤ maxName) .form
  require (Text.isComposed ns && hyphensInPlace ns && !ns.head?.any Text.isMark) .form
  checkLetters ns [] ns
  let ds := ns.map Text.direction
  require (!ds.contains .unknown && oneWay ds) .direction

def codedMark : List Char := ['x', 'n', '-', '-']

/-- Checks a label in plain characters, and what it stands for when it is a coded one, which has to be
written as it would be. -/
def checkPlain (cs : List Char) : Except LabelFault Unit :=
  let cs := cs.map Char.toLower
  if codedMark.isPrefixOf cs then do
    let coded := cs.drop codedMark.length
    require (!coded.isEmpty && coded.getLast? != some '-') .form
    match Text.Punycode.decode? coded with
    | some ns => do
      require (Text.Punycode.encode ns == coded) .form
      check ns
    | none => throw .form
  else check (cs.map Char.toNat)

def encode (cs : List Char) : Except LabelFault (List Char) := do
  let plain := cs.all (·.toNat < 0x80)
  if plain then checkPlain cs else check (cs.map Char.toNat)
  let written := if plain then cs else codedMark ++ Text.Punycode.encode (cs.map Char.toNat)
  require (written.length ≤ maxLabel) .form
  return written

end Label

end QuadPull
