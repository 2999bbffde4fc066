import QuadPull.Endpoint.Label
import QuadPull.Text.Cased
import QuadPull.Text.Digit
import QuadPull.Text.Parts
/-!
Hosts of addresses: four numbers with dots, groups of hexadecimal digits within brackets, or a name. A
plain name is taken as it is; one beyond ASCII is made of labels that are written in plain characters.
-/

namespace QuadPull.Host

def looksNumeric (cs : List Char) : Bool :=
  let runs := Text.parts '.' cs
  runs.length == 4 && runs.all fun run => !run.isEmpty && run.all Text.isDigit

def isByte (cs : List Char) : Bool :=
  !cs.isEmpty && cs.all Text.isDigit && cs.length ≤ 3 && (cs == ['0'] || cs.head? != some '0') &&
    Text.ofDigits cs ≤ 255

def isNumeric (cs : List Char) : Bool :=
  let bytes := Text.parts '.' cs
  bytes.length == 4 && bytes.all isByte

def isGroup (cs : List Char) : Bool :=
  !cs.isEmpty && cs.length ≤ 4 && cs.all fun c => (Text.hexValue? c).isSome

def isGroups (cs : List Char) : Bool :=
  let groups := Text.parts ':' cs
  let final := groups.getLastD []
  let numeric := final.contains '.'
  let groups := if numeric then groups.dropLast ++ [['0'], ['0']] else groups
  let inner := (groups.drop 1).dropLast
  let gaps := inner.count []
  let opening := groups.head? == some []
  let closing := groups.getLast? == some []
  let written := groups.filter (!·.isEmpty)
  (!numeric || isNumeric final) && 3 ≤ (Text.parts ':' cs).length && groups.length ≤ 9 &&
    written.all isGroup &&
    (if gaps == 0 then groups.length == 8 && !opening && !closing
    else gaps == 1 && written.length ≤ 7 && (!opening || groups[1]? == some []) &&
      (!closing || inner.getLast? == some []))

/-- A long numeric host within brackets; a zone may follow it. -/
def isBracketed (cs : List Char) : Bool :=
  match Text.parts '%' cs with
  | [groups] => isGroups groups
  | [groups, zone] => isGroups groups && !zone.isEmpty
  | _ => false

def isPlainSafe (c : Char) : Bool :=
  c.isAlphanum || "-._~!$&'()*+,;=\"`\x7b\x7d%|\\".toList.contains c

def writtenChar (c : Char) : List Char :=
  if isPlainSafe c then [c] else '%' :: (Text.hex 2 c.toNat).map Char.toUpper

def plainDot (c : Char) : Char := if c == '\u3002' || c == '\uff0e' || c == '\uff61' then '.' else c

def labels (cs : List Char) : List (List Char) × Bool :=
  let labels := Text.parts '.' cs
  if labels.getLast? == some [] then (labels.dropLast, true) else (labels, false)

def encodeName (cs : List Char) : Except LabelFault (List Char) := do
  let cs := Text.lowercaseAll cs
  Label.require (cs.length ≤ Label.maxName) .form
  let (labels, dotted) := labels (cs.map plainDot)
  let written ← labels.mapM Label.encode
  let name := ['.'].intercalate written ++ if dotted then ['.'] else []
  Label.require (name.length ≤ if dotted then Label.maxName else Label.maxName - 1) .form
  return name

def checkName (cs : List Char) : Except LabelFault Unit := do
  if Label.codedMark.isPrefixOf cs then
    Label.require (cs.length ≤ Label.maxName) .form
    (labels cs).1.forM Label.checkPlain

def standsForEnd (c : Char) : Bool :=
  [0x2047, 0x2048, 0x2049, 0x2100, 0x2101, 0x2105, 0x2106, 0x2a74, 0xfe13, 0xfe16, 0xfe55, 0xfe56,
    0xfe5f, 0xfe6b, 0xff03, 0xff0f, 0xff1a, 0xff1f, 0xff20].contains c.toNat

/-- Whether a host is one also for those who read the address again when the reply is there. They take
the first closing bracket for the last, after which only a port comes, and what characters stand for
for themselves. -/
def isReadAgain (host : List Char) : Bool :=
  let zone := (host.dropWhile (· != '%')).drop 1
  let rest := zone.dropWhile (· != ']')
  (rest.isEmpty || (zone.head? != some ']' && rest.take 2 == [']', ':'])) &&
    !host.any standsForEnd

/-- A host as requests name it: those that look numeric must be so, and so must those within brackets,
which are left out. Any other plain text will do. -/
def ofText? (cs : List Char) : Option (List Char) :=
  if looksNumeric cs then if isNumeric cs then some cs else none
  else
    match cs, cs.getLast? with
    | '[' :: rest, some ']' => if isBracketed rest.dropLast then some rest.dropLast else none
    | _, _ =>
      if cs.all (·.toNat < 0x80) then some ((cs.map Char.toLower).flatMap writtenChar)
      else (encodeName cs).toOption

end QuadPull.Host
