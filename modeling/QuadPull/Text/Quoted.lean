import QuadPull.Text.Digit
import QuadPull.Text.Half
import QuadPull.Text.Printable
/-!
Quoted text as messages show it: in single quotes unless only double quotes spare an escape, with
every unprintable character escaped.
-/

namespace QuadPull.Text

/-- Double quotes are taken only for a text with single quotes and no double ones. -/
def quoteFor (cs : List Char) : Char :=
  if cs.contains '\x27' && !cs.contains '\x22' then '\x22' else '\x27'

def quotedChar (quote c : Char) : List Char :=
  if c == quote || c == '\x5c' then ['\x5c', c]
  else if c == '\t' then ['\x5c', 't']
  else if c == '\n' then ['\x5c', 'n']
  else if c == '\r' then ['\x5c', 'r']
  else if isPrintable c then [c]
  else if c.toNat ≤ 0xff then '\x5c' :: 'x' :: hex 2 c.toNat
  else if c.toNat ≤ 0xffff then '\x5c' :: 'u' :: hex 4 c.toNat
  else '\x5c' :: 'U' :: hex 8 c.toNat

/-- A number of a text; half of a pair has no character and is escaped. -/
def quotedNumber (quote : Char) (n : Nat) : List Char :=
  if isHalf n then '\x5c' :: 'u' :: hex 4 n else quotedChar quote (Char.ofNat n)

def quotedChars (cs : List Char) : List Char :=
  let quote := quoteFor cs
  quote :: (numbers cs).flatMap (quotedNumber quote) ++ [quote]

def quoted (s : String) : String := String.ofList (quotedChars s.toList)

def quotedByte (quote : Char) (b : UInt8) : List Char :=
  if b < 0x80 then quotedChar quote (Char.ofNat b.toNat) else '\x5c' :: 'x' :: hex 2 b.toNat

def quotedBytes (bs : List UInt8) : String :=
  let quote := quoteFor (bs.map fun b => Char.ofNat b.toNat)
  String.ofList ('b' :: quote :: bs.flatMap (quotedByte quote) ++ [quote])

end QuadPull.Text
