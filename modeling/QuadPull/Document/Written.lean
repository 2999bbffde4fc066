import QuadPull.Document.Basic
import QuadPull.Number.Shortest
import QuadPull.Text.Quoted

namespace QuadPull.Document

def writtenChar (c : Char) : List Char :=
  if c == '\x22' || c == '\x5c' then ['\x5c', c]
  else if c.toNat < 0x20 then '\x5c' :: 'u' :: Text.hex 4 c.toNat
  else [c]

/-- A number within a text; half of a pair is escaped. -/
def writtenNumber (n : Nat) : List Char :=
  if Text.isHalf n then '\x5c' :: 'u' :: Text.hex 4 n else writtenChar (Char.ofNat n)

def writtenText (s : String) : String :=
  String.ofList ('\x22' :: (Text.numbers s.toList).flatMap writtenNumber ++ ['\x22'])

def writtenDouble : Number.Double → String
  | .nan => "NaN"
  | .infinity negative => if negative then "-Infinity" else "Infinity"
  | d => d.toText

mutual

def write : Document → String
  | .null => "null"
  | .bool b => if b then "true" else "false"
  | .int n => toString n
  | .double d => writtenDouble d
  | .text s => writtenText s
  | .list items => "[" ++ ",".intercalate (writeAll items) ++ "]"
  | .object fields => "\x7b" ++ ",".intercalate (writeFields fields) ++ "\x7d"

def writeAll : List Document → List String
  | [] => []
  | d :: rest => d.write :: writeAll rest

def writeFields : List (String × Document) → List String
  | [] => []
  | (key, d) :: rest => (writtenText key ++ ":" ++ d.write) :: writeFields rest

end

end QuadPull.Document
