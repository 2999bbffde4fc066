/-!
Bytes that should be characters. What is no character is replaced: each run of bytes that begin one
and do not complete it, and each byte that begins none.
-/

namespace QuadPull.Text.Utf8

def bytesOf (c : Char) : List UInt8 := (String.singleton c).toUTF8.toList

def replacement : List UInt8 := [0xef, 0xbf, 0xbd]

/-- A character that has begun: its bytes so far, the least and the greatest byte that may come next,
and how many more come after that one. -/
structure Begun where
  held : List UInt8
  least : UInt8
  greatest : UInt8
  more : Nat

def begun? (b : UInt8) : Option Begun :=
  if 0xc2 ≤ b && b ≤ 0xdf then some ⟨[b], 0x80, 0xbf, 0⟩
  else if b == 0xe0 then some ⟨[b], 0xa0, 0xbf, 1⟩
  else if b == 0xed then some ⟨[b], 0x80, 0x9f, 1⟩
  else if 0xe1 ≤ b && b ≤ 0xef then some ⟨[b], 0x80, 0xbf, 1⟩
  else if b == 0xf0 then some ⟨[b], 0x90, 0xbf, 2⟩
  else if 0xf1 ≤ b && b ≤ 0xf3 then some ⟨[b], 0x80, 0xbf, 2⟩
  else if b == 0xf4 then some ⟨[b], 0x80, 0x8f, 2⟩
  else none

def start (b : UInt8) : List UInt8 × Option Begun :=
  if b < 0x80 then ([b], none)
  else match begun? b with
    | some s => ([], some s)
    | none => (replacement, none)

def repairFrom : Option Begun → List UInt8 → List UInt8
  | none, [] => []
  | some _, [] => replacement
  | none, b :: rest => let (out, s) := start b; out ++ repairFrom s rest
  | some s, b :: rest =>
    if s.least ≤ b && b ≤ s.greatest then
      match s.more with
      | 0 => s.held ++ b :: repairFrom none rest
      | more + 1 => repairFrom (some ⟨s.held ++ [b], 0x80, 0xbf, more⟩) rest
    else let (out, t) := start b; replacement ++ out ++ repairFrom t rest

/-- The bytes with all that is no character replaced. -/
def repair (bs : List UInt8) : List UInt8 := repairFrom none bs

end QuadPull.Text.Utf8
