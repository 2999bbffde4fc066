import QuadPull.Text.CombiningClass
import QuadPull.Text.Composition
/-!
The composed form of a text: every pair that one character stands for is written as that character, and
marks come in the order of their classes. Numbers stand for the characters, halves of a pair included.
-/

namespace QuadPull.Text

namespace Hangul

def syllableBase : Nat := 0xac00

def leadBase : Nat := 0x1100

def vowelBase : Nat := 0x1161

def finalBase : Nat := 0x11a7

def leads : Nat := 19

def vowels : Nat := 21

def finals : Nat := 28

def place? (base count n : Nat) : Option Nat :=
  if base ≤ n && n < base + count then some (n - base) else none

def letters? (n : Nat) : Option (List Nat) :=
  (place? syllableBase (leads * vowels * finals) n).map fun i =>
    [leadBase + i / (vowels * finals), vowelBase + i % (vowels * finals) / finals] ++
      if i % finals = 0 then [] else [finalBase + i % finals]

def syllable? (a b : Nat) : Option Nat :=
  match place? leadBase leads a, place? vowelBase vowels b with
  | some lead, some vowel => some (syllableBase + (lead * vowels + vowel) * finals)
  | _, _ =>
    match place? syllableBase (leads * vowels * finals) a, place? (finalBase + 1) (finals - 1) b with
    | some i, some final => if i % finals = 0 then some (a + final + 1) else none
    | _, _ => none

end Hangul

def parted : Nat → Nat → List Nat
  | 0, n => [n]
  | steps + 1, n =>
    match Hangul.letters? n with
    | some letters => letters
    | none =>
      match compositions.find? fun c => c.2.2 = n with
      | some (a, b, _) => parted steps a ++ parted steps b
      | none => [n]

def partedSteps : Nat := 4

/-- Puts a character after others, the last one first. A mark goes before marks of greater classes. -/
def putMark (n : Nat) : List Nat → List Nat
  | [] => [n]
  | m :: rest =>
    if combiningClass n ≠ starterClass && combiningClass n < combiningClass m then m :: putMark n rest
    else n :: m :: rest

def inMarkOrder (ns : List Nat) : List Nat :=
  (ns.foldl (fun before n => putMark n before) []).reverse

def compose? (a b : Nat) : Option Nat :=
  (Hangul.syllable? a b).or
    ((compositions.find? fun c => c.1 = a && c.2.1 = b).map (·.2.2))

/-- Composes what follows a character that does not combine, given with the marks after it that stayed,
the last one first. A mark meets that character unless one of its class or a greater one, or any that
stayed when it is no mark, stands between. -/
def composeFrom (base : Nat) (marks : List Nat) : List Nat → List Nat
  | [] => base :: marks.reverse
  | n :: rest =>
    let open_ := marks.head?.all fun m => combiningClass m < combiningClass n
    match if open_ then compose? base n else none with
    | some composed => composeFrom composed marks rest
    | none =>
      if combiningClass n = starterClass then base :: marks.reverse ++ composeFrom n [] rest
      else composeFrom base (n :: marks) rest

def composeAll : List Nat → List Nat
  | [] => []
  | n :: rest =>
    if combiningClass n = starterClass then composeFrom n [] rest else n :: composeAll rest

def isComposed (ns : List Nat) : Bool :=
  !ns.any isReplaced && composeAll (inMarkOrder (ns.flatMap (parted partedSteps))) == ns

end QuadPull.Text
