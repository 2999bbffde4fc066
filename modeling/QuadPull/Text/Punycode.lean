/-!
Texts in letters, digits and hyphens: the plain characters come first, and after a hyphen the others as
numbers, each of which says how far the next one is from the one before, in the order of their code
points. A number is written in digits of base 36, and each place has a greatest digit that may end it.
-/

namespace QuadPull.Text.Punycode

def base : Nat := 36

/-- The least digit that does not end a number at a place, under a bias. -/
def threshold (place bias : Nat) : Nat := min 26 (max 1 (base * (place + 1) - bias))

theorem threshold_pos (place bias : Nat) : 0 < threshold place bias := by
  unfold threshold
  omega

def settle (delta bias : Nat) : Nat :=
  if 455 < delta then settle (delta / 35) (bias + base) else bias + base * delta / (delta + 38)
termination_by delta

/-- The bias after a distance, which is the first or not, with a number of characters by then. -/
def adapt (delta count : Nat) (first : Bool) : Nat :=
  let delta := if first then delta / 700 else delta / 2
  settle (delta + delta / count) 0

def firstBias : Nat := 72

def firstOther : Nat := 0x80

def digitChar (d : Nat) : Char := Char.ofNat (if d < 26 then 0x61 + d else 0x30 + d - 26)

def digit? (c : Char) : Option Nat :=
  if 'a' ≤ c && c ≤ 'z' then some (c.toNat - 0x61)
  else if 'A' ≤ c && c ≤ 'Z' then some (c.toNat - 0x41)
  else if '0' ≤ c && c ≤ '9' then some (c.toNat - 0x30 + 26)
  else none

def digits (bias place n : Nat) : List Char :=
  let t := threshold place bias
  if n < t then [digitChar n]
  else digitChar (t + (n - t) % (base - t)) :: digits bias (place + 1) ((n - t) / (base - t))
termination_by n
decreasing_by
  have pos := threshold_pos place bias
  have le := Nat.div_le_self (n - threshold place bias) (base - threshold place bias)
  omega

def number? (bias place weight n : Nat) : List Char → Option (Nat × List Char)
  | [] => none
  | c :: rest =>
    match digit? c with
    | none => none
    | some d =>
      let t := threshold place bias
      if d < t then some (n + d * weight, rest)
      else number? bias (place + 1) (weight * (base - t)) (n + d * weight) rest

theorem length_of_number? {bias place weight n m : Nat} {cs rest : List Char}
    (h : number? bias place weight n cs = some (m, rest)) : rest.length < cs.length := by
  induction cs generalizing place weight n with
  | nil => simp [number?] at h
  | cons c cs ih =>
    simp only [number?] at h
    split at h
    · simp at h
    · split at h
      · simp only [Option.some.injEq, Prod.mk.injEq] at h
        simp [← h.2]
      · exact Nat.lt_succ_of_lt (ih h)

structure Progress where
  written : List Char := []
  delta : Nat := 0
  bias : Nat := firstBias
  count : Nat

def Progress.pass (plain code : Nat) (p : Progress) (n : Nat) : Progress :=
  if n < code then { p with delta := p.delta + 1 }
  else if n = code then
    { written := p.written ++ digits p.bias 0 p.delta
      delta := 0
      bias := adapt p.delta (p.count + 1) (p.count == plain)
      count := p.count + 1 }
  else p

def Progress.write (plain : Nat) (ns : List Nat) : List Nat → Nat → Progress → Progress
  | [], _, p => p
  | code :: codes, next, p =>
    let p := { p with delta := p.delta + (code - next) * (p.count + 1) }
    let p := ns.foldl (Progress.pass plain code) p
    Progress.write plain ns codes (code + 1) { p with delta := p.delta + 1 }

def encode (ns : List Nat) : List Char :=
  let plain := ns.filter (· < firstOther)
  let codes := ((ns.filter (firstOther ≤ ·)).mergeSort (· ≤ ·)).eraseDups
  let p := Progress.write plain.length ns codes firstOther { count := plain.length }
  plain.map Char.ofNat ++ (if plain.isEmpty then [] else ['-']) ++ p.written

def codeLimit : Nat := 0x110000

/-- Reads characters and puts each where it belongs among those before. -/
def insertAll (bias code place : Nat) (first : Bool) (ns : List Nat) (cs : List Char) :
    Option (List Nat) :=
  match cs with
  | [] => some ns
  | c :: rest =>
    match _h : number? bias 0 1 0 (c :: rest) with
    | none => none
    | some (delta, after) =>
      let count := ns.length + 1
      let code := code + (place + delta) / count
      let place := (place + delta) % count
      if codeLimit ≤ code then none
      else
        insertAll (adapt delta count first) code (place + 1) false
          (ns.take place ++ code :: ns.drop place) after
termination_by cs.length
decreasing_by exact length_of_number? _h

def decode? (cs : List Char) : Option (List Nat) :=
  let tail := (cs.reverse.takeWhile (· != '-')).reverse
  let plain := cs.take (cs.length - tail.length - 1)
  insertAll firstBias firstOther 0 true (plain.map Char.toNat) tail

end QuadPull.Text.Punycode
