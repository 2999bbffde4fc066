import QuadPull.Endpoint.Host
import QuadPull.Error
import QuadPull.Number.Natural
import QuadPull.Number.Whole
import QuadPull.Text.Base64
import QuadPull.Text.Half
import QuadPull.Text.Utf8
/-!
Addresses of endpoints, as the library that sends the requests reads them:
`scheme://user@host:port/path?query#fragment`, where every part may be left out. An address without a
scheme or a host is incomplete: a request to it is sent, and fails after its reply. The user part of a
complete address is what requests authorize themselves with.
-/

namespace QuadPull

structure Address where
  scheme : List Char
  user : List Char
  host : List Char
  port : Option Int
  path : List Char
  deriving DecidableEq, Repr

namespace Address

def isComplete (a : Address) : Bool := !a.scheme.isEmpty && !a.host.isEmpty

def takesReplies (a : Address) : Bool := a.isComplete && Host.isReadAgain a.host

def isSchemeChar (c : Char) : Bool := c.isAlphanum || c == '+' || c == '.' || c == '-'

def splitScheme (cs : List Char) : List Char × List Char :=
  let name := cs.takeWhile isSchemeChar
  match cs.dropWhile isSchemeChar with
  | ':' :: rest => if name.head?.all Char.isAlpha then (name, rest) else ([], cs)
  | _ => ([], cs)

def endsAuthority (c : Char) : Bool := c == '/' || c == '?' || c == '#'

def splitAuthority : List Char → List Char × List Char
  | '/' :: '/' :: rest =>
    (rest.takeWhile fun c => !endsAuthority c, rest.dropWhile fun c => !endsAuthority c)
  | cs => ([], cs)

def splitLast? (c : Char) (cs : List Char) : Option (List Char × List Char) :=
  let rest := (cs.reverse.takeWhile (· != c)).reverse
  if cs.contains c then some (cs.take (cs.length - rest.length - 1), rest) else none

def splitUser (cs : List Char) : List Char × List Char := (splitLast? '@' cs).getD ([], cs)

def splitHost (cs : List Char) : List Char × List Char :=
  let (host, rest) :=
    match cs, splitLast? ']' cs with
    | '[' :: _, some (before, after) => (before ++ [']'], after)
    | cs, _ => (cs.takeWhile (· != ':'), cs.dropWhile (· != ':'))
  match rest with
  | ':' :: port => (host, port)
  | port => (host, port)

def defaultPort? (scheme : String) : Option Int :=
  [("ftp", 21), ("http", 80), ("https", 443), ("ws", 80), ("wss", 443)].lookup scheme

def orInvalid {α : Type} (r : Option α) : Except Error α := r.elim (.error .invalidAddress) .ok

def portOf (scheme port : String) : Except Error (Option Int) := do
  if port.isEmpty then return none
  let n ← orInvalid (Number.ofText? port)
  return if defaultPort? scheme = some n then none else some n

/-- The parts of a path without those that stay where they are, each that goes back taken together with
the part before it. The first part is kept when it is empty. `passed` has the last part first. -/
def resolveParts (passed : List (List Char)) : List (List Char) → List (List Char)
  | [] => passed.reverse
  | part :: rest =>
    if part == ['.'] then resolveParts passed rest
    else if part == ['.', '.'] then
      resolveParts (if passed == [[]] then passed else passed.drop 1) rest
    else resolveParts (part :: passed) rest

def resolve (path : List Char) : List Char :=
  ['/'].intercalate (resolveParts [] (Text.parts '/' path))

theorem resolveParts_plain (passed : List (List Char)) {parts : List (List Char)}
    (plain : ∀ part ∈ parts, part ≠ ['.'] ∧ part ≠ ['.', '.']) :
    resolveParts passed parts = passed.reverse ++ parts := by
  induction parts generalizing passed with
  | nil => simp [resolveParts]
  | cons part rest ih =>
    have ⟨stays, back⟩ := plain part List.mem_cons_self
    have rest := ih (part :: passed) fun part member => plain part (List.mem_cons_of_mem _ member)
    simp [resolveParts, stays, back, rest]

theorem resolve_plain {path : List Char}
    (plain : ∀ part ∈ Text.parts '/' path, part ≠ ['.'] ∧ part ≠ ['.', '.']) :
    resolve path = path := by
  rw [resolve, resolveParts_plain [] plain]
  exact Text.intercalate_parts '/' path

def maxLength : Nat := 65536

def writtenLength (reserved : String) (cs : List Char) : Nat :=
  Number.total ((Text.letters cs).map fun c =>
    if c.toNat < 0x80 && !reserved.toList.contains c then 1 else 3 * (Text.Utf8.bytesOf c).length)

def isWritable (path query : List Char) : Bool :=
  1 + writtenLength " \"#<>?`\x7b\x7d" (path.dropWhile (· == '/')) ≤ maxLength &&
    writtenLength " \"#<>" query ≤ maxLength

/-- Reads an address. The path of one with a scheme or a host is resolved before it is looked at. -/
def ofText (s : String) : Except Error Address := do
  let cs := s.toList
  if maxLength < (Text.numbers cs).length || cs.any (fun c => c.toNat < 0x20 || c.toNat == 0x7f) then
    throw .invalidAddress
  let (scheme, rest) := splitScheme cs
  let (authority, rest) := splitAuthority rest
  let (user, rest') := splitUser authority
  let (host, port) := splitHost rest'
  let path := rest.takeWhile fun c => c != '?' && c != '#'
  let rest := rest.drop path.length
  if !Text.isWhole (String.ofList user) then throw .unencodable
  let host ← orInvalid (Host.ofText? host)
  let port ← portOf (String.ofList scheme) (String.ofList port)
  let relative := scheme.isEmpty && user.isEmpty && host.isEmpty && port.isNone
  if relative && (path.take 2 == ['/', '/'] || path.head? == some ':') then throw .invalidAddress
  let path := if relative then path else resolve path
  if !Text.isWhole (String.ofList (path ++ rest)) then throw .unencodable
  let address : Address := { scheme, user := Text.letters user, host, port, path }
  let query := (rest.takeWhile (· != '#')).drop 1
  if !address.isComplete && !isWritable path query then throw .invalidAddress
  return address

def decoded : List Char → List UInt8
  | [] => []
  | '%' :: a :: b :: rest =>
    match Text.hexValue? a, Text.hexValue? b with
    | some x, some y => (x * 16 + y).toUInt8 :: decoded rest
    | _, _ => Text.Utf8.bytesOf '%' ++ decoded (a :: b :: rest)
  | c :: rest => Text.Utf8.bytesOf c ++ decoded rest

def authorization? (a : Address) : Option String :=
  let name := Text.Utf8.repair (decoded (a.user.takeWhile (· != ':')))
  let password := Text.Utf8.repair (decoded ((a.user.dropWhile (· != ':')).drop 1))
  if !a.isComplete || (name.isEmpty && password.isEmpty) then none
  else some ("Basic " ++ String.ofList
    (Text.Base64.encode (name ++ Text.Utf8.bytesOf ':' ++ password)))

end Address

end QuadPull
