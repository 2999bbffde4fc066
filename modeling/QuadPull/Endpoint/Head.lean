import QuadPull.Endpoint.Address
import QuadPull.Settings.Connection
/-!
Heads of requests: what is said of every query to an endpoint beside its text (`request_headers`), and
whether a request can be made at all.
-/

namespace QuadPull

structure Head where
  accept : Option String
  authorization : Option String
  takesReplies : Bool
  host : Option (List Char)
  deriving DecidableEq, Repr

namespace Head

def isPlain (s : String) : Bool := s.toList.all fun c => c.toNat < 0x80

def plainText (s : String) : Except Error String :=
  if isPlain s then .ok s else .error .unencodable

def fieldName : Value → Except Error String
  | .text s => plainText s
  | _ => .error .notOffered

def fieldText : Value → Except Error String
  | .text s => plainText s
  | _ => .error .wrongKind

def field (f : Value × Value) : Except Error (String × String) := do
  let name ← fieldName f.1
  let text ← fieldText f.2
  return (name, text)

def headerText (fields : List (String × String)) (name : String) : Option String :=
  let texts := (fields.filter fun f => f.1.map Number.lowerAscii = name).map (·.2)
  if texts.isEmpty then none else some (", ".intercalate texts)

/-- The head of the requests under some settings. The headers are collected, then the address is read,
then the headers are written; the user of the address counts more than a header. -/
def ofSettings (s : ConnectionSettings) : Except Error Head := do
  let headers ← s.requestHeaders
  let address ←
    match s.url with
    | .text url => Address.ofText url
    | _ => .error .wrongKind
  let fields ← headers.mapM field
  return {
    accept := headerText fields "accept"
    authorization := address.authorization?.or (headerText fields "authorization")
    takesReplies := address.takesReplies
    host :=
      if address.isComplete && (headerText fields "host").isNone then some address.host else none }

/-- Checks the host that a request names: the labels of a coded name stand for something, and no zone
is beyond ASCII. -/
def checkHost (head : Head) : Except Error Unit :=
  match head.host with
  | none => .ok ()
  | some host =>
    match Host.checkName host with
    | .error fault => .error (.hostName fault)
    | .ok () => if host.all (·.toNat < 0x80) then .ok () else .error .unencodable

end Head

end QuadPull
