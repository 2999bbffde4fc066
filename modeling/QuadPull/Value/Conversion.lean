import QuadPull.Calendar.Reader
import QuadPull.Document.Native
import QuadPull.Value.Reading
/-!
Native values as terms and back (`from_py`, `to_py`, `_strip_zulu`). A value becomes the literal of its
kind, and a term stays itself; a literal becomes the value that its datatype says, or its own text when it
cannot.
-/

namespace QuadPull

def Term.ofValue : Value → Except Error Term
  | .term t => .ok t
  | .bool b => .ok (typed (if b then "true" else "false") Vocabulary.xsdBoolean)
  | .int n => do
    let s ← inspectInt n
    return typed s Vocabulary.xsdInteger
  | .double d _ =>
    match d.integer? with
    | some n => do
      let s ← inspectInt n
      return typed s Vocabulary.xsdInteger
    | none => .ok (typed d.toText Vocabulary.xsdDecimal)
  | .decimal d _ => .ok (typed d.toText Vocabulary.xsdDecimal)
  | .moment m => .ok (typed (String.ofList m.iso) Vocabulary.xsdDateTime)
  | .date d => .ok (typed (String.ofList d.iso) Vocabulary.xsdDate)
  | v => do
    let s ← v.display
    return typed s Vocabulary.xsdString

def zuluAsOffset (s : String) : String :=
  match s.toList.reverse with
  | 'Z' :: rest => String.ofList (rest.reverse ++ ['+', '0', '0', ':', '0', '0'])
  | _ => s

/-- A boolean is true when it says `true` or `1`, and false whatever else it says. -/
def readBool (s : String) : Bool :=
  let t := Text.trim s
  t == "true" || t == "1"

def Literal.value? (l : Literal) : Option Value :=
  if Vocabulary.integerTypes.contains l.datatype then (Number.ofText? l.lexical).map .int
  else if Vocabulary.fractionalTypes.contains l.datatype then
    (Number.Double.ofText? l.lexical).map (.double ·)
  else if l.datatype = Vocabulary.xsdBoolean then some (.bool (readBool l.lexical))
  else if l.datatype = Vocabulary.xsdDateTime then
    (Calendar.Moment.ofIso? (zuluAsOffset l.lexical)).map .moment
  else if l.datatype = Vocabulary.xsdDate then (Calendar.Date.ofIso? l.lexical).map .date
  else none

def Literal.toValue (l : Literal) : Value := (l.value?).getD (.text l.lexical)

def orItself {α : Type} (v : Value) (read : Except Error α) (toValue : α → Value) :
    Except Error Value :=
  match read with
  | .ok a => .ok (toValue a)
  | .error .badValue => .ok v
  | .error e => .error e

/-- The native value of a literal of a datatype whose lexical form is no text. Numbers may be read as
others, and nothing else can be read. -/
def Loose.readAs (lexical : Value) (datatype : String) : Except Error Value :=
  if Vocabulary.integerTypes.contains datatype then orItself lexical lexical.toInt .int
  else if Vocabulary.fractionalTypes.contains datatype then orItself lexical lexical.toDouble (.double ·)
  else if datatype = Vocabulary.xsdBoolean || datatype = Vocabulary.xsdDateTime then
    .error .notOffered
  else if datatype = Vocabulary.xsdDate then .error .wrongKind
  else .ok lexical

def Loose.toValue : Loose → Except Error Value
  | .literal (.text lexical) (.text datatype) _ _ =>
    .ok ({ lexical, datatype } : Literal).toValue
  | .literal lexical (.text datatype) _ _ => Loose.readAs lexical.toValue datatype
  | .literal lexical datatype _ _ =>
    if datatype.hashable then .ok lexical.toValue else .error .wrongKind
  | .nothing => .ok .absent
  | l => .ok (.term (.loose l))

def Term.toValue : Term → Except Error Value
  | .literal l => .ok l.toValue
  | .loose l => l.toValue
  | t => .ok (.term t)

end QuadPull
