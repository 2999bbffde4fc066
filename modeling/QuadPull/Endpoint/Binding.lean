import QuadPull.Error
/-!
Bindings: the terms that the rows of an answer give to their variables (`term_from_binding`). What a
binding should say in a text may be missing, or be no text.
-/

namespace QuadPull

namespace Binding

def fieldOr (fields : List (String × Document)) (key : String) : Document :=
  (fields.lookup key).getD .null

/-- A literal: a language makes it a language string, and only then a direction counts. -/
def ofLiteral (fields : List (String × Document)) : Term :=
  let lexical := fieldOr fields "value"
  let language := fieldOr fields "xml:lang"
  let datatype := fieldOr fields "datatype"
  if language.truthy then
    .literalOf lexical (.text Vocabulary.langString) language (fieldOr fields "its:dir")
  else if datatype.truthy then .literalOf lexical datatype (.text "") .null
  else .literalOf lexical (.text Vocabulary.xsdString) (.text "") .null

def unsupported (kind : Document) : Except Error Term :=
  .error (.results (.bindingKind kind.inspect))

mutual

def term : Document → Except Error Term
  | .object fields =>
    match fieldOr fields "type" with
    | .text kind =>
      if kind = "uri" then .ok (.iriOf (fieldOr fields "value"))
      else if kind = "bnode" then .ok (.blankOf (fieldOr fields "value"))
      else if kind = "literal" || kind = "typed-literal" then .ok (ofLiteral fields)
      else if kind = "triple" then tripleIn fields
      else unsupported (.text kind)
    | kind => unsupported kind
  | _ => .error .notOffered

def tripleIn : List (String × Document) → Except Error Term
  | [] => .error .wrongKind
  | (key, d) :: rest => if key = "value" then ofTriple d else tripleIn rest

def ofTriple : Document → Except Error Term
  | .object parts => do
    let s ← partOf "subject" parts
    let p ← partOf "predicate" parts
    let o ← partOf "object" parts
    return .quoted s p o .defaultGraph
  | _ => .error .wrongKind

def partOf (part : String) : List (String × Document) → Except Error Term
  | [] => .error .missing
  | (key, d) :: rest => if key = part then term d else partOf part rest

end

end Binding

abbrev Solution := List (String × Term)

namespace Solution

def ofFields : List (String × Document) → Except Error Solution
  | [] => .ok []
  | (name, d) :: rest => do
    let bound ← Binding.term d
    let others ← ofFields rest
    return (name, bound) :: others

def ofRow : Document → Except Error Solution
  | .object fields => ofFields fields
  | _ => .error .notOffered

/-- The rows of the bindings. A text or an object lists its parts, none of which is a row. -/
def ofBindings : Document → Except Error (List Solution)
  | .list rows => rows.mapM ofRow
  | .text s => if s.isEmpty then .ok [] else .error .notOffered
  | .object fields => if fields.isEmpty then .ok [] else .error .notOffered
  | _ => .error .wrongKind

def ofAnswer (url : String) (answer : Document) : Except Error (List Solution) :=
  match (answer.field? "results").bind (·.field? "bindings") with
  | some bindings => ofBindings bindings
  | none => .error (.results (.shape url))

def get (row : Solution) (name : String) : Except Error Term :=
  (row.lookup name).elim (.error .missing) .ok

end Solution

end QuadPull
