import QuadPull.Distinct
import QuadPull.Graph.Edit
import QuadPull.Graph.Pattern
import QuadPull.Graph.TermDictionary
/-!
Graphs as rows of identifiers (`ColumnarGraph`). A row holds the identifiers of graph, subject, predicate
and object in a dictionary of terms; rows are distinct and keep the order in which they came.
-/

namespace QuadPull

structure Row where
  graph : TermId
  subject : TermId
  predicate : TermId
  object : TermId
  deriving DecidableEq, Repr

def Row.columns : List String := ["graph", "subject", "predicate", "object"]

def Row.cells (r : Row) : List TermId := [r.graph, r.subject, r.predicate, r.object]

structure Columnar where
  name : Term := .defaultGraph
  terms : TermDictionary := {}
  rows : List Row := []

namespace Columnar

def firstVar? (q : Quad) : Option String :=
  q.terms.findSome? fun
    | .var name => some name
    | _ => none

/-- What takes terms in. Those that were taken in before a failure stay. -/
abbrev Intake := ExceptT Error (StateM TermDictionary)

def take (t : Term) : Intake TermId := fun terms => terms.intern t

/-- The row of a quad (`_encode`), whose terms are taken in: the graph's first. A quad with a variable has
none, and leaves nothing behind. -/
def encode (name : Term) (q : Quad) : Intake Row := do
  let q := q.homed name
  match firstVar? q with
  | some v => throw (.storedVariable v)
  | none =>
    let graph ← take q.graph
    let subject ← take q.subject
    let predicate ← take q.predicate
    let object ← take q.object
    return { graph, subject, predicate, object }

def encodeAll (name : Term) (quads : List Quad) : Intake (List Row) := quads.mapM (encode name)

def termOf (g : Columnar) (id : TermId) : Term := (g.terms.term? id).getD .defaultGraph

def decode (g : Columnar) (r : Row) : Quad :=
  ⟨g.termOf r.subject, g.termOf r.predicate, g.termOf r.object, g.termOf r.graph⟩

def quads (g : Columnar) : List Quad := g.rows.map g.decode

def size (g : Columnar) : Nat := g.rows.length

/-- Takes quads in. If one of them cannot be stored none is, and the error says why. -/
def add (g : Columnar) (quads : List Quad) : Columnar × Except Error Unit :=
  match encodeAll g.name quads g.terms with
  | (.ok rows, terms) => ({ g with terms, rows := Distinct.pushAll id g.rows rows }, .ok ())
  | (.error e, terms) => ({ g with terms }, .error e)

def row? (g : Columnar) (q : Quad) : Option Row := do
  let q := q.homed g.name
  let subject ← g.terms.id? q.subject
  let predicate ← g.terms.id? q.predicate
  let object ← g.terms.id? q.object
  let graph ← g.terms.id? q.graph
  return ⟨graph, subject, predicate, object⟩

def remove (g : Columnar) (quads : List Quad) : Columnar :=
  { g with rows := Distinct.without id g.rows (quads.filterMap g.row?) }

def clear (g : Columnar) : Columnar := { g with rows := [] }

/-- Makes an edit. Of quads that end with a fault the terms stay; one among them that cannot be stored
comes before the fault. -/
def apply (g : Columnar) : Edit → Columnar × Except Error Unit
  | .add quads => g.add quads
  | .remove quads =>
    if quads.all fun q => (q.homed g.name).hashable then (g.remove quads, .ok ())
    else (g, .error .wrongKind)
  | .breakOff quads fault =>
    match encodeAll g.name quads g.terms with
    | (.ok _, terms) => ({ g with terms }, .error fault)
    | (.error e, terms) => ({ g with terms }, .error e)

def boundId? (g : Columnar) (bound : Option Term) : Option (Option TermId) :=
  match bound with
  | none => some none
  | some t => (g.terms.id? t).map some

def acceptsId (bound : Option TermId) (id : TermId) : Bool :=
  match bound with
  | none => true
  | some b => id = b

def find (g : Columnar) (p : Pattern) : List Quad :=
  match g.boundId? p.graph, g.boundId? p.subject, g.boundId? p.predicate, g.boundId? p.object with
  | some graph, some subject, some predicate, some object =>
    let matching := g.rows.filter fun r =>
      acceptsId graph r.graph && acceptsId subject r.subject &&
        acceptsId predicate r.predicate && acceptsId object r.object
    matching.map g.decode
  | _, _, _, _ => []

/-- Whether a pattern can be looked up. Of its terms, in the order of a row, the first that was never
taken in decides: it has to be one that could be. -/
def canFind (g : Columnar) (p : Pattern) : Bool :=
  let bound := [p.graph, p.subject, p.predicate, p.object].filterMap id
  (bound.find? fun t => (g.terms.id? t).isNone).all Term.hashable

def lookup (g : Columnar) (p : Pattern) : Except Error (List Quad) :=
  if g.canFind p then .ok (g.find p) else .error .wrongKind

def contains (g : Columnar) (q : Quad) : Bool := !(g.find (.only q)).isEmpty

def ofList (name : Term) (quads : List Quad) : Except Error Columnar :=
  let (g, outcome) := ({ name } : Columnar).add quads
  outcome.map fun _ => g

end Columnar

end QuadPull
