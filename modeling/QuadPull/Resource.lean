import QuadPull.Graph.Basic
import QuadPull.Value.Conversion
/-!
Resources: the properties of one node, read from a graph as native values (`Resource.get_all`, `entries`),
and the edits that change them (`set`, `set_all`, `delete`). Named nodes among the values are handles of
their own resources.
-/

namespace QuadPull.Resource

def existing (g : Graph) (node : Term) (predicate : Option Term) : Except Error (List Quad) :=
  g.findAtHand { subject := node.given?, predicate := predicate.bind Term.given? }

def valueOf (t : Term) : Except Error Value := if t.isIri then .ok (.handle t) else t.toValue

def termOf : Value → Except Error Term
  | .handle node => .ok node
  | v => Term.ofValue v

def getAll (g : Graph) (node : Term) (predicate : Option Term) : Except Error (List Value) := do
  let quads ← existing g node predicate
  quads.mapM fun q => valueOf q.object

def get? (g : Graph) (node : Term) (predicate : Option Term) : Except Error (Option Value) := do
  let quads ← existing g node predicate
  match quads with
  | [] => return none
  | q :: _ => some <$> valueOf q.object

def has (g : Graph) (node : Term) (predicate : Option Term) : Except Error Bool := do
  let quads ← existing g node predicate
  return !quads.isEmpty

def entries (g : Graph) (node : Term) : Except Error (List (Term × Value)) := do
  let quads ← existing g node none
  quads.mapM fun q => (valueOf q.object).map (q.predicate, ·)

def deletion (g : Graph) (node : Term) (predicate : Option Term) : Except Error (List Edit) := do
  let quads ← existing g node predicate
  return if quads.isEmpty then [] else [.remove quads]

def termsOf : List Value → List Term × Option Error
  | [] => ([], none)
  | v :: rest =>
    match termOf v with
    | .ok t => (termsOf rest).map (t :: ·) id
    | .error e => ([], some e)

def addition (node predicate : Term) (values : List Value) : Edit :=
  let (terms, fault) := termsOf values
  let quads : List Quad := terms.map fun t => { subject := node, predicate, object := t }
  match fault with
  | none => .add quads
  | some e => .breakOff quads e

/-- The edits that replace the values of a predicate. The old ones are out before the new ones are
converted, and stay out when one of those has no term. -/
def replacement (g : Graph) (node predicate : Term) (values : List Value) :
    Except Error (List Edit) := do
  let edits ← deletion g node (some predicate)
  return edits ++ [addition node predicate values]

/-- A resource equals the resources of its node, and its node when that has a name. -/
def equals (node : Term) : Value → Bool
  | .handle other => node.same other
  | .term t => t.isIri && node.same t
  | _ => false

end QuadPull.Resource
