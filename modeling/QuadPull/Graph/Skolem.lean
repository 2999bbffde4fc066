import QuadPull.Graph.ChangeSet
/-!
Fresh names for blank nodes (`skolemize`). Every label of a subject or object gets the next number under a
stem; labels are met in the order of the quads, a subject before its object.
-/

namespace QuadPull.Skolem

structure Naming where
  stem : String
  next : Nat
  names : List (Term × String) := []

def Naming.nameOf (n : Naming) (node : Term) : String × Naming :=
  match n.names.find? fun known => known.1.same node with
  | some (_, name) => (name, n)
  | none =>
    let name := n.stem ++ toString n.next
    (name, { n with next := n.next + 1, names := (node, name) :: n.names })

def Naming.rename (n : Naming) (t : Term) : Term × Naming :=
  if t.isBlank then let (name, n) := n.nameOf t; (.iri name, n) else (t, n)

def Naming.renameQuad (n : Naming) (q : Quad) : Quad × Naming :=
  let (subject, n) := n.rename q.subject
  let (object, n) := n.rename q.object
  ({ q with subject, object }, n)

def isRenamed (q : Quad) : Bool := q.subject.isBlank || q.object.isBlank

def step (state : ChangeSet × Naming) (q : Quad) : ChangeSet × Naming :=
  let (changes, naming) := state
  if isRenamed q then
    let (renamed, naming) := naming.renameQuad q
    ((changes.add [renamed]).remove [q], naming)
  else state

/-- The names of a named graph are put under its own, which has to be a text. -/
def stemIn (name : Term) (stem : String) : Except Error String :=
  match name with
  | .iri value => .ok (value ++ stem)
  | name => if name.isIri then .error .wrongKind else .ok stem

/-- The changes that give every blank node of a graph a name under a stem (`skolemize`), and the number
that follows. The quads have to be members of a set. -/
def changes (name : Term) (quads : List Quad) (stem : String) (next : Nat) :
    Except Error (Delta × Nat) := do
  let g ← SetGraph.ofMembers name quads
  if !g.canHold (quads.filter isRenamed) then throw .wrongKind
  let (changes, naming) := quads.foldl step (ChangeSet.ofGraph g, { stem, next })
  return (changes.delta, naming.next)

end QuadPull.Skolem
