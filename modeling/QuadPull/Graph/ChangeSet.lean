import QuadPull.Graph.SetGraph
/-!
Change sets (`ChangeSetGraph`): a graph as it was, as it is, and the difference, which can be replayed on
another graph.
-/

namespace QuadPull

structure ChangeSet where
  name : Term
  base : SetGraph
  current : SetGraph

structure Delta where
  added : List Quad
  removed : List Quad

namespace ChangeSet

def ofGraph (g : SetGraph) : ChangeSet := ⟨g.name.orDefault, g, g⟩

def add (c : ChangeSet) (quads : List Quad) : ChangeSet :=
  { c with current := c.current.add quads }

def remove (c : ChangeSet) (quads : List Quad) : ChangeSet :=
  { c with current := c.current.remove quads }

def clear (c : ChangeSet) : ChangeSet := { c with current := .empty c.name }

def apply (c : ChangeSet) (edit : Edit) : ChangeSet × Except Error Unit :=
  let (current, outcome) := c.current.apply edit
  ({ c with current }, outcome)

def find (c : ChangeSet) (p : Pattern) : List Quad := c.current.find p

def contains (c : ChangeSet) (q : Quad) : Bool := !(c.find (.only q)).isEmpty

/-- What is there and was not, and what was there and is not (`added`, `removed`). -/
def delta (c : ChangeSet) : Delta where
  added := Distinct.without Quad.settled c.current.quads c.base.quads
  removed := Distinct.without Quad.settled c.base.quads c.current.quads

end ChangeSet

/-- The edits that replay a difference (`apply_delta`): the added quads are taken in and then the removed
ones out. An empty half is left out. -/
def Delta.edits (d : Delta) : List Edit :=
  (if d.added.isEmpty then [] else [.add d.added]) ++
    (if d.removed.isEmpty then [] else [.remove d.removed])

end QuadPull
