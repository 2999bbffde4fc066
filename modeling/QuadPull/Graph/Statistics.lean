import QuadPull.Graph.Columnar
/-!
Counts of a columnar graph (`statistics`), read off its identifiers.
-/

namespace QuadPull

structure Statistics where
  quads : Nat
  subjects : Nat
  predicates : Nat
  objects : Nat
  literals : Nat
  blankNodes : Nat
  quotedTriples : Nat
  deriving DecidableEq, Repr

def Statistics.counts (s : Statistics) : List (String × Nat) :=
  [("quad_count", s.quads), ("subject_count", s.subjects), ("predicate_count", s.predicates),
    ("object_count", s.objects), ("literal_count", s.literals), ("blank_node_count", s.blankNodes),
    ("quoted_triple_count", s.quotedTriples)]

def distinctCount (ids : List TermId) : Nat := (Distinct.ofList id ids).length

def Columnar.countEither (g : Columnar) (k : TermKind) : Nat :=
  g.rows.countP fun r => TermId.inRange k r.subject || TermId.inRange k r.object

def Columnar.statistics (g : Columnar) : Statistics where
  quads := g.rows.length
  subjects := distinctCount (g.rows.map (·.subject))
  predicates := distinctCount (g.rows.map (·.predicate))
  objects := distinctCount (g.rows.map (·.object))
  literals := g.rows.countP fun r => TermId.inRange .literal r.object
  blankNodes := g.countEither .blank
  quotedTriples := g.countEither .quoted

end QuadPull
