import QuadPull.Term.Basic
/-!
Patterns of quads (`matches`): a position that is not given matches every term.
-/

namespace QuadPull

structure Pattern where
  subject : Option Term := none
  predicate : Option Term := none
  object : Option Term := none
  graph : Option Term := none
  deriving DecidableEq, Repr

def accepts (bound : Option Term) (t : Term) : Bool :=
  match bound with
  | none => true
  | some b => t.settled = b.settled

@[simp] theorem accepts_none (t : Term) : accepts none t = true := rfl

@[simp] theorem accepts_some {b t : Term} : accepts (some b) t = true ↔
    t.settled = b.settled := by simp [accepts]

def Pattern.matchesQuad (p : Pattern) (q : Quad) : Bool :=
  accepts p.subject q.subject && accepts p.predicate q.predicate &&
    accepts p.object q.object && accepts p.graph q.graph

def Pattern.only (q : Quad) : Pattern :=
  ⟨q.subject.given?, q.predicate.given?, q.object.given?, q.graph.given?⟩

theorem accepts_given? {t u : Term} (h : t ≠ .loose .nothing) :
    accepts t.given? u = true ↔ u.settled = t.settled := by
  unfold Term.given?
  split
  · exact absurd rfl h
  · exact accepts_some

theorem Pattern.matchesQuad_only {q r : Quad} (h : ∀ t ∈ q.terms, t ≠ .loose .nothing) :
    (Pattern.only q).matchesQuad r = true ↔ r.settled = q.settled := by
  cases q
  cases r
  simp only [Quad.terms, List.mem_cons, List.not_mem_nil, or_false, forall_eq_or_imp,
    forall_eq] at h
  obtain ⟨hs, hp, ho, hg⟩ := h
  simp [Pattern.only, Pattern.matchesQuad, Quad.settled, and_assoc, accepts_given? hs, accepts_given? hp,
    accepts_given? ho, accepts_given? hg]

/-- A quad of the default graph belongs to the graph that takes it in (`_in_graph`). -/
def Quad.homed (name : Term) (q : Quad) : Quad :=
  if q.graph = .defaultGraph then { q with graph := name } else q

end QuadPull
