import QuadPull.Document.Basic
import QuadPull.Vocabulary
/-!
Terms and quads. A quad states that a subject has an object under a predicate, in a graph; quoted, it
is a term of its own and may stand in other quads.
-/

namespace QuadPull

structure Literal where
  lexical : String
  datatype : String := Vocabulary.xsdString
  language : String := ""
  direction : Option String := none
  deriving DecidableEq, Repr

/-- A term in which another document stands where a text should, as endpoints may tell it, or nothing
where a term should be. -/
inductive Loose where
  | nothing
  | iri (value : Document)
  | blank (label : Document)
  | literal (lexical datatype language direction : Document)
  deriving DecidableEq, Repr

inductive Term where
  | iri (value : String)
  | blank (label : String)
  | literal (l : Literal)
  | var (name : String)
  | defaultGraph
  | quoted (subject predicate object graph : Term)
  | loose (l : Loose)
  deriving DecidableEq, Inhabited, Repr

structure Quad where
  subject : Term
  predicate : Term
  object : Term
  graph : Term := .defaultGraph
  deriving DecidableEq, Repr

def Loose.hashable : Loose → Bool
  | .nothing => true
  | .iri value => value.hashable
  | .blank label => label.hashable
  | .literal lexical datatype language direction =>
    lexical.hashable && datatype.hashable && language.hashable && direction.hashable

def Loose.settled : Loose → Loose
  | .nothing => .nothing
  | .iri value => .iri value.settled
  | .blank label => .blank label.settled
  | .literal lexical datatype language direction =>
    .literal lexical.settled datatype.settled language.settled direction.settled

namespace Term

def iriOf : Document → Term
  | .text value => .iri value
  | d => .loose (.iri d)

def blankOf : Document → Term
  | .text label => .blank label
  | d => .loose (.blank d)

def optionalText? : Document → Option (Option String)
  | .null => some none
  | .text s => some (some s)
  | _ => none

def literalOf (lexical datatype language direction : Document) : Term :=
  match lexical, datatype, language, optionalText? direction with
  | .text lexical, .text datatype, .text language, some direction =>
    .literal { lexical, datatype, language, direction }
  | _, _, _, _ => .loose (.literal lexical datatype language direction)

def typed (lexical datatype : String) : Term := .literal { lexical, datatype }

def isVar : Term → Bool
  | .var _ => true
  | _ => false

def isBlank : Term → Bool
  | .blank _ | .loose (.blank _) => true
  | _ => false

def isIri : Term → Bool
  | .iri _ | .loose (.iri _) => true
  | _ => false

/-- Terms that may be subjects (`_EXPANDABLE`): recursion goes on from these. -/
def isExpandable : Term → Bool
  | .quoted .. => true
  | t => t.isIri || t.isBlank

def mentionsBlank : Term → Bool
  | .blank _ | .loose (.blank _) => true
  | .quoted s p o _ => s.mentionsBlank || p.mentionsBlank || o.mentionsBlank
  | _ => false

def kindName : Term → String
  | .iri _ => "NamedNode"
  | .blank _ => "BlankNode"
  | .literal _ => "Literal"
  | .var _ => "Variable"
  | .defaultGraph => "DefaultGraph"
  | .quoted .. => "Quad"
  | .loose .nothing => "NoneType"
  | .loose (.iri _) => "NamedNode"
  | .loose (.blank _) => "BlankNode"
  | .loose (.literal ..) => "Literal"

def value : Term → String
  | .iri value => value
  | .blank label => label
  | .literal l => l.lexical
  | .var name => name
  | .defaultGraph | .quoted .. | .loose _ => ""

def content : Term → Document
  | .loose (.iri value) => value
  | .loose (.blank label) => label
  | .loose (.literal lexical ..) => lexical
  | .loose .nothing => .null
  | t => .text t.value

def hashable : Term → Bool
  | .loose l => l.hashable
  | .quoted s p o g => s.hashable && p.hashable && o.hashable && g.hashable
  | _ => true

def settled : Term → Term
  | .loose l => .loose l.settled
  | .quoted s p o g => .quoted s.settled p.settled o.settled g.settled
  | t => t

def same (t u : Term) : Bool := t.settled = u.settled

def given? : Term → Option Term
  | .loose .nothing => none
  | t => some t

def orDefault (t : Term) : Term := (t.given?).getD .defaultGraph

def quad? : Term → Option Quad
  | .quoted s p o g => some ⟨s, p, o, g⟩
  | _ => none

end Term

namespace Quad

def quote (q : Quad) : Term := .quoted q.subject q.predicate q.object q.graph

def terms (q : Quad) : List Term := [q.subject, q.predicate, q.object, q.graph]

def hashable (q : Quad) : Bool := q.terms.all Term.hashable

def settled (q : Quad) : Quad :=
  ⟨q.subject.settled, q.predicate.settled, q.object.settled, q.graph.settled⟩

@[simp] theorem quad?_quote (q : Quad) : q.quote.quad? = some q := rfl

end Quad

end QuadPull
