import QuadPull.Term.Basic
/-!
A factory of terms (`DataFactory`). Blank nodes without a label are numbered under a stem of the factory's
own.
-/

namespace QuadPull

structure Factory where
  stem : String := "bnode_"
  next : Nat := 0
  deriving DecidableEq, Repr

namespace Factory

/-- A blank node with the label given, or with the next number when there is none. -/
def blankNode (f : Factory) (label : Option String) : Term × Factory :=
  match label with
  | some label =>
    if label ≠ "" then (.blank label, f)
    else (.blank (f.stem ++ toString f.next), { f with next := f.next + 1 })
  | none => (.blank (f.stem ++ toString f.next), { f with next := f.next + 1 })

end Factory

inductive Qualifier where
  | plain
  | datatype (iri : String)
  | language (tag : String) (direction : Option String)
  deriving DecidableEq, Repr

def Literal.qualified (lexical : String) : Qualifier → Literal
  | .plain => { lexical }
  | .datatype iri => { lexical, datatype := iri }
  | .language tag direction =>
    { lexical, datatype := Vocabulary.langString, language := tag,
      direction := direction.filter (· ≠ "") }

end QuadPull
