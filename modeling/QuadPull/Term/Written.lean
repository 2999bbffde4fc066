import QuadPull.Document.Inspect
import QuadPull.Term.Basic
import QuadPull.Term.Escape
/-!
Three texts of a term: the one that queries are written with (`n3`), the one for readers (`display`)
and the one that messages show (`inspect`).
-/

namespace QuadPull

def quotedLexical (s : String) : String := "\"" ++ Term.escape s ++ "\""

/-- A language is written after the text, with the direction after it; a datatype other than plain
strings is named. -/
def Literal.n3 (l : Literal) : String :=
  let text := quotedLexical l.lexical
  if l.language ≠ "" then
    match l.direction with
    | some direction =>
      if direction ≠ "" then text ++ "@" ++ l.language ++ "--" ++ direction
      else text ++ "@" ++ l.language
    | none => text ++ "@" ++ l.language
  else if l.datatype = Vocabulary.xsdString then text
  else text ++ "^^<" ++ l.datatype ++ ">"

/-- The text for queries of a term whose parts are no texts. Only texts can be escaped, so a literal
without one has none. -/
def Loose.n3? : Loose → Option String
  | .nothing => none
  | .iri value => some ("<" ++ value.display ++ ">")
  | .blank label => some ("_:" ++ label.display)
  | .literal (.text lexical) datatype language direction =>
    let qualifier :=
      if language.truthy then
        "@" ++ language.display ++ if direction.truthy then "--" ++ direction.display else ""
      else if datatype = .text Vocabulary.xsdString then ""
      else "^^<" ++ datatype.display ++ ">"
    some (quotedLexical lexical ++ qualifier)
  | .literal .. => none

def Loose.display (l : Loose) : String :=
  match l with
  | .nothing => "None"
  | .iri value => value.display
  | .blank label => "[BlankNode " ++ label.display ++ "]"
  | .literal .. => (l.n3?).getD ""

def Loose.inspect : Loose → String
  | .nothing => "None"
  | .iri value => "NamedNode(value=" ++ value.inspect ++ ")"
  | .blank label => "BlankNode(value=" ++ label.inspect ++ ")"
  | .literal lexical datatype language direction =>
    "Literal(value=" ++ lexical.inspect ++ ", datatype=NamedNode(value=" ++ datatype.inspect ++
      "), language=" ++ language.inspect ++ ", direction=" ++ direction.inspect ++ ")"

namespace Term

def isWritten : Term → Bool
  | .loose l => l.n3?.isSome
  | .quoted s p o _ => s.isWritten && p.isWritten && o.isWritten
  | _ => true

def isShown : Term → Bool
  | .quoted s p o g => s.isWritten && p.isWritten && o.isWritten && g.isWritten
  | t => t.isWritten

def n3 : Term → String
  | .iri value => "<" ++ value ++ ">"
  | .blank label => "_:" ++ label
  | .literal l => l.n3
  | .var name => "?" ++ name
  | .defaultGraph => ""
  | .quoted s p o _ => "<< " ++ s.n3 ++ " " ++ p.n3 ++ " " ++ o.n3 ++ " >>"
  | .loose l => (l.n3?).getD ""

def display : Term → String
  | .iri value => value
  | .blank label => "[BlankNode " ++ label ++ "]"
  | .literal l => l.n3
  | .var name => "?" ++ name
  | .defaultGraph => "[DefaultGraph]"
  | .quoted s p o g =>
    let inner := s.n3 ++ " " ++ p.n3 ++ " " ++ o.n3
    if g = .defaultGraph then inner ++ " ." else inner ++ " " ++ g.n3 ++ " ."
  | .loose l => l.display

def inspectIri (value : String) : String := "NamedNode(value=" ++ Text.quoted value ++ ")"

def inspect : Term → String
  | .iri value => inspectIri value
  | .blank label => "BlankNode(value=" ++ Text.quoted label ++ ")"
  | .literal l =>
    "Literal(value=" ++ Text.quoted l.lexical ++ ", datatype=" ++ inspectIri l.datatype ++
      ", language=" ++ Text.quoted l.language ++ ", direction=" ++
      (l.direction.map Text.quoted).getD "None" ++ ")"
  | .var name => "Variable(value=" ++ Text.quoted name ++ ")"
  | .defaultGraph => "DefaultGraph()"
  | .quoted s p o g =>
    "Quad(subject=" ++ s.inspect ++ ", predicate=" ++ p.inspect ++ ", object=" ++ o.inspect ++
      ", graph=" ++ g.inspect ++ ")"
  | .loose l => l.inspect

end Term

def Namespace.inspect (ns : Namespace) : String := "Namespace(" ++ Text.quoted ns.base ++ ")"

end QuadPull
