/-!
Well-known vocabularies, and the namespaces that mint names under a base.
-/

namespace QuadPull

structure Namespace where
  base : String
  deriving DecidableEq, Repr

namespace Namespace

def name (ns : Namespace) (localName : String) : String := ns.base ++ localName

/-- Names that a member access may mint: those with an underscore in front are kept back. -/
def member? (ns : Namespace) (localName : String) : Option String :=
  if localName.startsWith "_" then none else some (ns.name localName)

def description : String :=
  "\n    Mints NamedNodes under a base IRI.\n\n    Usage:" ++
    "\n        FOAF = Namespace(\"http://xmlns.com/foaf/0.1/\")" ++
    "\n        FOAF.name         # NamedNode(\"http://xmlns.com/foaf/0.1/name\")" ++
    "\n        FOAF[\"knows\"]     # NamedNode(\"http://xmlns.com/foaf/0.1/knows\")\n    "

def covers (ns : Namespace) (iri : String) : Bool := iri.startsWith ns.base

end Namespace

namespace Vocabulary

def xsd : Namespace := ⟨"http://www.w3.org/2001/XMLSchema#"⟩
def rdf : Namespace := ⟨"http://www.w3.org/1999/02/22-rdf-syntax-ns#"⟩
def rdfs : Namespace := ⟨"http://www.w3.org/2000/01/rdf-schema#"⟩
def owl : Namespace := ⟨"http://www.w3.org/2002/07/owl#"⟩
def dc : Namespace := ⟨"http://purl.org/dc/elements/1.1/"⟩
def dcterms : Namespace := ⟨"http://purl.org/dc/terms/"⟩
def foaf : Namespace := ⟨"http://xmlns.com/foaf/0.1/"⟩
def skos : Namespace := ⟨"http://www.w3.org/2004/02/skos/core#"⟩
def vcard : Namespace := ⟨"http://www.w3.org/2006/vcard/ns#"⟩

def named : List (String × Namespace) :=
  [("XSD", xsd), ("RDF", rdf), ("RDFS", rdfs), ("OWL", owl), ("DC", dc), ("DCTERMS", dcterms),
    ("FOAF", foaf), ("SKOS", skos), ("VCARD", vcard)]

def abbreviations : List (String × String) :=
  [("xsd", xsd.base), ("rdf", rdf.base), ("rdfs", rdfs.base), ("owl", owl.base)]

def xsdString : String := xsd.name "string"
def langString : String := rdf.name "langString"
def xsdBoolean : String := xsd.name "boolean"
def xsdInteger : String := xsd.name "integer"
def xsdDecimal : String := xsd.name "decimal"
def xsdDateTime : String := xsd.name "dateTime"
def xsdDate : String := xsd.name "date"

def integerTypes : List String :=
  ["integer", "int", "long", "short", "byte", "nonNegativeInteger", "positiveInteger",
    "nonPositiveInteger", "negativeInteger", "unsignedLong", "unsignedInt", "unsignedShort",
    "unsignedByte"].map xsd.name

def fractionalTypes : List String := ["decimal", "double", "float"].map xsd.name

end Vocabulary

end QuadPull
