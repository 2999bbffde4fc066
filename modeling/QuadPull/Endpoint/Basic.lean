import QuadPull.Distinct
import QuadPull.Document.Reader
import QuadPull.Endpoint.Binding
import QuadPull.Endpoint.Head
import QuadPull.Graph.Pattern
/-!
Endpoints: graphs that answer each pattern to one query (`build_find_query`, `find`). What an endpoint
says to the text of a query is fixed; who sends the query is left to the client.
-/

namespace QuadPull

inductive Body where
  | document (d : Document)
  | text (s : String)
  | missing

/-- Whether a body can be sent at all: a text holds no halves alone, and a document is written so that
it needs none. -/
def Body.check : Body → Except Error Unit
  | .text s => if Text.isWhole s then .ok () else .error .unencodable
  | .document _ => .ok ()
  | .missing => .error .missing

def Body.read : Body → Except Error Document
  | .document d => .ok d
  | .missing => .error .missing
  | .text s => do
    let s ← (Text.reread? s).elim (.error .undecodable) .ok
    Document.ofText s

inductive Response where
  | reply (status : Option Int) (body : Body)
  | failure (cause : String)

namespace Response

def isSuccess (status : Int) : Bool := 200 ≤ status && status ≤ 299

/-- The document of a successful reply, for a request to an address whose replies are taken or not. One
that is not taken is refused, whatever its status. -/
def document (taken : Bool) : Response → Except Error Document
  | .reply status body => do
    body.check
    if !taken then throw .badValue
    let status ← status.elim (.error .wrongKind) .ok
    if isSuccess status then body.read else throw (.status status)
  | .failure cause => .error (.transport cause)

def empty : Response :=
  .reply (some 200) (.document (.object [("results", .object [("bindings", .list [])])]))

def size (r : Response) : Nat :=
  match r.document true with
  | .ok d =>
    match (d.field? "results").bind (·.field? "bindings") with
    | some (.list rows) => rows.length
    | _ => 0
  | .error _ => 0

end Response

structure Endpoint where
  name : Term
  settings : ConnectionSettings
  responses : List (String × Response)
  fallback : Response := .empty

namespace Endpoint

/-- The graph that a lookup is about (`_context`): the endpoint's own unless another is named. -/
def context (e : Endpoint) : Option Term → Term
  | none | some .defaultGraph => e.name
  | some g => g

def slot (name : String) (bound : Option Term) : String := bound.elim ("?" ++ name) Term.n3

def query (e : Endpoint) (p : Pattern) : String :=
  let triple := slot "s" p.subject ++ " " ++ slot "p" p.predicate ++ " " ++ slot "o" p.object
  let g := e.context p.graph
  if g.isIri then "SELECT * WHERE \x7b GRAPH " ++ g.n3 ++ " \x7b " ++ triple ++ " \x7d \x7d"
  else "SELECT * WHERE \x7b " ++ triple ++ " \x7d"

def queryFor (e : Endpoint) (p : Pattern) : Except Error String :=
  let written := [p.subject, p.predicate, p.object].all fun bound => bound.all Term.isWritten
  if written then .ok (e.query p) else .error .notOffered

/-- A pattern that no query can ask (`_mentions_blank_node`): the labels of blank nodes mean nothing to
the endpoint. The graph that is asked about is not looked at. -/
def unaskable (p : Pattern) : Bool :=
  [p.subject, p.predicate, p.object].any fun bound => bound.any Term.mentionsBlank

def respond (e : Endpoint) (query : String) : Response :=
  (e.responses.lookup query).getD e.fallback

def address (e : Endpoint) : String :=
  match e.settings.url.display with
  | .ok s => s
  | .error _ => ""

def solutions (e : Endpoint) (head : Head) (query : String) : Except Error (List Solution) := do
  let answer ← (e.respond query).document head.takesReplies
  Solution.ofAnswer e.address answer

def position (bound : Option Term) (row : Solution) (name : String) : Except Error Term :=
  match bound with
  | some t => .ok t
  | none => row.get name

def quadOf (e : Endpoint) (p : Pattern) (row : Solution) : Except Error Quad := do
  let subject ← position p.subject row "s"
  let predicate ← position p.predicate row "p"
  let object ← position p.object row "o"
  let q : Quad := { subject, predicate, object, graph := e.context p.graph }
  if q.hashable then return q else throw .wrongKind

def quadsOf (e : Endpoint) (p : Pattern) (rows : List Solution) : Except Error (List Quad) := do
  let quads ← rows.mapM (e.quadOf p)
  return Distinct.ofList Quad.settled quads

/-- The head of the request with a query. The host is checked last, after the query, which holds no
halves alone. -/
def headFor (e : Endpoint) (query : String) : Except Error Head := do
  let head ← Head.ofSettings e.settings
  if !Text.isWhole query then throw .unencodable
  head.checkHost
  return head

def find (e : Endpoint) (p : Pattern) : Except Error (List Quad) :=
  if unaskable p then .ok []
  else do
    let query ← e.queryFor p
    let head ← e.headFor query
    let rows ← e.solutions head query
    e.quadsOf p rows

def quads (e : Endpoint) : Except Error (List Quad) := e.find {}

def bound (e : Endpoint) : Nat := Number.total (e.responses.map fun r => r.2.size) + e.fallback.size

end Endpoint

end QuadPull
