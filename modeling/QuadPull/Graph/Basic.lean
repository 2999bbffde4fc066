import QuadPull.Endpoint.Basic
import QuadPull.Graph.ChangeSet
import QuadPull.Graph.Columnar
import QuadPull.Pull.Engine
/-!
Graphs of every kind, and what each of them offers (`find`, `quads`, `add`, `remove` and what `SyncGraph`
adds). A set of quads may be served: then it is asked as its access says, and offers no more than that.
-/

namespace QuadPull

inductive Access where
  | coroutine
  | stream
  | container
  | bare
  /-- Every answer is awaited, and lookups of one subject fail, or the listing of the whole does. -/
  | failing (subject : Option Term)
  deriving DecidableEq, Repr

def Access.takesWrites : Access → Bool
  | .coroutine | .failing _ => true
  | _ => false

inductive Graph where
  | set (g : SetGraph)
  | changes (c : ChangeSet)
  | columnar (g : Columnar)
  /-- A set that is served under a name or under none. The name of the set itself is where its quads
  are at home. -/
  | served (access : Access) (name : Option Term) (held : SetGraph)
  | remote (e : Endpoint)
  | over (name : Term) (g : Graph)
  /-- What a write has left that nobody waits for: it offers nothing. -/
  | unawaited

namespace Graph

def name? : Graph → Option Term
  | .set g => some g.name
  | .changes c => some c.name
  | .columnar g => some g.name
  | .served _ name _ => name
  | .remote e => some e.name
  | .over name _ => some name
  | .unawaited => none

def orNotOffered {α : Type} (r : Option α) : Except Error α := r.elim (.error .notOffered) .ok

def isAtHand : Graph → Bool
  | .served .coroutine _ _ | .served .stream _ _ | .served (.failing _) _ _ | .remote _ => false
  | .over _ g => g.isAtHand
  | _ => true

def isContainer : Graph → Bool
  | .served .container _ _ => true
  | .served _ _ _ | .remote _ | .unawaited => false
  | .over _ g => g.isAtHand
  | _ => true

def quads : Graph → Except Error (List Quad)
  | .set g => .ok g.quads
  | .changes c => .ok c.current.quads
  | .columnar g => .ok g.quads
  | .served (.failing none) _ _ => .error .quadsOffline
  | .served _ _ g => .ok g.quads
  | .remote e => e.quads
  | .over _ g => g.quads
  | .unawaited => .error .notOffered

def find (g : Graph) (p : Pattern) : Except Error (List Quad) :=
  match g with
  | .set g => .ok (g.find p)
  | .changes c => .ok (c.find p)
  | .columnar g => g.lookup p
  | .served (.failing (some subject)) _ g =>
    if p.subject.any (·.same subject) then .error (.lookupOffline subject) else .ok (g.find p)
  | .served _ _ g => .ok (g.find p)
  | .remote e => e.find p
  | .over _ g => g.find p
  | .unawaited => .error .notOffered

def findAtHand (g : Graph) (p : Pattern) : Except Error (List Quad) :=
  if g.isAtHand then g.find p else .error .wrongKind

def writesInPlace : Graph → Bool
  | .set _ => false
  | _ => true

def writesLater : Graph → Bool
  | .served access _ _ => access.takesWrites
  | _ => false

/-- Makes an edit (`add`, `remove`): the graph afterwards, and whether it went well. What a change set
passes on is not waited for. -/
def apply (g : Graph) (edit : Edit) : Graph × Except Error Unit :=
  match g with
  | .set s => (s.apply edit).map .set id
  | .changes c => (c.apply edit).map .changes id
  | .columnar c => (c.apply edit).map .columnar id
  | .served access name s =>
    if access.takesWrites then (s.apply edit).map (.served access name) id
    else (g, .error .notOffered)
  | .remote _ | .unawaited => (g, .error .notOffered)
  | .over name h =>
    if h.writesLater then (.over name .unawaited, .ok ()) else (h.apply edit).map (.over name) id

def add (g : Graph) (quads : List Quad) : Graph × Except Error Unit := g.apply (.add quads)

def remove (g : Graph) (quads : List Quad) : Graph × Except Error Unit := g.apply (.remove quads)

def clear : Graph → Except Error Graph
  | .changes c => .ok (.changes c.clear)
  | .columnar g => .ok (.columnar g.clear)
  | .over name _ => .ok (.over name (.set (.empty name)))
  | _ => .error .notOffered

/-- Gives the graph another name. A change set keeps its two graphs as they are named, and so does what
serves a set. -/
def rename (g : Graph) (name : Term) : Graph :=
  match g with
  | .set s => .set { s with name }
  | .changes c => .changes { c with name }
  | .columnar c => .columnar { c with name }
  | .served access _ s => .served access (some name) s
  | .remote e => .remote { e with name }
  | .over _ h => .over name h
  | .unawaited => .unawaited

def list (g : Graph) : Except Error (List Quad) :=
  if g.isContainer then g.quads else .error .wrongKind

def size : Graph → Except Error Nat
  | .columnar g => .ok g.size
  | .over _ g => g.size
  | g => do
    let quads ← g.list
    return quads.length

def contains (g : Graph) (v : Value) : Except Error Bool :=
  match g, v with
  | .set s, .term t => if t.hashable then .ok (t.quad?.any s.contains) else .error .wrongKind
  | .set _, v => if v.hashable then .ok false else .error .wrongKind
  | .changes c, .term t => .ok (t.quad?.any c.contains)
  | .columnar c, .term t =>
    match t.quad? with
    | none => .ok false
    | some q => (c.lookup (.only q)).map (!·.isEmpty)
  | .served .container _ s, .term t => .ok (t.quad?.any s.contains)
  | .over _ h, .term t =>
    match t.quad? with
    | none => .ok false
    | some q => do
      let quads ← h.findAtHand (.only q)
      return !quads.isEmpty
  | .over _ _, _ => .ok false
  | g, _ => if g.isContainer then .ok false else .error .wrongKind

def subjects (g : Graph) : Except Error (List Term) := do
  match g with
  | .over _ h => if !h.isAtHand then throw .wrongKind
  | g => if !g.isContainer then throw .notOffered
  let quads ← g.quads
  return subjectsOf quads

def kindName : Graph → String
  | .set _ => "ImmutableSetGraph"
  | .changes _ | .over _ _ => "ChangeSetGraph"
  | .columnar _ => "ColumnarGraph"
  | .served .coroutine _ _ => "AsyncGraph"
  | .served .stream _ _ => "StreamGraph"
  | .served .container _ _ => "MinimalGraph"
  | .served .bare _ _ => "BareGraph"
  | .served (.failing _) _ _ => "FailingGraph"
  | .remote _ => "SPARQLEndpointGraph"
  | .unawaited => "coroutine"

def inspect (g : Graph) : String :=
  let name := (g.name?.map Term.inspect).getD ""
  match g with
  | .set s => g.kindName ++ "(iri=" ++ name ++ ", size=" ++ toString s.quads.length ++ ")"
  | _ => g.kindName ++ "(iri=" ++ name ++ ")"

/-- Two sets are equal when they hold the same quads; any other graph equals only itself. -/
def sameSets : Graph → Graph → Bool
  | .set a, .set b => a.sameQuads b
  | _, _ => false

def bound : Graph → Nat
  | .set g | .served _ _ g => g.quads.length
  | .changes c => c.current.quads.length
  | .columnar g => g.rows.length
  | .remote e => e.bound
  | .over _ g => g.bound
  | .unawaited => 0

def pauses : Graph → Bool
  | .served .coroutine _ _ | .served (.failing _) _ _ => true
  | .over _ g => g.pauses
  | _ => false

def source (g : Graph) : Pull.Source where
  find l := g.find { subject := l.subject.given?, predicate := l.predicate }
  quads := g.quads
  bound := g.bound
  pauses := g.pauses

/-- The lookups that listing all quads costs: an endpoint knows no other way. -/
def listingCost : Graph → Nat
  | .remote _ => 1
  | _ => 0

def pullWith (g : Graph) (settings : LookupSettings) (expression : Value) (start : Option Term) :
    Except Error (SetGraph × Pull.Engine) :=
  Pull.pullWith settings (g.name?.getD .defaultGraph) g.source expression start

end Graph

end QuadPull
