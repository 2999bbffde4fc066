import QuadPull.Distinct
import QuadPull.Pull.Compile
import QuadPull.Pull.Inquiry
import QuadPull.Pull.Plan
import QuadPull.Pull.Satisfies
/-!
Evaluation of plans (`PullEngine.evaluate`, `_specifier`, `_constrained`, `_nested`, `_recurse`). A level
at a subject is rejected, or contributes the quads that its specifiers select; what a nested level rejects
takes the link to it along.
-/

namespace QuadPull.Pull

def found (quads : List Quad) : Inquiry := .done (.ok (some quads))

def allFound (findings : List Finding) : List (List Quad) := findings.map (·.getD [])

def constrained (predicate : Term) (value : Value) (s : Term) : Inquiry :=
  .ask ⟨s, some predicate⟩ fun quads =>
    found (Distinct.ofList Quad.settled (quads.filter fun q => satisfies q.object value))

structure Search where
  met : List Term
  frontier : List Term
  quads : List Quad := []

namespace Search

def start (s : Term) : Search := { met := [s], frontier := [s] }

/-- Comes across a quad. Its object is met, and the search goes on from it when it was not met before
and can be a subject. -/
def visit (b : Search) (q : Quad) : Search :=
  let quads := Distinct.push Quad.settled b.quads q
  if Distinct.holds Term.settled b.met q.object then { b with quads }
  else
    { met := b.met ++ [q.object]
      frontier := if q.object.isExpandable then b.frontier ++ [q.object] else b.frontier
      quads }

def next (b : Search) (found : List Quad) : Search := found.foldl visit { b with frontier := [] }

end Search

/-- Breadth first search along a predicate (`_recurse`), by rounds. -/
def closure (predicate : Term) : Nat → Search → Inquiry
  | 0, b => found b.quads
  | rounds + 1, b =>
    if b.frontier.isEmpty then found b.quads
    else
      .gather (b.frontier.map fun node => .fetch ⟨node, some predicate⟩) fun answers =>
        closure predicate rounds (b.next (allFound answers).flatten)

/-- One level at a subject (`evaluate`), given what its specifiers other than filters contribute there.
The subject is rejected when a filter finds nothing; otherwise the filters are told apart from the others.
-/
def level (strict : Bool) (plan : Plan) (parts : List Inquiry) (s : Term) : Inquiry :=
  let filters := Plan.filters plan strict
  let constraints := filters.filterMap Spec.constraint?
  .gather (constraints.map fun f => constrained f.1 f.2 s) fun filtered =>
    let filtered := allFound filtered
    if filtered.any List.isEmpty then .done (.ok none)
    else
      match Plan.tellApart [] filters with
      | .error e => .done (.error e)
      | .ok () =>
        .gather parts fun contributed =>
          found (Distinct.union Quad.settled (filtered ++ allFound contributed))

/-- The links whose object was accepted (`_nested`), each followed by what its object contributes. -/
def keepLinks (links : List Quad) (findings : List Finding) : List Quad :=
  Distinct.union Quad.settled ((links.zip findings).filterMap fun f => f.2.map (f.1 :: ·))

def refused (item : Value) : Inquiry := .done (refuse .unsupported item)

section

variable (strict : Bool) (rounds : Nat)

mutual

def contributions (plan : Plan) : List Spec → Term → List Inquiry
  | [], _ => []
  | spec :: rest, s =>
    if Plan.filtersBy plan strict spec then contributions plan rest s
    else contribution spec s :: contributions plan rest s

def contribution : Spec → Term → Inquiry
  | .property p, s =>
    .ask ⟨s, some p⟩ fun quads => found (Distinct.ofList Quad.settled quads)
  | .wildcard, s => .ask ⟨s, none⟩ fun quads => found (Distinct.ofList Quad.settled quads)
  | .constraint p v, s => constrained p v s
  | .nested p specs, s =>
    .ask ⟨s, some p⟩ fun links =>
      .gather (links.map fun link =>
        level strict specs (contributions specs specs link.object) link.object) fun findings =>
          found (keepLinks links findings)
  | .recursive p, s =>
    if s.hashable then closure p rounds (.start s) else .done (.error .wrongKind)
  | .raw item, _ => refused item

end

def evaluate (plan : Plan) (s : Term) : Inquiry :=
  level strict plan (contributions strict rounds plan plan s) s

def select (plan : Plan) (starts : List Term) : Inquiry :=
  .gather (starts.map (evaluate strict rounds plan)) fun findings =>
    found (Distinct.union Quad.settled (findings.filterMap id))

end

end QuadPull.Pull
