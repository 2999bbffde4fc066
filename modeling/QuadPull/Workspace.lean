import QuadPull.Graph.Basic
import QuadPull.Graph.Skolem
import QuadPull.Resource
/-!
Workspaces: graphs under numbers, and the number that the next fresh name gets (`_skolem_counter`).
Writing to a graph gives the number of the result: its own where writing changes the graph, a new one
where it does not.

A change set shares its two graphs with whoever has their numbers: to give one of them another name is
seen through the change set too.
-/

namespace QuadPull

inductive Entry where
  | graph (g : Graph)
  | changes (name : Term) (base current : Nat)

structure Workspace where
  entries : List Entry := []
  nextName : Nat := 0

namespace Workspace

def graphWithin (w : Workspace) : Nat → Nat → Except Error Graph
  | 0, _ => .error .missing
  | steps + 1, id =>
    match w.entries[id]? with
    | none => .error .missing
    | some (.graph g) => .ok g
    | some (.changes name base current) => do
      let base ← w.graphWithin steps base
      let current ← w.graphWithin steps current
      match base, current with
      | .set base, .set current => return .changes { name, base, current }
      | _, _ => return .over name current

/-- The graph of a number. No change set leads back to itself, so no chain of them is longer than the
workspace. -/
def graph (w : Workspace) (id : Nat) : Except Error Graph := w.graphWithin w.entries.length id

def keepEntry (w : Workspace) (e : Entry) : Workspace × Nat :=
  ({ w with entries := w.entries ++ [e] }, w.entries.length)

def keep (w : Workspace) (g : Graph) : Workspace × Nat := w.keepEntry (.graph g)

def put (w : Workspace) (id : Nat) (e : Entry) : Workspace :=
  { w with entries := w.entries.set id e }

abbrev At := Workspace × Nat

/-- Goes to the result of a write at once: one that must be waited for is left as it is begun. -/
def atOnce (write : At → At × Except Error Unit) (place : At) : At × Except Error Unit :=
  match place.1.entries[place.2]? with
  | some (.graph g) => if g.writesLater then (place.1.keep .unawaited, .ok ()) else write place
  | _ => write place

/-- Makes an edit to the graph of a number. A change set passes it on to the graph as it is, and takes
the result for that; it waits for none. -/
def applyWithin : Nat → At → Edit → At × Except Error Unit
  | 0, place, _ => (place, .error .missing)
  | steps + 1, (w, id), edit =>
    match w.entries[id]? with
    | none => ((w, id), .error .missing)
    | some (.graph g) =>
      let (result, outcome) := g.apply edit
      if g.writesInPlace then ((w.put id (.graph result), id), outcome)
      else
        match outcome with
        | .ok () => (w.keep result, .ok ())
        | .error e => ((w, id), .error e)
    | some (.changes name base current) =>
      let ((w, result), outcome) :=
        atOnce (fun place => applyWithin steps place edit) (w, current)
      ((w.put id (.changes name base result), id), outcome)

def apply (place : At) (edit : Edit) : At × Except Error Unit :=
  applyWithin place.1.entries.length place edit

def applyHere (place : At) (edit : Edit) : At × Except Error Unit :=
  let ((w, _), outcome) := apply place edit
  ((w, place.2), outcome)

def clear (w : Workspace) (id : Nat) : Except Error Workspace :=
  match w.entries[id]? with
  | none => .error .missing
  | some (.graph g) => do
    let cleared ← g.clear
    return w.put id (.graph cleared)
  | some (.changes name base _) =>
    let (w, current) := w.keep (.set (.empty name))
    .ok (w.put id (.changes name base current))

def rename (w : Workspace) (id : Nat) (name : Term) : Except Error Workspace :=
  match w.entries[id]? with
  | none => .error .missing
  | some (.graph .unawaited) => .error .notOffered
  | some (.graph g) => .ok (w.put id (.graph (g.rename name)))
  | some (.changes _ base current) => .ok (w.put id (.changes name base current))

def changes (w : Workspace) (id : Nat) : Except Error ChangeSet :=
  match w.graph id with
  | .ok (.changes c) => .ok c
  | .ok _ => .error .notOffered
  | .error e => .error e

def versions (w : Workspace) (id : Nat) : Except Error (Nat × Nat) :=
  match w.entries[id]? with
  | none => .error .missing
  | some (.graph _) => .error .notOffered
  | some (.changes _ base current) => .ok (base, current)

def changesOver (w : Workspace) : Option Nat → Except Error At
  | none =>
    let (w, base) := w.keep (.set (.empty .defaultGraph))
    .ok (w.keepEntry (.changes .defaultGraph base base))
  | some id => do
    let g ← w.graph id
    let name ← Graph.orNotOffered g.name?
    return w.keepEntry (.changes name.orDefault id id)

def replay (place : At) (d : Delta) : At × Except Error Unit := Edit.run apply place d.edits

def skolemize (place : At) (stem : String) : At × Except Error Unit :=
  let (w, id) := place
  let found := do
    let g ← w.graph id
    let name ← Graph.orNotOffered g.name?
    let stem ← Skolem.stemIn name stem
    let quads ← g.quads
    Skolem.changes name quads stem w.nextName
  match found with
  | .error e => (place, .error e)
  | .ok (d, nextName) => replay ({ w with nextName }, id) d

/-- Makes the edits that a graph calls for. All of them are made to that graph. -/
def edit (place : At) (plan : Graph → Except Error (List Edit)) : At × Except Error Unit :=
  match place.1.graph place.2 >>= plan with
  | .error e => (place, .error e)
  | .ok edits => Edit.run applyHere place edits

end Workspace

end QuadPull
