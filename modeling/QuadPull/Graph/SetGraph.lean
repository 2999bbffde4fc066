import QuadPull.Distinct
import QuadPull.Graph.Edit
import QuadPull.Graph.Pattern
/-!
Sets of quads under a name (`ImmutableSetGraph`). Writing gives a new graph. Of quads that are equal a set
has one, as it was told first.
-/

namespace QuadPull

structure SetGraph where
  name : Term
  quads : List Quad
  each : Distinct.Each Quad.settled quads

namespace SetGraph

def empty (name : Term) : SetGraph := ⟨name.orDefault, [], Distinct.each_nil⟩

def ofList (name : Term) (quads : List Quad) : SetGraph :=
  ⟨name.orDefault, Distinct.ofList Quad.settled quads, Distinct.each_ofList⟩

def ofMembers (name : Term) (quads : List Quad) : Except Error SetGraph :=
  if quads.all Quad.hashable then .ok (ofList name quads) else .error .wrongKind

def find (g : SetGraph) (p : Pattern) : List Quad := g.quads.filter p.matchesQuad

def add (g : SetGraph) (quads : List Quad) : SetGraph :=
  ⟨g.name.orDefault, Distinct.pushAll Quad.settled g.quads (quads.map (·.homed g.name)),
    Distinct.each_pushAll g.each⟩

def remove (g : SetGraph) (quads : List Quad) : SetGraph :=
  ⟨g.name.orDefault, Distinct.without Quad.settled g.quads (quads.map (·.homed g.name)),
    Distinct.each_without g.each⟩

def canHold (g : SetGraph) (quads : List Quad) : Bool :=
  quads.all fun q => (q.homed g.name).hashable

/-- Makes an edit; quads that end with a fault leave nothing behind, and neither do those that can be
no members of a set. -/
def apply (g : SetGraph) : Edit → SetGraph × Except Error Unit
  | .add quads => if g.canHold quads then (g.add quads, .ok ()) else (g, .error .wrongKind)
  | .remove quads => if g.canHold quads then (g.remove quads, .ok ()) else (g, .error .wrongKind)
  | .breakOff quads fault => (g, .error (if g.canHold quads then fault else .wrongKind))

def contains (g : SetGraph) (q : Quad) : Bool := Distinct.holds Quad.settled g.quads q

def sameQuads (g h : SetGraph) : Bool := g.quads.all h.contains && h.quads.all g.contains

variable {g : SetGraph} {q : Quad} {quads : List Quad}

theorem contains_iff : g.contains q = true ↔ ∃ r ∈ g.quads, r.settled = q.settled :=
  Distinct.holds_iff

theorem contains_ofList {name : Term} :
    (ofList name quads).contains q = true ↔ ∃ r ∈ quads, r.settled = q.settled := by
  rw [contains, ofList, Distinct.holds_ofList, Distinct.holds_iff]

@[simp] theorem mem_find {p : Pattern} :
    q ∈ g.find p ↔ q ∈ g.quads ∧ p.matchesQuad q = true := List.mem_filter

theorem contains_add : (g.add quads).contains q = true ↔
    g.contains q = true ∨ ∃ r ∈ quads, (r.homed g.name).settled = q.settled := by
  rw [contains, add, Distinct.holds_pushAll, ← contains, Distinct.holds_iff]
  refine or_congr_right ⟨?_, fun ⟨r, hr, h⟩ => ⟨_, List.mem_map_of_mem hr, h⟩⟩
  rintro ⟨r, hr, h⟩
  obtain ⟨a, ha, rfl⟩ := List.mem_map.1 hr
  exact ⟨a, ha, h⟩

theorem contains_remove : (g.remove quads).contains q = true ↔
    g.contains q = true ∧ ∀ r ∈ quads, (r.homed g.name).settled ≠ q.settled := by
  rw [contains, remove, Distinct.holds_without, ← contains, ← Bool.not_eq_true, Distinct.holds_iff]
  simp

theorem contains_of_settled {r : Quad} (h : r.settled = q.settled) :
    g.contains r = g.contains q := by simp [contains, Distinct.holds, h]

theorem sameQuads_iff {h : SetGraph} :
    g.sameQuads h = true ↔ ∀ q, g.contains q = h.contains q := by
  simp only [sameQuads, Bool.and_eq_true, List.all_eq_true]
  constructor
  · intro ⟨gh, hg⟩ q
    rw [Bool.eq_iff_iff]
    constructor
    · intro held
      have ⟨r, hr, settled⟩ := contains_iff.1 held
      exact contains_of_settled settled ▸ gh r hr
    · intro held
      have ⟨r, hr, settled⟩ := contains_iff.1 held
      exact contains_of_settled settled ▸ hg r hr
  · intro same
    exact ⟨fun q hq => same q ▸ contains_iff.2 ⟨q, hq, rfl⟩,
      fun q hq => (same q).symm ▸ contains_iff.2 ⟨q, hq, rfl⟩⟩

end SetGraph

def subjectsOf (quads : List Quad) : List Term :=
  Distinct.ofList Term.settled (quads.map (·.subject))

theorem mem_of_mem_subjectsOf {quads : List Quad} {t : Term} (h : t ∈ subjectsOf quads) :
    ∃ q ∈ quads, q.subject = t := by
  simpa using Distinct.mem_of_mem_ofList h

end QuadPull
