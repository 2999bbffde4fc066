import QuadPull.Proofs.Extraction
/-!
Graphs that answer from memory, at once or when they are waited for. Each of them is a source that holds
the quads that it stores.
-/

namespace QuadPull

def Access.answers : Access → Bool
  | .failing _ => false
  | _ => true

namespace Graph

inductive Stores : Graph → List Quad → Prop where
  | set (g : SetGraph) : Stores (.set g) g.quads
  | changes (c : ChangeSet) : Stores (.changes c) c.current.quads
  | columnar {g : Columnar} {l : Listing} (shows : Columnar.Shows (.columnar g) l) :
      Stores (.columnar g) l.quads
  | served {access : Access} (answers : access.answers = true) (name : Option Term) (held : SetGraph) :
      Stores (.served access name held) held.quads
  | passedOn (name : Term) {g : Graph} {quads : List Quad} (stores : Stores g quads) :
      Stores (.over name g) quads

theorem source_over (name : Term) (g : Graph) : (Graph.over name g).source = g.source := by
  simp only [source, find, quads, bound, pauses]

theorem Stores.holds {g : Graph} {quads : List Quad} (stores : g.Stores quads) :
    g.source.Holds quads.toFinset := by
  induction stores with
  | set g => exact Pull.holds_set g
  | changes c =>
    have inside := Pull.holds_set c.current
    exact ⟨inside.find, inside.quads, inside.bound⟩
  | columnar shows => exact Pull.holds_columnar shows
  | @served access answers name held =>
    have inside := Pull.holds_set held
    cases access with
    | failing subject => cases answers
    | _ => exact ⟨inside.find, inside.quads, inside.bound⟩
  | passedOn name stores ih =>
    rw [source_over]
    exact ih

end Graph

end QuadPull
