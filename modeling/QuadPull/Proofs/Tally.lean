import QuadPull.Proofs.Rejection

namespace QuadPull

namespace Term

def isLiteral : Term → Bool
  | .literal _ | .loose (.literal ..) => true
  | _ => false

def isQuoted : Term → Bool
  | .quoted .. => true
  | _ => false

theorem kind?_eq_literal_iff (t : Term) : t.kind? = some .literal ↔ t.isLiteral = true := by
  cases t with
  | loose l => cases l <;> simp [kind?, isLiteral]
  | _ => simp [kind?, isLiteral]

theorem kind?_eq_blank_iff (t : Term) : t.kind? = some .blank ↔ t.isBlank = true := by
  cases t with
  | loose l => cases l <;> simp [kind?, isBlank]
  | _ => simp [kind?, isBlank]

theorem kind?_eq_quoted_iff (t : Term) : t.kind? = some .quoted ↔ t.isQuoted = true := by
  cases t with
  | loose l => cases l <;> simp [kind?, isQuoted]
  | _ => simp [kind?, isQuoted]

end Term

theorem Statistics.ofQuads_eq (quads : List Quad) : ofQuads quads =
    { quads := quads.length
      subjects := (quads.map (·.subject)).toFinset.card
      predicates := (quads.map (·.predicate)).toFinset.card
      objects := (quads.map (·.object)).toFinset.card
      literals := quads.countP fun q => q.object.isLiteral
      blankNodes := quads.countP fun q => q.subject.isBlank || q.object.isBlank
      quotedTriples := quads.countP fun q => q.subject.isQuoted || q.object.isQuoted } := by
  rw [ofQuads, mk.injEq]
  refine ⟨rfl, rfl, rfl, rfl, ?_, ?_, ?_⟩
  · refine List.countP_congr fun q _ => ?_
    rw [decide_eq_true_iff, Term.kind?_eq_literal_iff]
  · refine List.countP_congr fun q _ => ?_
    simp only [hasKind, Bool.or_eq_true, decide_eq_true_iff, Term.kind?_eq_blank_iff]
  · refine List.countP_congr fun q _ => ?_
    simp only [hasKind, Bool.or_eq_true, decide_eq_true_iff, Term.kind?_eq_quoted_iff]

namespace Columnar

/-- However a graph of rows has come about, its statistics are counts of its quads, of which it has each
once, unless a kind of term has used up its identifiers. -/
theorem statistics_counts {name : Term} {quads : List Quad} {calls : List Call} {first g : Columnar}
    (named : name.isGraphName = true) (proper : ∀ q ∈ quads, q.isProper = true)
    (made : ofList name quads = .ok first) (typed : ∀ c ∈ calls, c.isTyped = true)
    (reached : (first.askAll calls).1 = g) (room : (Graph.columnar g).HasRoom) :
    g.quads.Nodup ∧ g.statistics =
      { quads := g.quads.length
        subjects := (g.quads.map (·.subject)).toFinset.card
        predicates := (g.quads.map (·.predicate)).toFinset.card
        objects := (g.quads.map (·.object)).toFinset.card
        literals := g.quads.countP fun q => q.object.isLiteral
        blankNodes := g.quads.countP fun q => q.subject.isBlank || q.object.isBlank
        quotedTriples := g.quads.countP fun q => q.subject.isQuoted || q.object.isQuoted } := by
  obtain ⟨l, tracks⟩ := tracks_ofList named proper made
  obtain ⟨tracked, -⟩ := tracks.askAll typed
  rw [reached] at tracked
  have decoded : g.quads = (l.askAll calls).1.quads :=
    map_decode tracked.readable room (tracked.spelled room)
  rw [decoded, tracked.statistics room, Statistics.ofQuads_eq]
  exact ⟨tracked.each, rfl⟩

def medley : List Quad :=
  let told : Quad := ⟨.iri "a", .iri "p", .literal { lexical := "one" }, .defaultGraph⟩
  [⟨.blank "b", .iri "p", .blank "b", .defaultGraph⟩, ⟨told.quote, .iri "p", told.quote, .iri "g"⟩, told,
    ⟨.defaultGraph, .iri "q", .blank "b", .defaultGraph⟩]

def writeAbout : List Call :=
  [.edit (.add medley), .edit (.remove [⟨.iri "a", .iri "p", .literal { lexical := "one" }, .defaultGraph⟩]),
    .edit (.add lateVariable)]

theorem statistics_of_writeAbout : ∃ first g, ofList (.iri "g") (medley.take 1) = .ok first ∧
    (first.askAll writeAbout).1 = g ∧ g.quads.length = 3 ∧ g.statistics =
      { quads := 3, subjects := 3, predicates := 2, objects := 2, literals := 0, blankNodes := 2,
        quotedTriples := 1 } := by
  have named : (Term.iri "g").isGraphName = true := rfl
  have proper : ∀ q ∈ medley.take 1, q.isProper = true := by decide
  have typed : ∀ c ∈ writeAbout, c.isTyped = true := by decide
  obtain ⟨first, made, few, decoded⟩ : ∃ first, ofList (.iri "g") (medley.take 1) = .ok first ∧
      (first.askAll writeAbout).1.terms.ids.length ≤ 12 ∧
      (first.askAll writeAbout).1.quads = (medley.take 2 ++ medley.drop 3).map (·.homed (.iri "g")) :=
    ⟨_, rfl, by decide +kernel, by decide +kernel⟩
  have room : (Graph.columnar (first.askAll writeAbout).1).HasRoom := by
    intro k
    exact Nat.lt_of_le_of_lt (Nat.le_trans List.countP_le_length few) (by decide)
  obtain ⟨-, counted⟩ := statistics_counts named proper made typed rfl room
  refine ⟨first, _, made, rfl, ?_, ?_⟩
  · rw [decoded]
    rfl
  · rw [counted, decoded]
    decide +kernel

end Columnar

end QuadPull
