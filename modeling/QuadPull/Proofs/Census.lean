import Mathlib.Data.Finset.Card
import QuadPull.Graph.Statistics
import QuadPull.Proofs.Listing
/-!
Counts of a graph of rows, taken on its quads. The kind of a term can be read off its identifier, and
different terms have different identifiers, so counting identifiers counts terms.
-/

namespace QuadPull

namespace Statistics

def distinct (terms : List Term) : Nat := terms.toFinset.card

def hasKind (k : TermKind) (q : Quad) : Bool := q.subject.kind? = some k || q.object.kind? = some k

def ofQuads (quads : List Quad) : Statistics where
  quads := quads.length
  subjects := distinct (quads.map (·.subject))
  predicates := distinct (quads.map (·.predicate))
  objects := distinct (quads.map (·.object))
  literals := quads.countP fun q => q.object.kind? = some .literal
  blankNodes := quads.countP (hasKind .blank)
  quotedTriples := quads.countP (hasKind .quoted)

end Statistics

theorem TermId.inRange_make (k l : TermKind) (payload : Int) :
    inRange k (make l payload) = true ↔ l = k := by
  rw [inRange_iff k (make_lt l payload), kind_make]

theorem TermId.inRange_defaultGraph {k : TermKind} (other : k ≠ .iri) :
    inRange k defaultGraph = false := by
  have lowest : kind defaultGraph = .iri := rfl
  rw [← Bool.not_eq_true, inRange_iff k (by decide), lowest]
  exact other.symm

namespace TermDictionary

variable {d : TermDictionary} {t : Term} {n : TermId}

theorem Sound.inRange_iff (sound : d.Sound) (held : d.id? t = some n) {k : TermKind} (other : k ≠ .iri) :
    TermId.inRange k n = true ↔ t.kind? = some k := by
  by_cases reserved : t = .defaultGraph
  · subst reserved
    obtain rfl : TermId.defaultGraph = n := by simpa [id?] using held
    simp [TermId.inRange_defaultGraph other, Term.kind?]
  · rw [id?, if_neg reserved] at held
    obtain ⟨u, member, same⟩ := Keyed.mem_of_get?_eq_some held
    obtain ⟨l, payload, kind, rfl, -, -⟩ := sound.made member
    have alike : t.kind? = some l := by rw [← kind?_settled, ← same, kind?_settled, kind]
    rw [TermId.inRange_make k l payload, alike, Option.some.injEq]

theorem Readable.biUnique_id? (readable : d.Readable) (small : ∀ k, d.count k < TermId.payloadSize) :
    Relator.BiUnique fun n t => d.id? t = some n := by
  constructor
  · intro m n t first second
    exact Option.some.inj (first.symm.trans second)
  · intro n t u first second
    exact readable.eq_of_id?_eq small first second

end TermDictionary

theorem distinctCount_alike {R : TermId → Term → Prop} (unique : Relator.BiUnique R) {ids : List TermId}
    {terms : List Term} (alike : List.Forall₂ R ids terms) :
    distinctCount ids = Statistics.distinct terms := by
  have nodup : (Distinct.ofList id terms).Nodup := by
    have each : Distinct.Each id (Distinct.ofList id terms) := Distinct.each_ofList
    rwa [Distinct.Each, List.map_id] at each
  have members : (Distinct.ofList id terms).toFinset = terms.toFinset := by
    ext t
    rw [List.mem_toFinset, List.mem_toFinset]
    exact Distinct.mem_ofList fun _ _ same => same
  calc distinctCount ids = (Distinct.ofList id terms).length :=
        (Distinct.pushAll_alike unique .nil alike).length_eq
    _ = (Distinct.ofList id terms).toFinset.card := (List.toFinset_card_of_nodup nodup).symm
    _ = Statistics.distinct terms := by rw [members, Statistics.distinct]

namespace Columnar

theorem countP_alike {d : TermDictionary} {rows : List Row} {quads : List Quad} {p : Row → Bool}
    {f : Quad → Bool} (spelled : List.Forall₂ d.Spells rows quads)
    (same : ∀ r q, d.Spells r q → p r = f q) : rows.countP p = quads.countP f := by
  induction spelled with
  | nil => rfl
  | cons here rest ih => rw [List.countP_cons, List.countP_cons, ih, same _ _ here]

theorem Tracks.statistics {g : Columnar} {l : Listing} (tracks : g.Tracks l)
    (small : ∀ k, g.terms.count k < TermId.payloadSize) :
    g.statistics = Statistics.ofQuads l.quads := by
  have spelled := tracks.spelled small
  have unique := tracks.readable.biUnique_id? small
  have column : ∀ (cell : Row → TermId) (position : Quad → Term),
      (∀ r q, g.terms.Spells r q → g.terms.id? (position q) = some (cell r)) →
      distinctCount (g.rows.map cell) = Statistics.distinct (l.quads.map position) := by
    intro cell position names
    apply distinctCount_alike unique
    rw [List.forall₂_map_left_iff, List.forall₂_map_right_iff]
    exact spelled.imp names
  have kind : ∀ {t : Term} {n : TermId} {k : TermKind}, k ≠ .iri → g.terms.id? t = some n →
      TermId.inRange k n = decide (t.kind? = some k) := by
    intro t n k other held
    rw [Bool.eq_iff_iff, decide_eq_true_iff]
    exact tracks.readable.sound.inRange_iff held other
  have either : ∀ k, k ≠ .iri → g.countEither k = l.quads.countP (Statistics.hasKind k) := by
    intro k other
    apply countP_alike spelled
    intro r q spelled
    rw [kind other spelled.subject, kind other spelled.object, Statistics.hasKind]
  have literals := countP_alike (f := fun q => q.object.kind? = some .literal) spelled fun r q spelled =>
    kind (k := .literal) nofun spelled.object
  rw [Columnar.statistics, Statistics.ofQuads, spelled.length_eq, column _ _ fun _ _ s => s.subject,
    column _ _ fun _ _ s => s.predicate, column _ _ fun _ _ s => s.object, literals, either .blank nofun,
    either .quoted nofun]

end Columnar

end QuadPull
