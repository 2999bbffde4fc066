import QuadPull.Graph.Basic
import QuadPull.Proofs.Spelling

namespace QuadPull

namespace Distinct

variable {α β : Type} [DecidableEq α] [DecidableEq β] {R : α → β → Prop} {xs : List α} {ys : List β}

omit [DecidableEq β] in
theorem holds_id {a : α} : holds id xs a = true ↔ a ∈ xs := by
  rw [holds_iff_mem, List.map_id, id]

theorem holds_alike (unique : Relator.BiUnique R) (alike : List.Forall₂ R xs ys) {a : α} {b : β}
    (h : R a b) : holds id xs a = holds id ys b := by
  have members : a ∈ xs ↔ b ∈ ys := List.rel_mem unique h alike
  rw [Bool.eq_iff_iff, holds_id, holds_id, members]

theorem pushAll_alike (unique : Relator.BiUnique R) (alike : List.Forall₂ R xs ys) {as : List α}
    {bs : List β} (added : List.Forall₂ R as bs) :
    List.Forall₂ R (pushAll id xs as) (pushAll id ys bs) := by
  induction added generalizing xs ys with
  | nil => exact alike
  | @cons a b as bs h rest ih =>
    refine ih ?_
    have held := holds_alike unique alike h
    unfold push
    by_cases present : holds id ys b = true
    · rw [held, if_pos present, if_pos present]
      exact alike
    · rw [held, if_neg present, if_neg present]
      exact List.rel_append alike (.cons h .nil)

end Distinct

inductive Command where
  | add (quads : List Quad)
  | remove (quads : List Quad)
  | clear
  | rename (name : Term)

def Command.isTyped : Command → Bool
  | .add quads => quads.all Quad.isStorable
  | .remove quads => quads.all Quad.isProper
  | .clear => true
  | .rename name => name.isGraphName

structure Listing where
  name : Term
  quads : List Quad := []
  deriving DecidableEq

namespace Listing

/-- Quads of the default graph come to the name. Of those that come in only the new ones are put at the
end, each once and in the order in which it came first. -/
def obey (l : Listing) : Command → Listing
  | .add quads => { l with quads := Distinct.pushAll id l.quads (quads.map (·.homed l.name)) }
  | .remove quads => { l with quads := l.quads.filter fun q => q ∉ quads.map (·.homed l.name) }
  | .clear => { l with quads := [] }
  | .rename name => { l with name }

def obeyAll (l : Listing) (commands : List Command) : Listing := commands.foldl obey l

end Listing

namespace Columnar

def obey (g : Columnar) (c : Command) : Except Error Columnar :=
  match c with
  | .add quads => (g.apply (.add quads)).2.map fun _ => (g.apply (.add quads)).1
  | .remove quads => (g.apply (.remove quads)).2.map fun _ => (g.apply (.remove quads)).1
  | .clear => .ok g.clear
  | .rename name => .ok { g with name }

def obeyAll (g : Columnar) (commands : List Command) : Except Error Columnar := commands.foldlM obey g

/-- A graph of rows keeps pace with a list: its rows spell the quads of the list one by one, as long as
no kind of term has used up its identifiers. -/
structure Tracks (g : Columnar) (l : Listing) : Prop where
  name : g.name = l.name
  named : l.name.isGraphName = true
  readable : g.terms.Readable
  spelled : (∀ k, g.terms.count k < TermId.payloadSize) → List.Forall₂ g.terms.Spells g.rows l.quads
  proper : ∀ q ∈ l.quads, q.isProper = true
  each : l.quads.Nodup

structure Shows (g : Graph) (l : Listing) : Prop where
  quads : g.quads = .ok l.quads
  each : l.quads.Nodup
  size : g.size = .ok l.quads.length
  contains : ∀ q : Quad, q.isProper = true → g.contains (.term q.quote) = .ok (decide (q ∈ l.quads))
  subjects : ∃ terms, g.subjects = .ok terms ∧ terms.Nodup ∧
    ∀ t, t ∈ terms ↔ ∃ q ∈ l.quads, q.subject = t
  find : ∀ p : Pattern, (∀ t ∈ p.bound, t.isProper = true) →
    g.find p = .ok (l.quads.filter p.matchesQuad)

variable {g : Columnar} {l : Listing}

theorem Tracks.add (tracks : g.Tracks l) {quads : List Quad}
    (storable : ∀ q ∈ quads, q.isStorable = true) :
    ∃ h, g.obey (.add quads) = .ok h ∧ h.Tracks (l.obey (.add quads)) := by
  have homed : ∀ q ∈ quads, (q.homed g.name).isStorable = true := by
    intro q member
    rw [tracks.name]
    exact Quad.isStorable_homed tracks.named (storable q member)
  obtain ⟨rows, d, encoded, readable, grown, spelled⟩ := encodeAll_spec tracks.readable homed
  refine ⟨{ g with terms := d, rows := Distinct.pushAll id g.rows rows }, ?_, ?_⟩
  · simp [obey, apply, Columnar.add, encoded, Except.map]
  refine ⟨tracks.name, tracks.named, readable, ?_, ?_, ?_⟩
  · intro small
    have before : ∀ k, g.terms.count k < TermId.payloadSize := fun k =>
      Nat.lt_of_le_of_lt (TermDictionary.count_le_of_prefix grown k) (small k)
    have old : List.Forall₂ d.Spells g.rows l.quads :=
      (tracks.spelled before).imp fun _ _ spelled => spelled.of_prefix grown
    rw [tracks.name] at spelled
    exact Distinct.pushAll_alike (readable.biUnique_spells small) old spelled
  · intro q member
    rcases Distinct.mem_of_mem_pushAll member with old | new
    · exact tracks.proper q old
    · obtain ⟨r, among, rfl⟩ := List.mem_map.1 new
      have good := homed r among
      rw [tracks.name, Quad.isStorable, Bool.and_eq_true] at good
      exact good.1
  · have each : Distinct.Each id l.quads := by simpa [Distinct.Each] using tracks.each
    have pushed : Distinct.Each id (l.obey (.add quads)).quads := Distinct.each_pushAll each
    simpa [Distinct.Each] using pushed

theorem Tracks.remove (tracks : g.Tracks l) {quads : List Quad}
    (proper : ∀ q ∈ quads, q.isProper = true) :
    ∃ h, g.obey (.remove quads) = .ok h ∧ h.Tracks (l.obey (.remove quads)) := by
  have hashable : (quads.all fun q => (q.homed g.name).hashable) = true := by
    rw [List.all_eq_true]
    intro q member
    rw [tracks.name]
    exact Quad.hashable_of_isProper (Quad.isProper_homed tracks.named (proper q member))
  refine ⟨g.remove quads, ?_, ?_⟩
  · simp [obey, apply, hashable, Except.map]
  refine ⟨tracks.name, tracks.named, tracks.readable, ?_, ?_, tracks.each.filter _⟩
  · intro small
    -- A quad of which some term was never stored has no row, and the list has no such quad.
    have unique := tracks.readable.biUnique_spells small
    refine List.rel_filter ?_ (tracks.spelled small)
    intro r q spelled
    have gone : r ∈ quads.filterMap g.row? ↔ q ∈ quads.map (·.homed l.name) := by
      rw [List.mem_filterMap, List.mem_map]
      refine ⟨?_, ?_⟩
      · intro held
        obtain ⟨a, member, row⟩ := held
        rw [row?_eq_some, tracks.name] at row
        exact ⟨a, member, unique.2 row spelled⟩
      · intro held
        obtain ⟨a, member, rfl⟩ := held
        exact ⟨a, member, by rwa [row?_eq_some, tracks.name]⟩
    rw [← Distinct.holds_id] at gone
    simpa using not_congr gone
  · intro q member
    exact tracks.proper q (List.mem_of_mem_filter member)

theorem Tracks.obey (tracks : g.Tracks l) {c : Command} (typed : c.isTyped = true) :
    ∃ h, g.obey c = .ok h ∧ h.Tracks (l.obey c) := by
  cases c with
  | add quads => exact tracks.add (List.all_eq_true.1 typed)
  | remove quads => exact tracks.remove (List.all_eq_true.1 typed)
  | clear =>
    exact ⟨g.clear, rfl, tracks.name, tracks.named, tracks.readable, fun _ => .nil, by simp [Listing.obey],
      List.nodup_nil⟩
  | rename name =>
    exact ⟨{ g with name }, rfl, rfl, typed, tracks.readable, tracks.spelled, tracks.proper, tracks.each⟩

theorem Tracks.obeyAll (tracks : g.Tracks l) {commands : List Command}
    (typed : ∀ c ∈ commands, c.isTyped = true) :
    ∃ h, g.obeyAll commands = .ok h ∧ h.Tracks (l.obeyAll commands) := by
  induction commands generalizing g l with
  | nil => exact ⟨g, rfl, tracks⟩
  | cons c commands ih =>
    obtain ⟨h, obeyed, tracked⟩ := tracks.obey (typed c List.mem_cons_self)
    obtain ⟨last, others, reached⟩ := ih tracked fun c member => typed c (List.mem_cons_of_mem _ member)
    refine ⟨last, ?_, reached⟩
    rw [Columnar.obeyAll, List.foldlM_cons, obeyed]
    exact others

section

variable (readable : g.terms.Readable) (small : ∀ k, g.terms.count k < TermId.payloadSize)
include readable small

theorem any_boundId? {u : Term} {n : TermId} (held : g.terms.id? u = some n) (bound : Option Term) :
    ((g.boundId? bound).any fun b => acceptsId b n) = accepts bound u := by
  cases bound with
  | none => rfl
  | some t =>
    have alike : u.settled = t.settled ↔ g.terms.id? t = some n := by
      refine ⟨?_, ?_⟩
      · intro same
        rw [← TermDictionary.id?_congr same, held]
      · intro other
        rw [readable.eq_of_id?_eq small held other]
    rw [Bool.eq_iff_iff, accepts_some, alike]
    -- A term that was never stored has no identifier, and no cell holds it either.
    cases known : g.terms.id? t with
    | none => simp [boundId?, known]
    | some m => simp [boundId?, known, acceptsId, eq_comm]

theorem decode_of_spells {r : Row} {q : Quad} (spelled : g.terms.Spells r q) : g.decode r = q := by
  have told : ∀ {t : Term} {n : TermId}, g.terms.id? t = some n → g.termOf n = t := by
    intro t n held
    rw [termOf, (readable.id?_eq_some small).1 held, Option.getD_some]
  rw [decode, told spelled.subject, told spelled.predicate, told spelled.object, told spelled.graph]

theorem map_decode {rows : List Row} {quads : List Quad} (spelled : List.Forall₂ g.terms.Spells rows quads) :
    rows.map g.decode = quads := by
  rw [← List.forall₂_eq_eq_eq, List.forall₂_map_left_iff]
  exact spelled.imp fun _ _ spelled => decode_of_spells readable small spelled

end

theorem find_eq (p : Pattern) : g.find p = (g.rows.filter fun r =>
    ((g.boundId? p.graph).any fun b => acceptsId b r.graph) &&
    ((g.boundId? p.subject).any fun b => acceptsId b r.subject) &&
    ((g.boundId? p.predicate).any fun b => acceptsId b r.predicate) &&
    ((g.boundId? p.object).any fun b => acceptsId b r.object)).map g.decode := by
  unfold find
  cases g.boundId? p.graph <;> cases g.boundId? p.subject <;> cases g.boundId? p.predicate <;>
    cases g.boundId? p.object <;> simp

theorem Tracks.find (tracks : g.Tracks l) (small : ∀ k, g.terms.count k < TermId.payloadSize)
    (p : Pattern) : g.find p = l.quads.filter p.matchesQuad := by
  have readable := tracks.readable
  rw [find_eq]
  refine map_decode readable small (List.rel_filter ?_ (tracks.spelled small))
  intro r q spelled
  beta_reduce
  rw [any_boundId? readable small spelled.graph, any_boundId? readable small spelled.subject,
    any_boundId? readable small spelled.predicate, any_boundId? readable small spelled.object]
  simp only [Pattern.matchesQuad, Bool.and_eq_true]
  tauto

theorem only_bound_isProper {q : Quad} (proper : q.isProper = true) :
    ∀ t ∈ (Pattern.only q).bound, t.isProper = true := by
  obtain ⟨subject, predicate, object, graph⟩ := Quad.isProper_iff.1 proper
  intro t member
  simp only [Pattern.bound, Pattern.only, Term.given?_of_isProper subject, Term.given?_of_isProper predicate,
    Term.given?_of_isProper object, Term.given?_of_isProper graph] at member
  exact List.all_eq_true.1 proper t (by simpa [Quad.terms] using member)

theorem canFind_of_isProper {p : Pattern}
    (proper : ∀ t ∈ p.bound, t.isProper = true) :
    g.canFind p = true := by
  rw [canFind, Option.all_eq_true]
  intro t found
  refine Term.hashable_of_isProper (proper t ?_)
  have member := List.mem_of_find?_eq_some found
  simp only [Pattern.bound, List.mem_filterMap, List.mem_cons, List.not_mem_nil, or_false, id] at member ⊢
  obtain ⟨bound, position, rfl⟩ := member
  exact ⟨_, by tauto, rfl⟩

theorem Tracks.shows (tracks : g.Tracks l) (small : ∀ k, g.terms.count k < TermId.payloadSize) :
    Shows (.columnar g) l where
  quads := by
    have decoded := map_decode tracks.readable small (tracks.spelled small)
    rw [Graph.quads, Columnar.quads, decoded]
  each := tracks.each
  size := by
    have lengths := (tracks.spelled small).length_eq
    rw [Graph.size, Columnar.size, lengths]
  contains := by
    intro q proper
    have bound := only_bound_isProper proper
    have given : ∀ t ∈ q.terms, t ≠ .loose .nothing := by
      intro t member same
      subst same
      have loose := List.all_eq_true.1 proper _ member
      cases loose
    have member : (l.quads.filter (Pattern.only q).matchesQuad) = [] ↔ q ∉ l.quads := by
      rw [List.filter_eq_nil_iff]
      refine ⟨?_, ?_⟩
      · intro none present
        exact none q present ((Pattern.matchesQuad_only given).2 rfl)
      · intro absent r present matching
        have same := (Pattern.matchesQuad_only given).1 matching
        exact absent (Quad.eq_of_settled_eq proper same ▸ present)
    change (g.lookup (.only q)).map (!·.isEmpty) = .ok (decide (q ∈ l.quads))
    rw [lookup, if_pos (canFind_of_isProper bound), tracks.find small, Except.map]
    congr 1
    rw [Bool.eq_iff_iff, Bool.not_eq_true', decide_eq_true_iff, ← Bool.not_eq_true, List.isEmpty_iff,
      member, not_not]
  subjects := by
    have decoded := map_decode tracks.readable small (tracks.spelled small)
    refine ⟨subjectsOf l.quads, ?_, List.Nodup.of_map _ Distinct.each_ofList, ?_⟩
    · rw [← decoded]
      rfl
    · intro t
      exact mem_subjectsOf tracks.proper
  find := by
    intro p proper
    rw [Graph.find, lookup, if_pos (canFind_of_isProper proper), tracks.find small]

theorem tracks_empty {name : Term} (named : name.isGraphName = true) :
    ({ name } : Columnar).Tracks { name } where
  name := rfl
  named := named
  readable := TermDictionary.readable_empty
  spelled := fun _ => .nil
  proper := by simp
  each := List.nodup_nil

/-- A graph made of quads that can be stored obeys every command, and shows from then on the list that
obeys the same commands, unless a kind of term has used up its identifiers. -/
theorem refines_listing {name : Term} {quads : List Quad} {commands : List Command}
    (named : name.isGraphName = true) (storable : ∀ q ∈ quads, q.isStorable = true)
    (typed : ∀ c ∈ commands, c.isTyped = true) :
    ∃ g, (ofList name quads >>= fun g => g.obeyAll commands) = .ok g ∧
      ((∀ k, g.terms.count k < TermId.payloadSize) →
        Shows (.columnar g) (({ name } : Listing).obeyAll (.add quads :: commands))) := by
  obtain ⟨first, made, tracked⟩ := (tracks_empty named).add storable
  have started : ofList name quads = .ok first := made
  obtain ⟨g, obeyed, tracks⟩ := tracked.obeyAll typed
  refine ⟨g, ?_, fun small => tracks.shows small⟩
  rw [started]
  exact obeyed

def threeCommands : List Command :=
  [.add [⟨.blank "b", .iri "p", .iri "a", .defaultGraph⟩, ⟨.iri "a", .iri "p", .iri "c", .defaultGraph⟩],
    .rename .defaultGraph, .remove [⟨.iri "a", .iri "p", .iri "c", .iri "g"⟩]]

theorem listing_of_threeCommands :
    ∃ g, (ofList (.iri "g") [⟨.iri "a", .iri "p", .iri "c", .defaultGraph⟩] >>= fun g =>
        g.obeyAll threeCommands) = .ok g ∧
      Shows (.columnar g) ⟨.defaultGraph, [⟨.blank "b", .iri "p", .iri "a", .iri "g"⟩]⟩ := by
  have listed : ({ name := .iri "g" } : Listing).obeyAll
      (.add [⟨.iri "a", .iri "p", .iri "c", .defaultGraph⟩] :: threeCommands) =
      ⟨.defaultGraph, [⟨.blank "b", .iri "p", .iri "a", .iri "g"⟩]⟩ := by decide
  have named : (Term.iri "g").isGraphName = true := rfl
  have storable : ∀ q ∈ [(⟨.iri "a", .iri "p", .iri "c", .defaultGraph⟩ : Quad)],
      q.isStorable = true := by decide
  have typed : ∀ c ∈ threeCommands, c.isTyped = true := by decide
  obtain ⟨g, ran, shows⟩ := refines_listing named storable typed
  have five : (ofList (.iri "g") [⟨.iri "a", .iri "p", .iri "c", .defaultGraph⟩] >>= fun g =>
      g.obeyAll threeCommands).toOption.map (fun g => g.terms.ids.length) = some 5 := by
    decide +kernel
  refine ⟨g, ran, listed ▸ shows ?_⟩
  intro k
  have few : g.terms.count k ≤ 5 := by
    rw [ran] at five
    exact Option.some.inj five ▸ List.countP_le_length
  exact Nat.lt_of_le_of_lt few (by decide)

end Columnar

end QuadPull
