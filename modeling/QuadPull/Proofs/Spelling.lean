import Mathlib.Data.List.Forall2
import QuadPull.Graph.Columnar
import QuadPull.Proofs.Interning
import QuadPull.Proofs.Proper

namespace QuadPull

def Quad.isStorable (q : Quad) : Bool := q.isProper && q.terms.all fun t => !t.isVar

def Term.isGraphName : Term → Bool
  | .iri _ | .defaultGraph => true
  | _ => false

theorem Term.isProper_of_isGraphName {t : Term} (named : t.isGraphName = true) :
    t.isProper = true ∧ t.isVar = false := by
  cases t with
  | iri value => exact ⟨rfl, rfl⟩
  | defaultGraph => exact ⟨rfl, rfl⟩
  | _ => cases named

theorem Quad.isProper_homed {name : Term} {q : Quad} (named : name.isGraphName = true)
    (proper : q.isProper = true) : (q.homed name).isProper = true := by
  have name_proper := (Term.isProper_of_isGraphName named).1
  rw [isProper_iff] at proper ⊢
  obtain ⟨subject, predicate, object, graph⟩ := proper
  unfold homed
  split
  · exact ⟨subject, predicate, object, name_proper⟩
  · exact ⟨subject, predicate, object, graph⟩

theorem Quad.isStorable_homed {name : Term} {q : Quad} (named : name.isGraphName = true)
    (storable : q.isStorable = true) : (q.homed name).isStorable = true := by
  have name_constant := (Term.isProper_of_isGraphName named).2
  simp only [isStorable, Bool.and_eq_true] at storable ⊢
  refine ⟨isProper_homed named storable.1, ?_⟩
  have constant := storable.2
  simp only [terms, List.all_cons, List.all_nil, Bool.and_true, Bool.and_eq_true] at constant ⊢
  obtain ⟨subject, predicate, object, graph⟩ := constant
  unfold homed
  split
  · exact ⟨subject, predicate, object, by simp [name_constant]⟩
  · exact ⟨subject, predicate, object, graph⟩

namespace TermDictionary

variable {d d' : TermDictionary} {t u : Term} {n : TermId}

structure Readable (d : TermDictionary) : Prop where
  sound : d.Sound
  proper : ∀ e ∈ d.ids, e.1.isProper = true

theorem readable_empty : ({} : TermDictionary).Readable := ⟨sound_empty, by simp⟩

theorem Readable.id?_eq_some (readable : d.Readable) (small : ∀ k, d.count k < TermId.payloadSize) :
    d.id? t = some n ↔ d.term? n = some t := by
  have faithful := readable.sound.faithful small
  have told : ∀ u, d.term? n = some u → u.isProper = true := by
    intro u held
    by_cases reserved : n = TermId.defaultGraph
    · subst reserved
      obtain rfl : Term.defaultGraph = u := by simpa [term?] using held
      rfl
    · exact readable.proper _ ((readable.sound.mem_of_term? small reserved).1 held)
  rw [faithful.inverse]
  refine ⟨?_, ?_⟩
  · intro held
    obtain ⟨u, held, same⟩ := held
    have settled : t.settled = u.settled := by simpa [Term.same, eq_comm] using same
    rw [held, Term.eq_of_settled_eq (told u held) settled]
  · intro held
    exact ⟨t, held, by simp [Term.same]⟩

theorem Readable.eq_of_id?_eq (readable : d.Readable) (small : ∀ k, d.count k < TermId.payloadSize)
    (one : d.id? t = some n) (other : d.id? u = some n) : t = u := by
  rw [readable.id?_eq_some small] at one other
  exact Option.some.inj (one.symm.trans other)

theorem id?_congr (same : t.settled = u.settled) : d.id? t = d.id? u := by
  have reserved : t = .defaultGraph ↔ u = .defaultGraph := by
    refine ⟨?_, ?_⟩
    · intro same
      subst same
      cases u <;> cases same
      rfl
    · intro same
      subst same
      cases t <;> cases same
      rfl
  simp only [id?, reserved, Keyed.get?_congr same]

theorem id?_of_prefix (grown : d.ids <+: d'.ids) (held : d.id? t = some n) : d'.id? t = some n := by
  obtain ⟨more, grown⟩ := grown
  by_cases reserved : t = .defaultGraph
  · rw [id?, if_pos reserved] at held ⊢
    exact held
  · rw [id?, if_neg reserved] at held ⊢
    obtain ⟨e, found, here⟩ := Option.map_eq_some_iff.1 held
    simp [Keyed.get?, ← grown, List.find?_append, found, here]

theorem count_le_of_prefix (grown : d.ids <+: d'.ids) (k : TermKind) : d.count k ≤ d'.count k :=
  grown.sublist.countP_le

end TermDictionary

/-- A row of the identifiers that the terms of a quad have. -/
structure TermDictionary.Spells (d : TermDictionary) (r : Row) (q : Quad) : Prop where
  graph : d.id? q.graph = some r.graph
  subject : d.id? q.subject = some r.subject
  predicate : d.id? q.predicate = some r.predicate
  object : d.id? q.object = some r.object

namespace TermDictionary

variable {d d' : TermDictionary}

theorem Spells.of_prefix {r : Row} {q : Quad} (grown : d.ids <+: d'.ids) (spelled : d.Spells r q) :
    d'.Spells r q where
  graph := id?_of_prefix grown spelled.graph
  subject := id?_of_prefix grown spelled.subject
  predicate := id?_of_prefix grown spelled.predicate
  object := id?_of_prefix grown spelled.object

theorem Readable.biUnique_spells (readable : d.Readable)
    (small : ∀ k, d.count k < TermId.payloadSize) : Relator.BiUnique d.Spells := by
  refine ⟨?_, ?_⟩
  · intro r r' q first second
    cases r
    cases r'
    simp only [Row.mk.injEq]
    exact ⟨Option.some.inj (first.graph.symm.trans second.graph),
      Option.some.inj (first.subject.symm.trans second.subject),
      Option.some.inj (first.predicate.symm.trans second.predicate),
      Option.some.inj (first.object.symm.trans second.object)⟩
  · intro r q q' first second
    cases q
    cases q'
    simp only [Quad.mk.injEq]
    exact ⟨readable.eq_of_id?_eq small first.subject second.subject,
      readable.eq_of_id?_eq small first.predicate second.predicate,
      readable.eq_of_id?_eq small first.object second.object,
      readable.eq_of_id?_eq small first.graph second.graph⟩

end TermDictionary

namespace Columnar

open TermDictionary

variable {d d' : TermDictionary} {name : Term}

theorem intake_bind {α β : Type} {x : Intake α} {f : α → Intake β} {a : α} (taken : x d = (.ok a, d')) :
    (x >>= f) d = f a d' := by
  change (StateT.bind x (ExceptT.bindCont f)) d = f a d'
  simp only [StateT.bind, taken]
  rfl

theorem take_spec (readable : d.Readable) {t : Term} (proper : t.isProper = true)
    (constant : t.isVar = false) :
    ∃ n d', take t d = (.ok n, d') ∧ d'.Readable ∧ d.ids <+: d'.ids ∧ d'.id? t = some n := by
  rcases intern_cases d t with ⟨e, result, bad⟩ | ⟨n, known, result⟩ | ⟨k, hashable, kind, absent, result⟩
  · rcases bad with unhashable | kindless
    · rw [Term.hashable_of_isProper proper] at unhashable
      cases unhashable
    · cases t with
      | var name => cases constant
      | defaultGraph => cases result
      | loose l => cases proper
      | _ => cases kindless
  · exact ⟨n, d, result, readable, List.prefix_refl _, known⟩
  · have given : (d.intern t).1 = .ok (TermId.make k (d.next k)) := by rw [result]
    have held := id?_of_intern given
    rw [result] at held
    refine ⟨_, _, result, ⟨readable.sound.grow hashable kind absent, ?_⟩, List.prefix_append _ _, held⟩
    intro e member
    rcases List.mem_append.1 member with old | new
    · exact readable.proper e old
    · obtain rfl := List.mem_singleton.1 new
      exact proper

theorem firstVar?_of_isStorable {q : Quad} (storable : q.isStorable = true) : firstVar? q = none := by
  simp only [Quad.isStorable, Bool.and_eq_true, List.all_eq_true] at storable
  rw [firstVar?, List.findSome?_eq_none_iff]
  intro t member
  have constant := storable.2 t member
  cases t <;> first | rfl | cases constant

/-- A quad that can be stored has a row once its terms are taken in. -/
theorem encode_spec (readable : d.Readable) {q : Quad} (storable : (q.homed name).isStorable = true) :
    ∃ r d', encode name q d = (.ok r, d') ∧ d'.Readable ∧ d.ids <+: d'.ids ∧
      d'.Spells r (q.homed name) := by
  have constant := firstVar?_of_isStorable storable
  simp only [Quad.isStorable, Bool.and_eq_true, Quad.isProper_iff, Quad.terms, List.all_cons,
    List.all_nil, Bool.and_true, Bool.not_eq_true'] at storable
  obtain ⟨⟨ps, pp, po, pg⟩, cs, cp, co, cg⟩ := storable
  obtain ⟨graph, d₁, take_g, read₁, grown₁, id_g⟩ := take_spec readable pg cg
  obtain ⟨subject, d₂, take_s, read₂, grown₂, id_s⟩ := take_spec read₁ ps cs
  obtain ⟨predicate, d₃, take_p, read₃, grown₃, id_p⟩ := take_spec read₂ pp cp
  obtain ⟨object, d₄, take_o, read₄, grown₄, id_o⟩ := take_spec read₃ po co
  have grown₂₄ := grown₃.trans grown₄
  refine ⟨⟨graph, subject, predicate, object⟩, d₄, ?_, read₄, grown₁.trans (grown₂.trans grown₂₄),
    id?_of_prefix (grown₂.trans grown₂₄) id_g, id?_of_prefix grown₂₄ id_s, id?_of_prefix grown₄ id_p, id_o⟩
  rw [encode]
  simp only [constant]
  rw [intake_bind take_g, intake_bind take_s, intake_bind take_p, intake_bind take_o]
  rfl

theorem encodeAll_spec (readable : d.Readable) {quads : List Quad}
    (storable : ∀ q ∈ quads, (q.homed name).isStorable = true) :
    ∃ rows d', encodeAll name quads d = (.ok rows, d') ∧ d'.Readable ∧ d.ids <+: d'.ids ∧
      List.Forall₂ d'.Spells rows (quads.map (·.homed name)) := by
  induction quads generalizing d with
  | nil => exact ⟨[], d, rfl, readable, List.prefix_refl _, .nil⟩
  | cons q quads ih =>
    obtain ⟨r, d₁, first, read₁, grown₁, spelled⟩ := encode_spec readable (storable q List.mem_cons_self)
    obtain ⟨rows, d₂, rest, read₂, grown₂, others⟩ :=
      ih read₁ fun q member => storable q (List.mem_cons_of_mem _ member)
    refine ⟨r :: rows, d₂, ?_, read₂, grown₁.trans grown₂, .cons (spelled.of_prefix grown₂) others⟩
    rw [encodeAll] at rest ⊢
    rw [List.mapM_cons, intake_bind first, intake_bind rest]
    rfl

theorem row?_eq_some {g : Columnar} {q : Quad} {r : Row} :
    g.row? q = some r ↔ g.terms.Spells r (q.homed g.name) := by
  rw [row?]
  refine ⟨?_, ?_⟩
  · intro found
    simp only [Option.bind_eq_bind, Option.bind_eq_some_iff, Option.pure_def, Option.some.injEq] at found
    obtain ⟨subject, hs, predicate, hp, object, ho, graph, hg, rfl⟩ := found
    exact ⟨hg, hs, hp, ho⟩
  · intro spelled
    simp [spelled.subject, spelled.predicate, spelled.object, spelled.graph]

end Columnar

end QuadPull
