import QuadPull.Proofs.Outcome
import QuadPull.Proofs.Writing
/-!
Stores to which the same quads were added. Rows, sets, changes to sets and sets that are served store the
same quads then, and a pull comes to the same from each of them, whatever the order of their answers.
-/

namespace QuadPull

/-- The graphs of a name to which quads were added: rows; a set; changes to a set, which had the first of
the quads; and a set that is served, with answers at hand, awaited or in a stream. -/
inductive Takes (name : Term) (quads : List Quad) : Graph → Prop where
  | rows {g : Columnar} (added : (Graph.columnar { name }).add quads = (.columnar g, .ok ()))
      (room : ∀ k, g.terms.count k < TermId.payloadSize) : Takes name quads (.columnar g)
  | set {s : SetGraph} (added : (Graph.set (.empty name)).add quads = (.set s, .ok ())) :
      Takes name quads (.set s)
  | changes {s : SetGraph} {c : ChangeSet} {before after : List Quad} (split : quads = before ++ after)
      (base : (Graph.set (.empty name)).add before = (.set s, .ok ()))
      (added : (Graph.changes (.ofGraph s)).add after = (.changes c, .ok ())) :
      Takes name quads (.changes c)
  | served {s : SetGraph} {access : Access} (added : (Graph.set (.empty name)).add quads = (.set s, .ok ()))
      (answers : access.answers = true) : Takes name quads (.served access (some name) s)

theorem name_empty {name : Term} (named : name.isGraphName = true) : (SetGraph.empty name).name = name :=
  orDefault_of_isGraphName named

theorem isProper_of_isStorable {q : Quad} (storable : q.isStorable = true) : q.isProper = true := by
  rw [Quad.isStorable, Bool.and_eq_true] at storable
  exact storable.1

section

variable {name : Term} (named : name.isGraphName = true) {quads : List Quad}
  (storable : ∀ q ∈ quads, q.isStorable = true)

include named storable

theorem homed_isProper : ∀ q ∈ quads.map (·.homed name), q.isProper = true := by
  intro q member
  obtain ⟨r, among, rfl⟩ := List.mem_map.1 member
  exact Quad.isProper_homed named (isProper_of_isStorable (storable r among))

theorem add_to_set :
    (Graph.set (.empty name)).add quads = (.set ((SetGraph.empty name).add quads), .ok ()) := by
  have proper : ∀ q ∈ quads, q.isProper = true := fun q member => isProper_of_isStorable (storable q member)
  rw [Graph.add, Graph.apply, SetGraph.apply_add (SetGraph.proper_empty named).named proper]
  rfl

theorem add_to_changes {s : SetGraph} (home : s.name = name) : (Graph.changes (.ofGraph s)).add quads =
    (.changes { ChangeSet.ofGraph s with current := s.add quads }, .ok ()) := by
  have proper : ∀ q ∈ quads, q.isProper = true := fun q member => isProper_of_isStorable (storable q member)
  rw [Graph.add, Graph.apply, ChangeSet.apply, ChangeSet.ofGraph,
    SetGraph.apply_add (home.symm ▸ named) proper]
  rfl

theorem add_to_rows : ∃ g, ({ name } : Columnar).add quads = (g, .ok ()) ∧
    g.Tracks ({ name := name, quads := Distinct.pushAll id [] (quads.map (·.homed name)) } : Listing) := by
  obtain ⟨g, obeyed, tracks⟩ := (Columnar.tracks_empty named).add storable
  exact ⟨g, Graph.apply_of_obeyed obeyed, tracks⟩

theorem add_empty {s : SetGraph} (added : (Graph.set (.empty name)).add quads = (.set s, .ok ())) :
    s.name = name ∧ ∀ q, q ∈ s.quads ↔ q ∈ quads.map (·.homed name) := by
  have home := name_empty named
  obtain rfl : (SetGraph.empty name).add quads = s := by
    rw [add_to_set named storable] at added
    cases added
    rfl
  refine ⟨?_, ?_⟩
  · change (SetGraph.empty name).name.orDefault = name
    rw [home, orDefault_of_isGraphName named]
  · intro q
    rw [(SetGraph.proper_empty named).mem_add fun q member => isProper_of_isStorable (storable q member),
      home]
    simp [SetGraph.empty]

end

section

variable {name : Term} (named : name.isGraphName = true) {quads : List Quad}
  (storable : ∀ q ∈ quads, q.isStorable = true)
include named storable

theorem Takes.stores {g : Graph} (takes : Takes name quads g) :
    g.name? = some name ∧ ∃ held, g.Stores held ∧ ∀ q, q ∈ held ↔ q ∈ quads.map (·.homed name) := by
  cases takes with
  | @rows g added room =>
    obtain ⟨h, taken, tracks⟩ := add_to_rows named storable
    obtain rfl : h = g := by
      rw [Graph.add, Graph.apply, Columnar.apply, taken] at added
      cases added
      rfl
    refine ⟨congrArg some tracks.name, _, .columnar (tracks.shows room), ?_⟩
    intro q
    have held : q ∈ Distinct.pushAll id [] (quads.map (·.homed name)) ↔
        q ∈ [] ∨ q ∈ quads.map (·.homed name) :=
      Distinct.mem_pushAll (fun _ _ same => same) (fun _ _ same => same)
    rw [held]
    simp
  | set added =>
    obtain ⟨home, members⟩ := add_empty named storable added
    exact ⟨congrArg some home, _, .set _, members⟩
  | @changes s c before after split base added =>
    have earlier : ∀ q ∈ before, q.isStorable = true := fun q member =>
      storable q (split ▸ List.mem_append_left _ member)
    have later : ∀ q ∈ after, q.isStorable = true := fun q member =>
      storable q (split ▸ List.mem_append_right _ member)
    obtain ⟨home, members⟩ := add_empty named earlier base
    have proper : ∀ q ∈ s.quads, q.isProper = true := fun q member =>
      homed_isProper named earlier q ((members q).1 member)
    obtain rfl : { ChangeSet.ofGraph s with current := s.add after } = c := by
      rw [add_to_changes named later home] at added
      cases added
      rfl
    refine ⟨?_, _, .changes _, ?_⟩
    · change some s.name.orDefault = some name
      rw [home, orDefault_of_isGraphName named]
    · intro q
      have sound : s.Proper := ⟨home.symm ▸ named, proper⟩
      rw [sound.mem_add fun q member => isProper_of_isStorable (later q member), home, members, split,
        List.map_append, List.mem_append]
  | served added answers =>
    obtain ⟨-, members⟩ := add_empty named storable added
    exact ⟨rfl, _, .served answers _ _, members⟩

theorem add_succeeds : (∃ g, (Graph.columnar { name }).add quads = (.columnar g, .ok ())) ∧
    (∃ s, (Graph.set (.empty name)).add quads = (.set s, .ok ())) ∧
    ∀ before after, quads = before ++ after → ∃ s c,
      (Graph.set (.empty name)).add before = (.set s, .ok ()) ∧
      (Graph.changes (.ofGraph s)).add after = (.changes c, .ok ()) := by
  refine ⟨?_, ⟨_, add_to_set named storable⟩, ?_⟩
  · obtain ⟨g, taken, -⟩ := add_to_rows named storable
    refine ⟨g, ?_⟩
    rw [Graph.add, Graph.apply, Columnar.apply, taken]
    rfl
  · intro before after split
    have earlier : ∀ q ∈ before, q.isStorable = true := fun q member =>
      storable q (split ▸ List.mem_append_left _ member)
    have later : ∀ q ∈ after, q.isStorable = true := fun q member =>
      storable q (split ▸ List.mem_append_right _ member)
    have base := add_to_set named earlier
    have home := (add_empty named earlier base).1
    exact ⟨_, _, base, add_to_changes named later home⟩

end

namespace Pull

/-- A source that gives the answers of another, each of them in an order of its own. -/
structure Source.Reorders (t s : Source) : Prop where
  find : ∀ l quads, s.find l = .ok quads → ∃ others, t.find l = .ok others ∧ others.Perm quads
  quads : ∀ quads, s.quads = .ok quads → ∃ others, t.quads = .ok others ∧ others.Perm quads
  bound : s.bound ≤ t.bound

theorem Source.Reorders.holds {t s : Source} {Q : Finset Quad} (reorders : t.Reorders s)
    (holds : s.Holds Q) :
    t.Holds Q where
  find := by
    intro l proper
    obtain ⟨quads, answered, members⟩ := holds.find l proper
    obtain ⟨others, found, shuffled⟩ := reorders.find l quads answered
    exact ⟨others, found, fun q => shuffled.mem_iff.trans (members q)⟩
  quads := by
    obtain ⟨quads, listed, members⟩ := holds.quads
    obtain ⟨others, found, shuffled⟩ := reorders.quads quads listed
    exact ⟨others, found, fun q => shuffled.mem_iff.trans (members q)⟩
  bound := Nat.le_trans holds.bound reorders.bound

/-- Pulls from stores to which the same quads were added, in any order and any number of times, come to
the same; and so does a pull from a store that lists its answers in another order. -/
theorem pull_independent_of_store {name : Term} (named : name.isGraphName = true)
    {quads others : List Quad} (storable : ∀ q ∈ quads, q.isStorable = true)
    (same : ∀ q, q ∈ others ↔ q ∈ quads) {expression : Value} (typed : isTyped expression = true)
    {start : Option Term} (given : ∀ s ∈ start, s.isProper = true) (settings : LookupSettings) :
    (∃ g, (Graph.columnar { name }).add quads = (.columnar g, .ok ())) ∧
    (∃ s, (Graph.set (.empty name)).add quads = (.set s, .ok ())) ∧
    (∀ before after, quads = before ++ after → ∃ s c,
      (Graph.set (.empty name)).add before = (.set s, .ok ()) ∧
      (Graph.changes (.ofGraph s)).add after = (.changes c, .ok ())) ∧
    ∀ g h, Takes name quads g → Takes name others h →
      Alike ((g.pullWith settings expression start).map (·.1))
        ((h.pullWith settings expression start).map (·.1)) ∧
      ∀ source : Source, source.Reorders g.source →
        Alike (pull settings name source expression start)
          ((h.pullWith settings expression start).map (·.1)) := by
  obtain ⟨rows, set, changes⟩ := add_succeeds named storable
  refine ⟨rows, set, changes, ?_⟩
  intro g h takes takes'
  have storable' : ∀ q ∈ others, q.isStorable = true := fun q member => storable q ((same q).1 member)
  obtain ⟨g_name, held, stores, members⟩ := takes.stores named storable
  obtain ⟨h_name, held', stores', members'⟩ := takes'.stores named storable'
  have together : held'.toFinset = held.toFinset := by
    ext q
    simp only [List.mem_toFinset, members, members', List.mem_map, same]
  have proper : ∀ q ∈ held.toFinset, q.isProper = true := fun q member =>
    homed_isProper named storable q ((members q).1 (List.mem_toFinset.1 member))
  have from_h := pulls_of_holds (together ▸ stores'.holds) proper typed given settings name
  have from_g := pulls_of_holds stores.holds proper typed given settings name
  have h_pull : (h.pullWith settings expression start).map (·.1) =
      pull settings name h.source expression start := by
    rw [pull_eq_map, Graph.pullWith, h_name, Option.getD_some]
  have g_pull : (g.pullWith settings expression start).map (·.1) =
      pull settings name g.source expression start := by
    rw [pull_eq_map, Graph.pullWith, g_name, Option.getD_some]
  rw [h_pull, g_pull]
  refine ⟨from_g.alike from_h, ?_⟩
  intro source reorders
  exact (pulls_of_holds (reorders.holds stores.holds) proper typed given settings name).alike from_h

def repeated : List Quad :=
  [⟨.blank "b", .iri "p", .iri "a", .defaultGraph⟩, ⟨.iri "a", .iri "p", .blank "b", .iri "g"⟩,
    ⟨.blank "b", .iri "p", .iri "a", .defaultGraph⟩]

theorem pull_of_repeated : ∃ g s,
    (Graph.columnar { name := .iri "g" }).add repeated = (.columnar g, .ok ()) ∧
    (Graph.set (.empty (.iri "g"))).add (repeated.take 2).reverse = (.set s, .ok ()) ∧
    Alike (((Graph.columnar g).pullWith {} (.list [.text "*"]) none).map (·.1))
      (((Graph.set s).pullWith {} (.list [.text "*"]) none).map (·.1)) := by
  have storable : ∀ q ∈ repeated, q.isStorable = true := by decide
  have same : ∀ q, q ∈ (repeated.take 2).reverse ↔ q ∈ repeated := by
    intro q
    simp only [repeated, List.take, List.reverse_cons, List.reverse_nil, List.nil_append, List.cons_append,
      List.mem_cons, List.not_mem_nil, or_false]
    tauto
  have given : ∀ s ∈ (none : Option Term), s.isProper = true := by simp
  have typed : isTyped (.list [.text "*"]) = true := by decide
  have named : (Term.iri "g").isGraphName = true := rfl
  obtain ⟨⟨g, rows⟩, -, -, alike⟩ := pull_independent_of_store named storable same typed given {}
  have four : (({ name := .iri "g" } : Columnar).add repeated).1.terms.ids.length = 4 := by decide +kernel
  have room : ∀ k, g.terms.count k < TermId.payloadSize := by
    intro k
    have taken : (({ name := .iri "g" } : Columnar).add repeated).1 = g := by
      have first := congrArg Prod.fst rows
      exact Graph.columnar.inj first
    rw [taken] at four
    have few : g.terms.count k ≤ 4 := four ▸ List.countP_le_length
    exact Nat.lt_of_le_of_lt few (by decide)
  have set := add_to_set named (fun q member => storable q ((same q).1 member))
  exact ⟨g, _, rows, set, (alike _ _ (.rows rows room) (.set set)).1⟩

end Pull

end QuadPull
