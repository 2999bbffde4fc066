import QuadPull.Proofs.Naming
import QuadPull.Proofs.Replay

namespace QuadPull

namespace SetGraph

variable {name : Term} {quads : List Quad}

theorem mem_ofList (proper : ∀ q ∈ quads, q.isProper = true) {q : Quad} :
    q ∈ (ofList name quads).quads ↔ q ∈ quads := by
  apply Distinct.mem_ofList
  intro r member same
  exact (Quad.eq_of_settled_eq (proper r member) same.symm).symm

theorem settled_ofList (named : name.isGraphName = true) (proper : ∀ q ∈ quads, q.isProper = true)
    (home : AtHome name quads) : (ofList name quads).Settled name where
  named := by rwa [ofList, orDefault_of_isGraphName named]
  quads := fun q member => proper q ((mem_ofList proper).1 member)
  here := orDefault_of_isGraphName named
  home := fun q member => home q ((mem_ofList proper).1 member)

/-- One quad for another, both at home: the one comes in before the other goes out. -/
theorem Settled.swap {s : SetGraph} {old new : Quad} (settled : s.Settled name)
    (old_proper : old.isProper = true) (new_proper : new.isProper = true) (old_home : old.homed name = old)
    (new_home : new.homed name = new) {q : Quad} :
    q ∈ ((s.add [new]).remove [old]).quads ↔ (q ∈ s.quads ∨ q = new) ∧ q ≠ old := by
  have added : (s.add [new]).Settled name := settled.add (by simpa using new_proper)
  rw [added.mem_remove (by simpa using old_proper), settled.mem_add (by simpa using new_proper), added.here,
    settled.here]
  simp [old_home, new_home]

theorem ofMembers_of_proper (proper : ∀ q ∈ quads, q.isProper = true) :
    ofMembers name quads = .ok (ofList name quads) := by
  rw [ofMembers, if_pos]
  exact List.all_eq_true.2 fun q member => Quad.hashable_of_isProper (proper q member)

end SetGraph

namespace Skolem

structure Halfway (state : ChangeSet × Naming) (base : SetGraph) (stem : String) (start : Nat)
    (seen : List Quad) : Prop where
  based : state.1.Over base
  sound : state.2.Sound stem start
  labels : ∀ label, (∃ name, given state.2.names label = some name) ↔ ∃ q ∈ seen, q.Marks label
  current : ∀ q, q ∈ state.1.current.quads ↔
    (q ∈ base.quads ∧ (isRenamed q = true → q ∉ seen)) ∨
      ∃ r ∈ seen, isRenamed r = true ∧ r.renamed (given state.2.names) = q

variable {state : ChangeSet × Naming} {base : SetGraph} {stem : String} {start : Nat} {seen : List Quad}
  {q : Quad}

theorem halfway_start (settled : base.Settled base.name) (stem : String) (start : Nat) :
    Halfway (.ofGraph base, { stem, next := start }) base stem start [] where
  based := ChangeSet.over_ofGraph settled
  sound := ⟨rfl, rfl, .nil⟩
  labels := by simp [given]
  current := by simp [ChangeSet.ofGraph]

theorem step_of_not_isRenamed (plain : isRenamed q = false) : step state q = state := by
  obtain ⟨c, n⟩ := state
  rw [step, if_neg (by simp [plain])]

theorem Halfway.pass (halfway : Halfway state base stem start seen) (proper : q.isProper = true)
    (settled : isRenamed q = false) : Halfway state base stem start (seen ++ [q]) where
  based := halfway.based
  sound := halfway.sound
  labels := by
    intro label
    have unmarked : ¬ q.Marks label := fun marks => by
      have renamed := (isRenamed_iff proper).2 ⟨label, marks⟩
      rw [settled] at renamed
      cases renamed
    rw [halfway.labels]
    simp [or_and_right, exists_or, unmarked]
  current := by
    have apart : ∀ r, isRenamed r = true → r ≠ q := by
      rintro r renamed rfl
      rw [settled] at renamed
      cases renamed
    intro r
    rw [halfway.current]
    simp only [List.mem_append, List.mem_singleton]
    grind

theorem Halfway.replace (halfway : Halfway state base stem start seen)
    (proper : ∀ r ∈ base.quads, r.isProper = true) (among : ∀ r ∈ seen, r ∈ base.quads)
    (settled : AtHome base.name base.quads) (member : q ∈ base.quads) (renamed : isRenamed q = true) :
    Halfway (step state q) base stem start (seen ++ [q]) := by
  obtain ⟨c, n⟩ := state
  obtain ⟨based, sound, labels, current⟩ := halfway
  obtain ⟨after, named, sound', grows⟩ := Naming.renameQuad_spec sound (proper q member)
  simp only at labels current
  have known : ∀ r, r ∈ seen ∨ r = q → ∀ label, r.Marks label →
      ∃ name, given after.names label = some name := by
    rintro r (old | rfl) label marks
    · exact (grows.labels label).2 (.inl ((labels label).2 ⟨r, old, marks⟩))
    · exact (grows.labels label).2 (.inr marks)
  have stays : ∀ r ∈ seen, r.renamed (given after.names) = r.renamed (given n.names) := fun r old =>
    Quad.renamed_of_more grows.kept fun label marks => (labels label).2 ⟨r, old, marks⟩
  have new_proper := Quad.isProper_renamed (given after.names) (proper q member)
  have new_home : (q.renamed (given after.names)).homed base.name = q.renamed (given after.names) := by
    rw [Quad.homed_renamed, settled q member]
  have stepped : step (c, n) q = ((c.add [q.renamed (given after.names)]).remove [q], after) := by
    rw [step, if_pos renamed, named]
  rw [stepped]
  refine ⟨(based.add (by simpa using new_proper)).remove [q], sound', ?_, ?_⟩
  · intro label
    rw [grows.labels, labels]
    simp [or_and_right, exists_or]
  · intro r
    -- What has come in before stays: it has no blank node, and the quad that goes out has one.
    have gone : ∀ s, s ∈ seen ∨ s = q → s.renamed (given after.names) ≠ q := by
      intro s old same
      have blank : s.isProper = true := by
        rcases old with old | rfl
        · exact proper s (among s old)
        · exact proper s member
      have none := isRenamed_renamed blank (known s old)
      rw [same, renamed] at none
      cases none
    have swapped := based.current.swap (proper q member) new_proper (settled q member) new_home (q := r)
    refine swapped.trans ?_
    rw [current]
    simp only [List.mem_append, List.mem_singleton]
    constructor
    · rintro ⟨(⟨held, unseen⟩ | ⟨s, old, blank, rfl⟩) | rfl, apart⟩
      · exact .inl ⟨held, fun blank => not_or.2 ⟨unseen blank, apart⟩⟩
      · exact .inr ⟨s, .inl old, blank, stays s old⟩
      · exact .inr ⟨q, .inr rfl, renamed, rfl⟩
    · rintro (⟨held, unseen⟩ | ⟨s, old | rfl, blank, rfl⟩)
      · refine ⟨.inl (.inl ⟨held, fun blank => (not_or.1 (unseen blank)).1⟩), ?_⟩
        rintro rfl
        exact (not_or.1 (unseen renamed)).2 rfl
      · exact ⟨.inl (.inr ⟨s, old, blank, (stays s old).symm⟩), gone s (.inl old)⟩
      · exact ⟨.inr rfl, gone s (.inr rfl)⟩

theorem Halfway.step (halfway : Halfway state base stem start seen) (settled : base.Settled base.name)
    (among : ∀ r ∈ seen, r ∈ base.quads) (member : q ∈ base.quads) :
    Halfway (step state q) base stem start (seen ++ [q]) := by
  by_cases renamed : isRenamed q = true
  · exact halfway.replace settled.quads among settled.home member renamed
  · have plain : isRenamed q = false := by simpa using renamed
    rw [step_of_not_isRenamed plain]
    exact halfway.pass (settled.quads q member) plain

theorem Halfway.run (halfway : Halfway state base stem start seen) (settled : base.Settled base.name)
    (among : ∀ r ∈ seen, r ∈ base.quads) {rest : List Quad} (left : ∀ r ∈ rest, r ∈ base.quads) :
    Halfway (rest.foldl Skolem.step state) base stem start (seen ++ rest) := by
  induction rest generalizing state seen with
  | nil =>
    rw [List.append_nil]
    exact halfway
  | cons q rest ih =>
    have member := left q List.mem_cons_self
    have next := halfway.step settled among member
    have together : seen ++ q :: rest = seen ++ [q] ++ rest := by simp
    rw [together]
    apply ih next
    · intro r seen_or_here
      rcases List.mem_append.1 seen_or_here with old | here
      · exact among r old
      · rwa [List.mem_singleton.1 here]
    · exact fun r later => left r (List.mem_cons_of_mem _ later)

variable {name : Term} {quads : List Quad}

theorem changes_spec (named : name.isGraphName = true) (proper : ∀ q ∈ quads, q.isProper = true)
    (home : AtHome name quads) (stem : String) (start : Nat) :
    ∃ (c : ChangeSet) (names : Names) (count : Nat),
      changes name quads stem start = .ok (c.delta, start + count) ∧
      c.Over (.ofList name quads) ∧ Mints names quads stem start count ∧
      ∀ q, q ∈ c.current.quads ↔ ∃ r ∈ quads, r.renamed names = q := by
  have settled := SetGraph.settled_ofList named proper home
  have members : ∀ q, q ∈ (SetGraph.ofList name quads).quads ↔ q ∈ quads := fun q =>
    SetGraph.mem_ofList proper
  have under : (SetGraph.ofList name quads).Settled (SetGraph.ofList name quads).name :=
    settled.here.symm ▸ settled
  have done := (halfway_start under stem start).run under (by simp) fun r member => (members r).2 member
  rw [List.nil_append] at done
  revert done
  generalize ran : quads.foldl step (.ofGraph (.ofList name quads), { stem, next := start }) = state
  intro done
  obtain ⟨based, sound, labels, current⟩ := done
  refine ⟨state.1, given state.2.names, state.2.names.length, ?_, based, ?_, ?_⟩
  · have room : (SetGraph.ofList name quads).canHold (quads.filter isRenamed) = true :=
      SetGraph.canHold_of_proper settled.named fun q member => proper q (List.mem_of_mem_filter member)
    rw [changes, SetGraph.ofMembers_of_proper proper, ← sound.next]
    simp [bind, Except.bind, pure, Except.pure, room, ran]
  · exact ⟨labels, fun _ _ _ => given_injective sound.issued, fun _ => given_values sound.issued⟩
  · intro q
    rw [current, members]
    constructor
    · rintro (⟨held, plain⟩ | ⟨r, member, -, same⟩)
      · refine ⟨q, held, renamed_of_not_isRenamed _ ?_⟩
        by_contra renamed
        exact plain (by simpa using renamed) held
      · exact ⟨r, member, same⟩
    · rintro ⟨r, member, rfl⟩
      by_cases renamed : isRenamed r = true
      · exact .inr ⟨r, member, renamed, rfl⟩
      · have plain : isRenamed r = false := by simpa using renamed
        rw [renamed_of_not_isRenamed _ plain]
        exact .inl ⟨member, fun blank => absurd blank renamed⟩

theorem foldl_step_of_plain (plain : ∀ q ∈ quads, isRenamed q = false) :
    quads.foldl step state = state := by
  induction quads with
  | nil => rfl
  | cons q rest ih =>
    rw [List.foldl_cons, step_of_not_isRenamed (plain q List.mem_cons_self)]
    exact ih fun r later => plain r (List.mem_cons_of_mem _ later)

theorem changes_of_plain (proper : ∀ q ∈ quads, q.isProper = true)
    (plain : ∀ q ∈ quads, isRenamed q = false) (stem : String) (start : Nat) :
    changes name quads stem start = .ok (⟨[], []⟩, start) := by
  have alike : ∀ g : SetGraph, (ChangeSet.ofGraph g).delta = ⟨[], []⟩ := by
    intro g
    have nothing : Distinct.without Quad.settled g.quads g.quads = [] := by
      rw [Distinct.without, List.filter_eq_nil_iff]
      intro q member
      simp [Distinct.holds_of_mem member]
    rw [ChangeSet.delta, ChangeSet.ofGraph, nothing]
  have room : (SetGraph.ofList name quads).canHold (quads.filter isRenamed) = true := by
    have none : quads.filter isRenamed = [] :=
      List.filter_eq_nil_iff.2 fun q member => by simp [plain q member]
    rw [none]
    rfl
  rw [changes, SetGraph.ofMembers_of_proper proper]
  simp [bind, Except.bind, pure, Except.pure, room, foldl_step_of_plain plain, alike]

/-- The stem of the names in a graph: that of a named graph begins with its name. -/
def stemUnder (name : Term) (stem : String) : String :=
  match name with
  | .iri value => value ++ stem
  | _ => stem

theorem stemIn_of_isGraphName (named : name.isGraphName = true) (stem : String) :
    stemIn name stem = .ok (stemUnder name stem) := by
  cases name with
  | iri value => rfl
  | defaultGraph => rfl
  | _ => cases named

end Skolem

theorem Graph.Keeps.accepts_renamed {g : Graph} {home : Term} {accepts : Quad → Bool} {held : List Quad}
    (keeps : g.Keeps home accepts held) (names : Names) {q : Quad} (accepted : accepts q = true) :
    accepts (q.renamed names) = true := by
  cases keeps with
  | inner => exact Quad.isProper_renamed names accepted
  | columnar => exact Quad.isStorable_renamed names accepted

namespace Workspace

open Skolem

variable {w : Workspace} {id : Nat} {g : Graph} {name home : Term} {accepts : Quad → Bool}
  {held : List Quad}

theorem skolemize_eq (stored : w.graph id = .ok g) (listed : g.quads = .ok held)
    (called : g.name? = some name) (named : name.isGraphName = true) {stem : String} {d : Delta} {next : Nat}
    (made : Skolem.changes name held (stemUnder name stem) w.nextName = .ok (d, next)) :
    skolemize (w, id) stem = replay ({ w with nextName := next }, id) d := by
  simp only [skolemize, stored, called, listed, stemIn_of_isGraphName named, Graph.orNotOffered, Option.elim,
    bind, Except.bind, made]

theorem Has.skolemize (has : w.Has id g) (keeps : g.Keeps home accepts held) (room : g.HasRoom)
    (called : g.name? = some name) (named : name.isGraphName = true) (under : AtHome name held)
    (here : AtHome home held) (stem : String) :
    ∃ names count place h kept, skolemize (w, id) stem = (place, .ok ()) ∧
      Mints names held (stemUnder name stem) w.nextName count ∧
      place.1.nextName = w.nextName + count ∧
      place.1.Has place.2 h ∧ h.Keeps home accepts kept ∧ h.name? = some name ∧
      (∀ q, q ∈ kept ↔ ∃ r ∈ held, r.renamed names = q) ∧
      (g.writesInPlace = true → place.2 = id) ∧ (g.writesInPlace = false → place.1.Has id g) := by
  have proper : ∀ q ∈ held, q.isProper = true := fun q member => keeps.isProper (keeps.accepted q member)
  obtain ⟨c, names, count, made, based, mints, renamed⟩ :=
    changes_spec named proper under (stemUnder name stem) w.nextName
  have was : ∀ q, q ∈ c.base.quads ↔ q ∈ held := by
    intro q
    rw [based.origin, SetGraph.mem_ofList proper]
  have was_proper : ∀ q ∈ c.base.quads, q.isProper = true := fun q member => proper q ((was q).1 member)
  -- The difference takes quads of the graph away and brings in renamed ones, so all of them are at home.
  have coming : ∀ q ∈ c.delta.added, ∃ r ∈ held, r.renamed names = q :=
    fun q member => (renamed q).1 ((ChangeSet.mem_added was_proper).1 member).1
  have going : ∀ q ∈ c.delta.removed, q ∈ held :=
    fun q member => (was q).1 ((ChangeSet.mem_removed based.current.quads).1 member).1
  have accepted : ∀ q ∈ c.delta.added, accepts q = true := by
    intro q member
    obtain ⟨r, among, rfl⟩ := coming q member
    exact keeps.accepts_renamed names (keeps.accepted r among)
  have coming_home : AtHome home c.delta.added := by
    intro q member
    obtain ⟨r, among, rfl⟩ := coming q member
    rw [Quad.homed_renamed, here r among]
  have has' : ({ w with nextName := w.nextName + count } : Workspace).Has id g := has.of_entries rfl
  obtain ⟨place, h, kept, replayed, has'', leads, keeps', same, members⟩ :=
    has'.replay keeps accepted (fun q member => proper q (going q member)) coming_home
      fun q member => here q (going q member)
  refine ⟨names, count, place, h, kept, ?_, mints, leads.nextName, has'', keeps', same.trans called, ?_,
    leads.here, fun later => leads.has has' (.inr later) has'⟩
  · rw [skolemize_eq has.graph_eq (keeps.quads room) called named made, replayed]
  · intro q
    have exact := ChangeSet.exact_of_proper was_proper based.current.quads
    rw [members, ← was, exact.from_base, renamed]

theorem skolemize_plain {place : At} (has : place.1.Has place.2 g) (keeps : g.Keeps home accepts held)
    (room : g.HasRoom) (called : g.name? = some name) (named : name.isGraphName = true)
    (plain : ∀ q ∈ held, isRenamed q = false) (stem : String) :
    Workspace.skolemize place stem = (place, .ok ()) := by
  have proper : ∀ q ∈ held, q.isProper = true := fun q member => keeps.isProper (keeps.accepted q member)
  have made : Skolem.changes name held (stemUnder name stem) place.1.nextName =
      .ok (⟨[], []⟩, place.1.nextName) := changes_of_plain proper plain _ _
  exact skolemize_eq has.graph_eq (keeps.quads room) called named made

/-- What giving names to blank nodes makes of a graph: each of its quads with the names in the place of
the labels, and no blank node that could be named again. -/
theorem skolemize_renames (stored : w.graph id = .ok g) (keeps : g.Keeps home accepts held) (room : g.HasRoom)
    (called : g.name? = some name) (named : name.isGraphName = true) (under : AtHome name held)
    (here : AtHome home held) (stem : String) :
    ∃ names count place h kept, skolemize (w, id) stem = (place, .ok ()) ∧
      Mints names held (stemUnder name stem) w.nextName count ∧
      place.1.nextName = w.nextName + count ∧
      place.1.graph place.2 = .ok h ∧ h.Keeps home accepts kept ∧ h.name? = some name ∧
      (h.HasRoom → h.quads = .ok kept) ∧
      (∀ q, q ∈ kept ↔ ∃ r ∈ held, r.renamed names = q) ∧
      (∀ q ∈ kept, q.subject.isBlank = false ∧ q.object.isBlank = false) ∧
      (h.HasRoom → ∀ again, skolemize place again = (place, .ok ())) ∧
      (g.writesInPlace = true → place.2 = id) ∧
      (g.writesInPlace = false → place.1.graph id = .ok g) := by
  obtain ⟨names, count, place, h, kept, done, mints, next, has, keeps', called', members, inPlace,
      source⟩ :=
    (has_of_graph_eq stored keeps.plain).skolemize keeps room called named under here stem
  have plain : ∀ q ∈ kept, isRenamed q = false := by
    intro q member
    obtain ⟨r, among, rfl⟩ := (members q).1 member
    exact isRenamed_renamed (keeps.isProper (keeps.accepted r among)) fun label marks =>
      (mints.labels label).2 ⟨r, among, marks⟩
  refine ⟨names, count, place, h, kept, done, mints, next, has.graph_eq, keeps', called', keeps'.quads,
    members, ?_, fun room' => skolemize_plain has keeps' room' called' named plain, inPlace,
    fun later => (source later).graph_eq⟩
  intro q member
  exact Bool.or_eq_false_iff.1 (plain q member)

def marked : List (List Quad) :=
  [[⟨.blank "b", .iri "p", .blank "c", .defaultGraph⟩,
    ⟨.iri "a", .iri "p", .blank "b", .defaultGraph⟩]]

def aboutMarked : Workspace where
  entries := [.graph (.set (.built (.iri "g#") marked))]
  nextName := 7

theorem skolemize_of_marked : ∃ names count place h kept,
    skolemize (aboutMarked, 0) "n" = (place, .ok ()) ∧
    Mints names (SetGraph.built (.iri "g#") marked).quads "g#n" 7 count ∧
    place.1.nextName = 9 ∧ place.1.graph place.2 = .ok h ∧ h.quads = .ok kept ∧
    (∀ q ∈ kept, q.subject.isBlank = false ∧ q.object.isBlank = false) ∧
    (∃ q ∈ kept, q.predicate = .iri "p" ∧ q.subject = .iri "a") ∧
    skolemize place "m" = (place, .ok ()) ∧
    place.1.graph 0 = .ok (.set (.built (.iri "g#") marked)) := by
  have named : (Term.iri "g#").isGraphName = true := rfl
  have proper : ∀ quads ∈ marked, ∀ q ∈ quads, q.isProper = true := by decide
  have settled := SetGraph.settled_built named proper
  have stored : aboutMarked.graph 0 = .ok (.set (.built (.iri "g#") marked)) := rfl
  have keeps := Graph.keeps_built named proper
  have nine : (skolemize (aboutMarked, 0) "n").1.1.nextName = 9 := by decide +kernel
  have kind : ((skolemize (aboutMarked, 0) "n").1.1.graph (skolemize (aboutMarked, 0) "n").1.2).map
      Graph.kindName = .ok "ImmutableSetGraph" := by decide +kernel
  have held : (⟨.iri "a", .iri "p", .blank "b", .iri "g#"⟩ : Quad) ∈
      (SetGraph.built (.iri "g#") marked).quads := by decide
  obtain ⟨names, count, place, h, kept, done, mints, -, has, -, -, listed, members, plain, again, -,
      source⟩ :=
    skolemize_renames stored keeps trivial (congrArg some settled.here) named settled.home settled.home
      "n"
  rw [done] at nine kind
  have room : h.HasRoom := by
    rw [has] at kind
    exact Graph.hasRoom_of_kindName (Except.ok.inj kind)
  refine ⟨names, count, place, h, kept, done, mints, nine, has, listed room, plain, ?_, again room "m",
    source rfl⟩
  exact ⟨_, (members _).2 ⟨_, held, rfl⟩, rfl, rfl⟩

end Workspace

end QuadPull
