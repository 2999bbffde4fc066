import QuadPull.Proofs.Removal
/-!
Differences replayed on graphs of any name. A named graph takes a quad of the default graph for the same
statement under its name, in what comes in and in what goes out. As what goes out goes last, a quad that
was added is not there afterwards when a removed one comes to the same.
-/

namespace QuadPull

/-- Two quads that a graph of a name takes for one: they state the same, one of them in the default graph
and the other under the name. -/
structure Quad.Meets (home : Term) (q r : Quad) : Prop where
  named : home ≠ .defaultGraph
  subject : q.subject = r.subject
  predicate : q.predicate = r.predicate
  object : q.object = r.object
  graphs : q.graph = .defaultGraph ∧ r.graph = home ∨ q.graph = home ∧ r.graph = .defaultGraph

theorem Quad.homed_eq_iff {home : Term} {q r : Quad} :
    q.homed home = r.homed home ↔ q = r ∨ q.Meets home r := by
  obtain ⟨s, p, o, g⟩ := q
  obtain ⟨s', p', o', g'⟩ := r
  constructor
  · intro same
    by_cases loose : g = .defaultGraph <;> by_cases loose' : g' = .defaultGraph <;>
      simp only [Quad.homed, loose, loose', if_true, if_false, Quad.mk.injEq] at same
    · obtain ⟨rfl, rfl, rfl, -⟩ := same
      rw [loose, loose']
      exact .inl rfl
    · obtain ⟨rfl, rfl, rfl, rfl⟩ := same
      exact .inr ⟨loose', rfl, rfl, rfl, .inl ⟨loose, rfl⟩⟩
    · obtain ⟨rfl, rfl, rfl, rfl⟩ := same
      exact .inr ⟨loose, rfl, rfl, rfl, .inr ⟨rfl, loose'⟩⟩
    · obtain ⟨rfl, rfl, rfl, rfl⟩ := same
      exact .inl rfl
  · rintro (same | meets)
    · rw [same]
    · obtain ⟨named, rfl, rfl, rfl, ⟨rfl, rfl⟩ | ⟨rfl, rfl⟩⟩ := meets <;> simp [Quad.homed, named]

namespace ChangeSet

variable {c : ChangeSet} {base : SetGraph}

structure Sound (c : ChangeSet) (base : SetGraph) : Prop where
  origin : c.base = base
  was : base.Proper
  current : c.current.Proper
  named : c.name.isGraphName = true

theorem sound_ofGraph (proper : base.Proper) : (ofGraph base).Sound base where
  origin := rfl
  was := proper
  current := proper
  named := by
    rw [ofGraph, orDefault_of_isGraphName proper.named]
    exact proper.named

theorem Sound.apply (sound : c.Sound base) {e : Edit} (proper : e.isProper = true) :
    (c.apply e).1.Sound base :=
  ⟨sound.origin, sound.was, (sound.current.edit proper).1, sound.named⟩

theorem Sound.clear (sound : c.Sound base) : c.clear.Sound base :=
  ⟨sound.origin, sound.was, SetGraph.proper_empty sound.named, sound.named⟩

theorem Sound.delta (sound : c.Sound base) :
    (∀ q ∈ c.delta.added, q.isProper = true) ∧ (∀ q ∈ c.delta.removed, q.isProper = true) ∧
      ∀ q ∈ c.delta.added, q ∉ c.delta.removed := by
  have was : ∀ q ∈ c.base.quads, q.isProper = true := sound.origin ▸ sound.was.quads
  have now := sound.current.quads
  exact ⟨fun q member => now q ((mem_added was).1 member).1,
    fun q member => was q ((mem_removed now).1 member).1, (exact_of_proper was now).apart⟩

end ChangeSet

inductive Revision where
  | write (e : Edit)
  | clear
  | rename (name : Term)

def Revision.isTyped : Revision → Bool
  | .write e => e.isProper
  | .clear => true
  | .rename name => name.isGraphName

namespace Workspace

def revise (w : Workspace) (id : Nat) : Revision → Workspace
  | .write e => (apply (w, id) e).1.1
  | .clear => (w.clear id).toOption.getD w
  | .rename name => (w.rename id name).toOption.getD w

def reviseAll (w : Workspace) (id : Nat) (revisions : List Revision) : Workspace :=
  revisions.foldl (fun w revision => w.revise id revision) w

variable {w : Workspace} {id : Nat} {c : ChangeSet} {base : SetGraph}

theorem Has.rename (has : w.Has id (.changes c)) (name : Term) :
    ∃ w', Workspace.rename w id name = .ok w' ∧ w'.Has id (.changes { c with name }) := by
  cases has with
  | graph entry =>
    refine ⟨w.put id (.graph (.changes { c with name })), ?_, .graph (entry_put _ (lt_of_entry entry))⟩
    rw [Workspace.rename, entry]
    rfl
  | @changes first last _ was now entry first_entry last_entry =>
    have others : ∀ {k : Nat} {h : Graph}, w.entries[k]? = some (.graph h) → k ≠ id := by
      rintro k h graph rfl
      rw [entry] at graph
      cases graph
    refine ⟨w.put id (.changes name first last), ?_, .changes (entry_put _ (lt_of_entry entry)) ?_ ?_⟩
    · rw [Workspace.rename, entry]
    · rw [kept_put _ (others first_entry), first_entry]
    · rw [kept_put _ (others last_entry), last_entry]

theorem Has.revise (has : w.Has id (.changes c)) (sound : c.Sound base) {revision : Revision}
    (typed : revision.isTyped = true) :
    ∃ d, (w.revise id revision).Has id (.changes d) ∧ d.Sound base := by
  cases revision with
  | write e =>
    obtain ⟨⟨w', id'⟩, made, has', leads⟩ := has.apply e
    obtain rfl : id' = id := leads.here rfl
    refine ⟨(c.apply e).1, ?_, sound.apply typed⟩
    rw [Workspace.revise, made]
    exact has'
  | clear =>
    obtain ⟨w', cleared, has', -⟩ := has.clear
    refine ⟨c.clear, ?_, sound.clear⟩
    rw [Workspace.revise, cleared]
    exact has'
  | rename name =>
    obtain ⟨w', renamed, has'⟩ := has.rename name
    refine ⟨{ c with name }, ?_, sound.origin, sound.was, sound.current, typed⟩
    rw [Workspace.revise, renamed]
    exact has'

theorem Has.reviseAll (has : w.Has id (.changes c)) (sound : c.Sound base) {revisions : List Revision}
    (typed : ∀ revision ∈ revisions, revision.isTyped = true) :
    ∃ d, (w.reviseAll id revisions).Has id (.changes d) ∧ d.Sound base := by
  induction revisions generalizing w c with
  | nil => exact ⟨c, has, sound⟩
  | cons revision rest ih =>
    obtain ⟨d, has', sound'⟩ := has.revise sound (typed revision List.mem_cons_self)
    exact ih has' sound' fun other member => typed other (List.mem_cons_of_mem _ member)

/-- Whatever was done to a change set over any set: after the replay of its difference on any graph an added
quad is there, where it is at home, unless a removed quad meets it there. -/
theorem added_there_iff {under : Nat} {revisions : List Revision} (was : base.Proper)
    (stored : w.graph under = .ok (.set base))
    (typed : ∀ revision ∈ revisions, revision.isTyped = true) :
    ∃ w₁ id w₂ c, w.changesOver (some under) = .ok (w₁, id) ∧ w₁.reviseAll id revisions = w₂ ∧
      w₂.changes id = .ok c ∧ c.base = base ∧
      ∀ target g home accepts held, w₂.graph target = .ok g → g.Keeps home accepts held →
        (∀ q ∈ c.delta.added, accepts q = true) →
        ∃ place kept, EndsAt (Workspace.replay (w₂, target) c.delta) place home accepts kept ∧
          (∀ q ∈ c.delta.added,
            q.homed home ∈ kept ↔ ¬ ∃ r ∈ c.delta.removed, Quad.Meets home q r) ∧
          ∀ q, q ∈ kept ↔
            (q ∈ held ∨ q ∈ c.delta.added.map (·.homed home)) ∧ q ∉ c.delta.removed.map (·.homed home) := by
  have has : w.Has under (.set base) := has_of_graph_eq stored (by simp)
  obtain ⟨w₁, id, opened, has', -⟩ := has_changesOver has
  obtain ⟨c, revised, sound⟩ := has'.reviseAll (ChangeSet.sound_ofGraph was) typed
  refine ⟨w₁, id, _, c, opened, rfl, ?_, sound.origin, ?_⟩
  · rw [Workspace.changes, revised.graph_eq]
  intro target g home accepts held found keeps accepted
  obtain ⟨-, removed_proper, apart⟩ := sound.delta
  have target_has := has_of_graph_eq found keeps.plain
  obtain ⟨place, h, kept, replayed, has'', -, keeps', -, members⟩ :=
    target_has.replay_homed keeps accepted removed_proper
  refine ⟨place, kept, has''.endsAt keeps' replayed, ?_, members⟩
  intro q added
  have came : q.homed home ∈ c.delta.added.map (·.homed home) := List.mem_map_of_mem added
  have gone : q.homed home ∈ c.delta.removed.map (·.homed home) ↔
      ∃ r ∈ c.delta.removed, Quad.Meets home q r := by
    rw [List.mem_map]
    constructor
    · rintro ⟨r, removed, same⟩
      rcases Quad.homed_eq_iff.1 same.symm with rfl | meets
      · exact absurd removed (apart _ added)
      · exact ⟨r, removed, meets⟩
    · rintro ⟨r, removed, meets⟩
      exact ⟨r, removed, (Quad.homed_eq_iff.2 (.inr meets)).symm⟩
  rw [members, ← gone]
  simp [came]

def unplaced : Quad := ⟨.iri "s", .iri "p", .iri "o", .defaultGraph⟩

def placed : Quad := { unplaced with graph := .iri "g" }

def namesakes : Workspace where
  entries := [.graph (.set (.ofList .defaultGraph [unplaced])), .graph (.set (.empty (.iri "g"))),
    .graph (.columnar { name := .iri "g" })]

def moved : List Revision :=
  [.write (.add [placed]), .write (.remove [unplaced]),
    .write (.add [{ unplaced with predicate := .iri "q" }])]

theorem moved_is_lost : ∃ w₁ c place s, namesakes.changesOver (some 0) = .ok (w₁, 3) ∧
    (w₁.reviseAll 3 moved).changes 3 = .ok c ∧ placed ∈ c.delta.added ∧
    Workspace.replay (w₁.reviseAll 3 moved, 1) c.delta = (place, .ok ()) ∧
    place.1.graph place.2 = .ok (.set s) ∧ placed.homed s.name ∉ s.quads :=
  ⟨_, _, _, _, rfl, rfl, by decide, rfl, rfl, by decide⟩

theorem added_there_of_moved : ∃ w₁ c place kept, namesakes.changesOver (some 0) = .ok (w₁, 3) ∧
    (w₁.reviseAll 3 moved).changes 3 = .ok c ∧
    EndsAt (Workspace.replay (w₁.reviseAll 3 moved, 2) c.delta) place (.iri "g") Quad.isStorable kept ∧
    placed ∈ c.delta.added ∧ placed ∉ kept ∧ { placed with predicate := .iri "q" } ∈ kept := by
  have was : (SetGraph.ofList .defaultGraph [unplaced]).Proper := ⟨rfl, by decide⟩
  have stored : namesakes.graph 0 = .ok (.set (.ofList .defaultGraph [unplaced])) := rfl
  have typed : ∀ revision ∈ moved, revision.isTyped = true := by decide
  obtain ⟨w₁, id, w₂, c, opened, revised, changes, -, replayed⟩ := added_there_iff was stored typed
  obtain rfl : id = 3 := (congrArg Prod.snd (Except.ok.inj opened)).symm
  subst revised
  have known : ∃ v, namesakes.changesOver (some 0) = .ok (v, 3) ∧
      ∃ d, (v.reviseAll 3 moved).changes 3 = .ok d ∧
      d.delta.added = [placed, { unplaced with predicate := .iri "q" }] ∧ d.delta.removed = [unplaced] ∧
      (v.reviseAll 3 moved).graph 2 = .ok (.columnar { name := .iri "g" }) :=
    ⟨_, rfl, _, rfl, by decide, by decide, rfl⟩
  obtain ⟨v, opened', d, changes', added, removed, rows⟩ := known
  obtain rfl : v = w₁ := congrArg Prod.fst (Except.ok.inj (opened'.symm.trans opened))
  obtain rfl : d = c := Except.ok.inj (changes'.symm.trans changes)
  have keeps : (Graph.columnar { name := .iri "g" }).Keeps (.iri "g") Quad.isStorable [] := by
    have named : (Term.iri "g").isGraphName = true := rfl
    have made : (Columnar.ofList (.iri "g") [] >>= fun c => c.obeyAll []) = .ok { name := .iri "g" } := rfl
    exact Graph.keeps_of_commands named (by simp) (by simp) made
  have storable : ∀ q ∈ d.delta.added, q.isStorable = true := by
    rw [added]
    decide
  obtain ⟨place, kept, ends, there, -⟩ := replayed 2 _ _ _ _ rows keeps storable
  rw [added, removed] at there
  refine ⟨v, d, place, kept, opened, changes, ends, ?_, ?_, ?_⟩
  · rw [added]
    decide
  · intro member
    have meets : Quad.Meets (.iri "g") placed unplaced :=
      ⟨by decide, rfl, rfl, rfl, .inr ⟨rfl, rfl⟩⟩
    exact (there placed (by decide)).1 member ⟨unplaced, by decide, meets⟩
  · apply (there { unplaced with predicate := .iri "q" } (by decide)).2
    rintro ⟨r, member, meets⟩
    rw [List.mem_singleton.1 member] at meets
    exact absurd meets.predicate (by decide)

end Workspace

end QuadPull
