import QuadPull.Proofs.Placement
import QuadPull.Proofs.Writing

namespace QuadPull

namespace Graph

variable {home : Term} {accepts : Quad → Bool} {held more : List Quad} {g : Graph}

theorem Keeps.run_add (keeps : Keeps home accepts held g) (accepted : ∀ q ∈ more, accepts q = true) :
    ∃ h kept, Edit.run Graph.apply g (if more.isEmpty then [] else [.add more]) = (h, .ok ()) ∧
      Keeps home accepts kept h ∧ h.name? = g.name? ∧
      ∀ q, q ∈ kept ↔ q ∈ held ∨ q ∈ more.map (·.homed home) := by
  by_cases none : more = []
  · subst none
    exact ⟨g, held, rfl, keeps, rfl, by simp⟩
  · obtain ⟨h, kept, made, keeps', name, members⟩ := keeps.add accepted
    refine ⟨h, kept, ?_, keeps', name, members⟩
    rw [if_neg (by simpa using none), Edit.run, made]
    rfl

theorem Keeps.run_remove (keeps : Keeps home accepts held g) (proper : ∀ q ∈ more, q.isProper = true) :
    ∃ h kept, Edit.run Graph.apply g (if more.isEmpty then [] else [.remove more]) = (h, .ok ()) ∧
      Keeps home accepts kept h ∧ h.name? = g.name? ∧
      ∀ q, q ∈ kept ↔ q ∈ held ∧ q ∉ more.map (·.homed home) := by
  by_cases none : more = []
  · subst none
    exact ⟨g, held, rfl, keeps, rfl, by simp⟩
  · obtain ⟨h, kept, made, keeps', name, members⟩ := keeps.remove proper
    refine ⟨h, kept, ?_, keeps', name, members⟩
    rw [if_neg (by simpa using none), Edit.run, made]
    rfl

/-- A difference is replayed quad by quad, each where it is at home, and nothing else changes. What goes out
goes last. -/
theorem Keeps.replay (keeps : Keeps home accepts held g) {d : Delta}
    (accepted : ∀ q ∈ d.added, accepts q = true) (proper : ∀ q ∈ d.removed, q.isProper = true) :
    ∃ h kept, Edit.run Graph.apply g d.edits = (h, .ok ()) ∧ Keeps home accepts kept h ∧
      h.name? = g.name? ∧ ∀ q, q ∈ kept ↔
        (q ∈ held ∨ q ∈ d.added.map (·.homed home)) ∧ q ∉ d.removed.map (·.homed home) := by
  obtain ⟨fuller, more, added, keeps', name, came⟩ := keeps.run_add accepted
  obtain ⟨h, kept, removed, keeps'', name', went⟩ := keeps'.run_remove proper
  refine ⟨h, kept, ?_, keeps'', name'.trans name, ?_⟩
  · rw [Delta.edits, Edit.run_append, added]
    exact removed
  · intro q
    rw [went, came]

end Graph

namespace ChangeSet

variable {c : ChangeSet} {base : SetGraph} {quads : List Quad}

structure Over (c : ChangeSet) (base : SetGraph) : Prop where
  origin : c.base = base
  name : c.name = base.name
  current : c.current.Settled base.name

/-- Difference and base make up what a change set holds, and the difference has nothing to spare. -/
structure Exact (c : ChangeSet) : Prop where
  added : ∀ q ∈ c.delta.added, q ∉ c.base.quads
  removed : ∀ q ∈ c.delta.removed, q ∈ c.base.quads
  apart : ∀ q ∈ c.delta.added, q ∉ c.delta.removed
  current : ∀ q, q ∈ c.current.quads ↔
    (q ∈ c.base.quads ∧ q ∉ c.delta.removed) ∨ q ∈ c.delta.added

theorem over_ofGraph (settled : base.Settled base.name) : (ChangeSet.ofGraph base).Over base :=
  ⟨rfl, orDefault_of_isGraphName settled.named, settled⟩

theorem mem_added (proper : ∀ q ∈ c.base.quads, q.isProper = true) {q : Quad} :
    q ∈ c.delta.added ↔ q ∈ c.current.quads ∧ q ∉ c.base.quads := mem_without proper

theorem mem_removed (proper : ∀ q ∈ c.current.quads, q.isProper = true) {q : Quad} :
    q ∈ c.delta.removed ↔ q ∈ c.base.quads ∧ q ∉ c.current.quads := mem_without proper

theorem exact_of_proper (was : ∀ q ∈ c.base.quads, q.isProper = true)
    (now : ∀ q ∈ c.current.quads, q.isProper = true) : c.Exact where
  added := fun q member => ((mem_added was).1 member).2
  removed := fun q member => ((mem_removed now).1 member).1
  apart := fun q member gone => ((mem_added was).1 member).2 ((mem_removed now).1 gone).1
  current := by
    intro q
    rw [mem_added was, mem_removed now]
    tauto

theorem Exact.from_base (exact : c.Exact) (q : Quad) :
    (q ∈ c.base.quads ∨ q ∈ c.delta.added) ∧ q ∉ c.delta.removed ↔ q ∈ c.current.quads := by
  have apart := exact.apart q
  rw [exact.current]
  tauto

/-- The difference makes nothing of what it has made. -/
theorem Exact.again (exact : c.Exact) (held : Prop) (q : Quad) :
    (((held ∨ q ∈ c.delta.added) ∧ q ∉ c.delta.removed) ∨ q ∈ c.delta.added) ∧
      q ∉ c.delta.removed ↔ (held ∨ q ∈ c.delta.added) ∧ q ∉ c.delta.removed := by
  have apart := exact.apart q
  tauto

theorem Over.add (based : c.Over base) (proper : ∀ q ∈ quads, q.isProper = true) :
    (c.add quads).Over base :=
  ⟨based.origin, based.name, based.current.add proper⟩

theorem Over.remove (based : c.Over base) (quads : List Quad) : (c.remove quads).Over base :=
  ⟨based.origin, based.name, based.current.remove quads⟩

theorem Over.clear (based : c.Over base) : c.clear.Over base := by
  have named : base.name.isGraphName = true := based.current.here ▸ based.current.named
  refine ⟨based.origin, based.name, ?_⟩
  rw [ChangeSet.clear, based.name]
  exact SetGraph.settled_empty named

end ChangeSet

def Command.isRevision : Command → Bool
  | .add quads | .remove quads => quads.all Quad.isProper
  | .clear => true
  | .rename _ => false

namespace Workspace

variable {w : Workspace} {id : Nat} {g : Graph} {home : Term} {accepts : Quad → Bool} {held : List Quad}

theorem Has.replay_homed (has : w.Has id g) (keeps : g.Keeps home accepts held) {d : Delta}
    (accepted : ∀ q ∈ d.added, accepts q = true) (proper : ∀ q ∈ d.removed, q.isProper = true) :
    ∃ place h kept, Workspace.replay (w, id) d = (place, .ok ()) ∧ place.1.Has place.2 h ∧
      w.Leads id g place ∧ h.Keeps home accepts kept ∧ h.name? = g.name? ∧
      ∀ q, q ∈ kept ↔
        (q ∈ held ∨ q ∈ d.added.map (·.homed home)) ∧ q ∉ d.removed.map (·.homed home) := by
  obtain ⟨h, kept, made, keeps', name, members⟩ := keeps.replay accepted proper
  obtain ⟨place, replayed, has', leads⟩ := has.run d.edits
  rw [made] at replayed has'
  exact ⟨place, h, kept, replayed, has', leads, keeps', name, members⟩

theorem Has.replay (has : w.Has id g) (keeps : g.Keeps home accepts held) {d : Delta}
    (accepted : ∀ q ∈ d.added, accepts q = true) (proper : ∀ q ∈ d.removed, q.isProper = true)
    (coming : AtHome home d.added) (going : AtHome home d.removed) :
    ∃ place h kept, Workspace.replay (w, id) d = (place, .ok ()) ∧ place.1.Has place.2 h ∧
      w.Leads id g place ∧ h.Keeps home accepts kept ∧ h.name? = g.name? ∧
      ∀ q, q ∈ kept ↔ (q ∈ held ∨ q ∈ d.added) ∧ q ∉ d.removed := by
  have replayed := has.replay_homed keeps accepted proper
  rwa [coming.map_eq, going.map_eq] at replayed

def done (written : At × Except Error Unit) : Except Error At := written.2.map fun _ => written.1

def obey (place : At) : Command → Except Error At
  | .add quads => done (apply place (.add quads))
  | .remove quads => done (apply place (.remove quads))
  | .clear => (place.1.clear place.2).map fun w => (w, place.2)
  | .rename name => (place.1.rename place.2 name).map fun w => (w, place.2)

def obeyAll (place : At) (commands : List Command) : Except Error At := commands.foldlM obey place

structure Revises (w : Workspace) (under id : Nat) (base : SetGraph) (c : ChangeSet) (l : Listing) :
    Prop where
  has : w.Has id (.changes c)
  first : w.Has under (.set base)
  based : c.Over base
  name : l.name = base.name
  same : ∀ q, q ∈ c.current.quads ↔ q ∈ l.quads

variable {under : Nat} {base : SetGraph} {c d : ChangeSet} {l : Listing}

theorem Revises.of_leads {w' : Workspace} {command : Command} (revises : w.Revises under id base c l)
    (leads : w.Leads id (.changes c) (w', id)) (has : w'.Has id (.changes d)) (based : d.Over base)
    (name : (l.obey command).name = l.name)
    (same : ∀ q, q ∈ d.current.quads ↔ q ∈ (l.obey command).quads) :
    w'.Revises under id base d (l.obey command) where
  has := has
  first := by
    apply leads.has revises.has (.inl _) revises.first
    rintro rfl
    cases revises.has.unique revises.first
  based := based
  name := name.trans revises.name
  same := same

theorem Revises.obey (revises : w.Revises under id base c l) {command : Command}
    (revision : command.isRevision = true) :
    ∃ w' d, Workspace.obey (w, id) command = .ok (w', id) ∧
      w'.Revises under id base d (l.obey command) := by
  have based := revises.based
  have written : ∀ {edit : Edit} {d : SetGraph}, c.current.apply edit = (d, .ok ()) →
      ∃ w', done (apply (w, id) edit) = .ok (w', id) ∧
        w'.Has id (.changes { c with current := d }) ∧ w.Leads id (.changes c) (w', id) := by
    intro edit d applied
    obtain ⟨⟨w', id'⟩, made, has, leads⟩ := revises.has.apply edit
    obtain rfl : id' = id := leads.here rfl
    rw [apply_changes, applied] at made has
    exact ⟨w', by rw [made]; rfl, has, leads⟩
  cases command with
  | add quads =>
    have proper := List.all_eq_true.1 revision
    obtain ⟨w', made, has, leads⟩ := written (SetGraph.apply_add based.current.named proper)
    refine ⟨w', c.add quads, made, revises.of_leads leads has (based.add proper) rfl ?_⟩
    intro q
    show q ∈ (c.current.add quads).quads ↔ _
    rw [based.current.mem_add proper, based.current.here, revises.same, ← revises.name]
    exact (Distinct.mem_pushAll (fun _ _ same => same) (fun _ _ same => same)).symm
  | remove quads =>
    have proper := List.all_eq_true.1 revision
    obtain ⟨w', made, has, leads⟩ := written (SetGraph.apply_remove based.current.named proper)
    refine ⟨w', c.remove quads, made, revises.of_leads leads has (based.remove quads) rfl ?_⟩
    intro q
    show q ∈ (c.current.remove quads).quads ↔ _
    rw [based.current.mem_remove proper, based.current.here, revises.same, ← revises.name]
    simp [Listing.obey]
  | clear =>
    obtain ⟨w', made, has, leads⟩ := revises.has.clear
    refine ⟨w', c.clear, ?_, revises.of_leads leads has based.clear rfl ?_⟩
    · rw [Workspace.obey, made]
      rfl
    · simp [ChangeSet.clear, SetGraph.empty, Listing.obey]
  | rename name => cases revision

theorem Revises.obeyAll (revises : w.Revises under id base c l) {commands : List Command}
    (revisions : ∀ command ∈ commands, command.isRevision = true) :
    ∃ w' d, Workspace.obeyAll (w, id) commands = .ok (w', id) ∧
      w'.Revises under id base d (l.obeyAll commands) := by
  induction commands generalizing w c l with
  | nil => exact ⟨w, c, rfl, revises⟩
  | cons command rest ih =>
    obtain ⟨w', d, made, revises'⟩ := revises.obey (revisions command List.mem_cons_self)
    obtain ⟨last, e, others, reached⟩ :=
      ih revises' fun x member => revisions x (List.mem_cons_of_mem _ member)
    refine ⟨last, e, ?_, reached⟩
    rw [Workspace.obeyAll, List.foldlM_cons, made]
    exact others

theorem has_changesOver (stored : w.Has under (.set base)) :
    ∃ w' id, w.changesOver (some under) = .ok (w', id) ∧ w'.Has id (.changes (.ofGraph base)) ∧
      w'.Has under (.set base) := by
  have entry : w.entries[under]? = some (.graph (.set base)) := by
    cases stored with
    | graph entry => exact entry
  let opened := w.keepEntry (.changes base.name.orDefault under under)
  have kept : opened.1.entries[under]? = some (.graph (.set base)) := kept_keepEntry w _ entry
  have last : opened.1.entries[opened.2]? = some (.changes base.name.orDefault under under) := by
    simp [opened, keepEntry]
  refine ⟨opened.1, opened.2, ?_, .changes last kept kept, .graph kept⟩
  rw [changesOver, stored.graph_eq]
  rfl

theorem revises_changesOver (stored : w.Has under (.set base)) (settled : base.Settled base.name) :
    ∃ w' id, w.changesOver (some under) = .ok (w', id) ∧
      w'.Revises under id base (.ofGraph base) { name := base.name, quads := base.quads } := by
  obtain ⟨w', id, opened, has, first⟩ := has_changesOver stored
  exact ⟨w', id, opened, has, first, ChangeSet.over_ofGraph settled, rfl, fun _ => Iff.rfl⟩

/-- A chain of writes has gone well up to a place, where a graph keeps quads and lists them. -/
structure EndsAt (outcome : At × Except Error Unit) (place : At) (home : Term) (accepts : Quad → Bool)
    (kept : List Quad) : Prop where
  done : outcome = (place, .ok ())
  keeps : ∃ g, place.1.graph place.2 = .ok g ∧ g.Keeps home accepts kept ∧
    (g.HasRoom → g.quads = .ok kept)

theorem Has.endsAt {place : At} (has : place.1.Has place.2 g) (keeps : g.Keeps home accepts held)
    {outcome : At × Except Error Unit} (done : outcome = (place, .ok ())) :
    EndsAt outcome place home accepts held :=
  ⟨done, g, has.graph_eq, keeps, keeps.quads⟩

theorem Revises.replay (revises : w.Revises under id base c l) (was : ∀ q ∈ base.quads, q.isProper = true)
    (settled : AtHome base.name base.quads) {target : Nat} (stored : w.graph target = .ok g)
    (keeps : g.Keeps home accepts held) (alike : base.name = .defaultGraph → home = .defaultGraph)
    (accepted : ∀ q ∈ c.delta.added, accepts q = true) :
    ∃ place kept place' kept', EndsAt (Workspace.replay (w, target) c.delta) place home accepts kept ∧
      EndsAt (Workspace.replay place c.delta) place' home accepts kept' ∧
      place.1.Has under (.set base) ∧
      (∀ q, q ∈ kept ↔ (q ∈ held ∨ q ∈ c.delta.added) ∧ q ∉ c.delta.removed) ∧
      ∀ q, q ∈ kept' ↔ q ∈ kept := by
  have based := revises.based
  have now := based.current.quads
  have proper : ∀ q ∈ c.base.quads, q.isProper = true := based.origin ▸ was
  have going : ∀ q ∈ c.delta.removed, q ∈ base.quads :=
    fun q member => based.origin ▸ ((ChangeSet.mem_removed now).1 member).1
  have coming : ∀ q ∈ c.delta.added, q ∈ c.current.quads :=
    fun q member => ((ChangeSet.mem_added proper).1 member).1
  -- What is at home in the base stays as it is in the target, so the difference goes in unchanged.
  have settled_coming : AtHome home c.delta.added :=
    AtHome.elsewhere (fun q member => based.current.home q (coming q member)) alike
  have settled_going : AtHome home c.delta.removed :=
    AtHome.elsewhere (fun q member => settled q (going q member)) alike
  have gone_proper : ∀ q ∈ c.delta.removed, q.isProper = true := fun q member => was q (going q member)
  have has : w.Has target g := has_of_graph_eq stored keeps.plain
  obtain ⟨place, h, kept, made, has', leads, keeps', -, members⟩ :=
    has.replay keeps accepted gone_proper settled_coming settled_going
  obtain ⟨place', h', kept', again, has'', -, keeps'', -, members'⟩ :=
    has'.replay keeps' accepted gone_proper settled_coming settled_going
  refine ⟨place, kept, place', kept', has'.endsAt keeps' made, has''.endsAt keeps'' again, ?_, members,
    ?_⟩
  · apply leads.has has _ revises.first
    by_cases here : under = target
    · subst here
      have same : g = .set base := has.unique revises.first
      exact .inr (by rw [same]; rfl)
    · exact .inl here
  · intro q
    rw [members', members, (ChangeSet.exact_of_proper proper now).again]

/-- Whatever is done to a change set over a set that was built by adding quads: the set stays, the
difference is exact, and replayed on any graph of the name it does what it says there too. -/
theorem delta_replays {name : Term} {batches : List (List Quad)} {commands : List Command}
    (named : name.isGraphName = true) (proper : ∀ quads ∈ batches, ∀ q ∈ quads, q.isProper = true)
    (stored : w.graph under = .ok (.set (.built name batches)))
    (revisions : ∀ command ∈ commands, command.isRevision = true) :
    ∃ w₁ id w₂ c, w.changesOver (some under) = .ok (w₁, id) ∧
      obeyAll (w₁, id) commands = .ok (w₂, id) ∧
      w₂.changes id = .ok c ∧
      w₂.graph under = .ok (.set (.built name batches)) ∧
      c.base = .built name batches ∧
      (∀ q, q ∈ c.current.quads ↔
        q ∈ (({ name, quads := c.base.quads } : Listing).obeyAll commands).quads) ∧
      c.Exact ∧
      ∀ target g home accepts held, w₂.graph target = .ok g → g.Keeps home accepts held →
        (name = .defaultGraph → home = .defaultGraph) → (∀ q ∈ c.delta.added, accepts q = true) →
        ∃ place kept place' kept',
          EndsAt (Workspace.replay (w₂, target) c.delta) place home accepts kept ∧
          EndsAt (Workspace.replay place c.delta) place' home accepts kept' ∧
          place.1.graph under = .ok (.set (.built name batches)) ∧
          (∀ q, q ∈ kept ↔ (q ∈ held ∨ q ∈ c.delta.added) ∧ q ∉ c.delta.removed) ∧
          ((∀ q, q ∈ held ↔ q ∈ c.base.quads) → ∀ q, q ∈ kept ↔ q ∈ c.current.quads) ∧
          ∀ q, q ∈ kept' ↔ q ∈ kept := by
  have built := SetGraph.settled_built named proper
  have has : w.Has under (.set (.built name batches)) := has_of_graph_eq stored (by simp)
  obtain ⟨w₁, id, opened, revises⟩ := revises_changesOver has (built.here.symm ▸ built)
  obtain ⟨w₂, c, made, revised⟩ := revises.obeyAll revisions
  have based := revised.based
  have was : ∀ q ∈ c.base.quads, q.isProper = true := based.origin ▸ built.quads
  have exact : c.Exact := ChangeSet.exact_of_proper was based.current.quads
  refine ⟨w₁, id, w₂, c, opened, made, ?_, revised.first.graph_eq, based.origin, ?_, exact, ?_⟩
  · rw [Workspace.changes, revised.has.graph_eq]
  · rw [based.origin]
    simpa only [built.here] using revised.same
  · intro target g home accepts held stored keeps alike accepted
    rw [← built.here] at alike
    obtain ⟨place, kept, place', kept', ends, again, first, members, same⟩ :=
      revised.replay built.quads (built.here.symm ▸ built.home) stored keeps alike accepted
    refine ⟨place, kept, place', kept', ends, again, first.graph_eq, members, ?_, same⟩
    intro before q
    rw [members, before, exact.from_base]

def oneStatement : List (List Quad) := [[⟨.blank "b", .iri "p", .iri "a", .defaultGraph⟩]]

def setAndRows : Workspace where
  entries := [.graph (.set (.built (.iri "g") oneStatement)), .graph (.columnar { name := .iri "g" })]

def comeAndGo : List Command :=
  [.add [⟨.iri "a", .iri "p", .iri "c", .defaultGraph⟩, ⟨.iri "a", .iri "p", .iri "d", .iri "g"⟩],
    .remove [⟨.iri "a", .iri "p", .iri "c", .iri "g"⟩, ⟨.blank "b", .iri "p", .iri "a", .iri "g"⟩]]

theorem delta_of_comeAndGo : ∃ w₁ w₂ c, setAndRows.changesOver (some 0) = .ok (w₁, 2) ∧
    obeyAll (w₁, 2) comeAndGo = .ok (w₂, 2) ∧ w₂.changes 2 = .ok c ∧
    ∃ place kept, EndsAt (Workspace.replay (w₂, 1) c.delta) place (.iri "g") Quad.isStorable kept ∧
      ∀ q, q ∈ kept ↔ q = ⟨.iri "a", .iri "p", .iri "d", .iri "g"⟩ := by
  have named : (Term.iri "g").isGraphName = true := rfl
  have proper : ∀ quads ∈ oneStatement, ∀ q ∈ quads, q.isProper = true := by decide
  have revisions : ∀ command ∈ comeAndGo, command.isRevision = true := by decide
  have stored : setAndRows.graph 0 = .ok (.set (.built (.iri "g") oneStatement)) := rfl
  obtain ⟨w₁, id, w₂, c, opened, made, changes, -, base, current, exact, replayed⟩ :=
    delta_replays named proper stored revisions
  obtain rfl : id = 2 := by
    have place := congrArg Prod.snd (Except.ok.inj opened)
    exact place.symm
  have rows : w₂.graph 1 = .ok (.columnar { name := .iri "g" }) := by
    have second : ∃ v, setAndRows.changesOver (some 0) = .ok (v, 2) ∧
        ∃ u, obeyAll (v, 2) comeAndGo = .ok (u, 2) ∧ u.graph 1 = .ok (.columnar { name := .iri "g" }) :=
      ⟨_, rfl, _, rfl, rfl⟩
    obtain ⟨v, opened', u, made', found⟩ := second
    obtain rfl : v = w₁ := congrArg Prod.fst (Except.ok.inj (opened'.symm.trans opened))
    obtain rfl : u = w₂ := congrArg Prod.fst (Except.ok.inj (made'.symm.trans made))
    exact found
  let d : Quad := ⟨.iri "a", .iri "p", .iri "d", .iri "g"⟩
  have held : ∀ q, q ∈ c.current.quads ↔ q = d := by
    have listed : (({ name := .iri "g", quads := (SetGraph.built (.iri "g") oneStatement).quads } :
        Listing).obeyAll comeAndGo).quads = [d] := by decide
    intro q
    rw [current, base, listed, List.mem_singleton]
  have fresh : d ∉ c.base.quads := by
    rw [base]
    decide
  have added : ∀ q, q ∈ c.delta.added ↔ q = d := by
    intro q
    constructor
    · intro member
      exact (held q).1 ((exact.current q).2 (.inr member))
    · rintro rfl
      rcases (exact.current d).1 ((held d).2 rfl) with ⟨old, -⟩ | new
      · exact absurd old fresh
      · exact new
  have storable : ∀ q ∈ c.delta.added, q.isStorable = true := by
    intro q member
    rw [(added q).1 member]
    rfl
  have keeps : (Graph.columnar { name := .iri "g" }).Keeps (.iri "g") Quad.isStorable [] := by
    have made : (Columnar.ofList (.iri "g") [] >>= fun c => c.obeyAll []) = .ok { name := .iri "g" } := rfl
    exact Graph.keeps_of_commands named (by simp) (by simp) made
  obtain ⟨place, kept, -, -, ends, -, -, members, -, -⟩ :=
    replayed 1 _ _ _ _ rows keeps (by simp) storable
  refine ⟨w₁, w₂, c, opened, made, changes, place, kept, ends, ?_⟩
  intro q
  rw [members, added]
  constructor
  · rintro ⟨none | same, -⟩
    · cases none
    · exact same
  · rintro rfl
    exact ⟨.inr rfl, exact.apart d ((added d).2 rfl)⟩

end Workspace

end QuadPull
