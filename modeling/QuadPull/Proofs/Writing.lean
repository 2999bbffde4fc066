import QuadPull.Proofs.Listing

namespace QuadPull

def AtHome (name : Term) (quads : List Quad) : Prop := ∀ q ∈ quads, q.homed name = q

theorem homed_homed {name : Term} (q : Quad) : (q.homed name).homed name = q.homed name := by
  by_cases loose : q.graph = .defaultGraph
  · by_cases unnamed : name = .defaultGraph <;> simp [Quad.homed, loose, unnamed]
  · simp [Quad.homed, loose]

theorem atHome_map_homed (name : Term) (quads : List Quad) : AtHome name (quads.map (·.homed name)) := by
  intro q member
  obtain ⟨r, -, rfl⟩ := List.mem_map.1 member
  exact homed_homed r

theorem AtHome.map_eq {name : Term} {quads : List Quad} (home : AtHome name quads) :
    quads.map (·.homed name) = quads := by
  rw [List.map_congr_left home, List.map_id']

theorem atHome_defaultGraph (quads : List Quad) : AtHome .defaultGraph quads := by
  intro q _
  unfold Quad.homed
  split
  · rename_i loose
    rw [← loose]
  · rfl

theorem AtHome.elsewhere {name home : Term} {quads : List Quad} (settled : AtHome name quads)
    (alike : name = .defaultGraph → home = .defaultGraph) : AtHome home quads := by
  intro q member
  by_cases loose : q.graph = .defaultGraph
  · have graph := congrArg Quad.graph (settled q member)
    rw [Quad.homed, if_pos loose] at graph
    rw [alike (graph.trans loose), atHome_defaultGraph quads q member]
  · rw [Quad.homed, if_neg loose]

theorem orDefault_of_isGraphName {t : Term} (named : t.isGraphName = true) : t.orDefault = t := by
  rw [Term.orDefault, Term.given?_of_isProper (Term.isProper_of_isGraphName named).1, Option.getD_some]

theorem Listing.storable_obey {l : Listing} (named : l.name.isGraphName = true)
    (storable : ∀ q ∈ l.quads, q.isStorable = true) {c : Command} (typed : c.isTyped = true) :
    (l.obey c).name.isGraphName = true ∧ ∀ q ∈ (l.obey c).quads, q.isStorable = true := by
  cases c with
  | add quads =>
    refine ⟨named, ?_⟩
    intro q member
    rcases Distinct.mem_of_mem_pushAll member with old | new
    · exact storable q old
    · obtain ⟨r, among, rfl⟩ := List.mem_map.1 new
      exact Quad.isStorable_homed named (List.all_eq_true.1 typed r among)
  | remove quads => exact ⟨named, fun q member => storable q (List.mem_of_mem_filter member)⟩
  | clear => exact ⟨named, by simp [Listing.obey]⟩
  | rename name => exact ⟨typed, storable⟩

theorem Listing.storable_obeyAll {l : Listing} (named : l.name.isGraphName = true)
    (storable : ∀ q ∈ l.quads, q.isStorable = true) {commands : List Command}
    (typed : ∀ c ∈ commands, c.isTyped = true) :
    ∀ q ∈ (l.obeyAll commands).quads, q.isStorable = true := by
  induction commands generalizing l with
  | nil => exact storable
  | cons c commands ih =>
    obtain ⟨named', storable'⟩ := storable_obey named storable (typed c List.mem_cons_self)
    exact ih named' storable' fun d member => typed d (List.mem_cons_of_mem _ member)

theorem mem_without {xs ys : List Quad} (proper : ∀ q ∈ ys, q.isProper = true) {q : Quad} :
    q ∈ Distinct.without Quad.settled xs ys ↔ q ∈ xs ∧ q ∉ ys := by
  have gone : Distinct.holds Quad.settled ys q = true ↔ q ∈ ys := by
    apply (Distinct.mem_iff_holds _).symm
    intro r member same
    exact (Quad.eq_of_settled_eq (proper r member) same.symm).symm
  simp only [Distinct.without, List.mem_filter, Bool.not_eq_true', ← Bool.not_eq_true, gone]

namespace SetGraph

structure Proper (s : SetGraph) : Prop where
  named : s.name.isGraphName = true
  quads : ∀ q ∈ s.quads, q.isProper = true

variable {s : SetGraph} {quads : List Quad}

theorem nodup (s : SetGraph) : s.quads.Nodup := List.Nodup.of_map _ s.each

theorem proper_empty {name : Term} (named : name.isGraphName = true) : (empty name).Proper where
  named := by rwa [empty, orDefault_of_isGraphName named]
  quads := by simp [empty]

section

variable (named : s.name.isGraphName = true) (proper : ∀ q ∈ quads, q.isProper = true)
include named proper

theorem isProper_of_mem_homed : ∀ q ∈ quads.map (·.homed s.name), q.isProper = true := by
  intro q member
  obtain ⟨r, among, rfl⟩ := List.mem_map.1 member
  exact Quad.isProper_homed named (proper r among)

theorem canHold_of_proper : s.canHold quads = true := by
  rw [SetGraph.canHold, List.all_eq_true]
  intro q member
  exact Quad.hashable_of_isProper (isProper_of_mem_homed named proper _ (List.mem_map_of_mem member))

theorem apply_add : s.apply (.add quads) = (s.add quads, .ok ()) := by
  rw [SetGraph.apply, if_pos (canHold_of_proper named proper)]

theorem apply_remove : s.apply (.remove quads) = (s.remove quads, .ok ()) := by
  rw [SetGraph.apply, if_pos (canHold_of_proper named proper)]

theorem apply_breakOff (fault : Error) : s.apply (.breakOff quads fault) = (s, .error fault) := by
  rw [SetGraph.apply, if_pos (canHold_of_proper named proper)]

end

section

variable (sound : s.Proper) (proper : ∀ q ∈ quads, q.isProper = true)
include sound proper

theorem Proper.mem_add {q : Quad} :
    q ∈ (s.add quads).quads ↔ q ∈ s.quads ∨ q ∈ quads.map (·.homed s.name) := by
  apply Distinct.mem_pushAll
  · intro r member same
    exact (Quad.eq_of_settled_eq (sound.quads r member) same.symm).symm
  · intro r member same
    exact (Quad.eq_of_settled_eq (isProper_of_mem_homed sound.named proper r member) same.symm).symm

theorem Proper.mem_remove {q : Quad} :
    q ∈ (s.remove quads).quads ↔ q ∈ s.quads ∧ q ∉ quads.map (·.homed s.name) := by
  exact mem_without (isProper_of_mem_homed sound.named proper)

theorem Proper.add : (s.add quads).Proper where
  named := by rw [SetGraph.add, orDefault_of_isGraphName sound.named]; exact sound.named
  quads := by
    intro q member
    rcases (sound.mem_add proper).1 member with old | new
    · exact sound.quads q old
    · exact isProper_of_mem_homed sound.named proper q new

end

theorem Proper.name_add (sound : s.Proper) (quads : List Quad) : (s.add quads).name = s.name :=
  orDefault_of_isGraphName sound.named

theorem Proper.name_remove (sound : s.Proper) (quads : List Quad) : (s.remove quads).name = s.name :=
  orDefault_of_isGraphName sound.named

theorem Proper.remove (sound : s.Proper) (quads : List Quad) : (s.remove quads).Proper where
  named := by rw [sound.name_remove]; exact sound.named
  quads := fun q member => sound.quads q (List.mem_of_mem_filter member)

structure Settled (s : SetGraph) (name : Term) : Prop extends s.Proper where
  here : s.name = name
  home : AtHome name s.quads

variable {name : Term}

theorem settled_empty (named : name.isGraphName = true) : (empty name).Settled name :=
  ⟨proper_empty named, orDefault_of_isGraphName named, by simp [AtHome, empty]⟩

theorem Settled.add (settled : s.Settled name) (proper : ∀ q ∈ quads, q.isProper = true) :
    (s.add quads).Settled name where
  toProper := settled.toProper.add proper
  here := (settled.name_add quads).trans settled.here
  home := by
    intro q member
    rcases (settled.mem_add proper).1 member with old | new
    · exact settled.home q old
    · rw [settled.here] at new
      exact atHome_map_homed name quads q new

theorem Settled.remove (settled : s.Settled name) (quads : List Quad) : (s.remove quads).Settled name where
  toProper := settled.toProper.remove quads
  here := (settled.name_remove quads).trans settled.here
  home := fun q member => settled.home q (List.mem_of_mem_filter member)

def built (name : Term) (batches : List (List Quad)) : SetGraph := batches.foldl add (empty name)

theorem settled_built {batches : List (List Quad)} (named : name.isGraphName = true)
    (proper : ∀ quads ∈ batches, ∀ q ∈ quads, q.isProper = true) :
    (built name batches).Settled name := by
  unfold built
  have start := settled_empty named
  revert start
  generalize empty name = s
  intro start
  induction batches generalizing s with
  | nil => exact start
  | cons quads rest ih =>
    apply ih
    · exact fun other member => proper other (List.mem_cons_of_mem _ member)
    · exact start.add (proper quads List.mem_cons_self)

end SetGraph

namespace Graph

/-- Whether a graph of rows has not used up the identifiers of any kind of term; other graphs always have
room. -/
def HasRoom : Graph → Prop
  | .columnar c => ∀ k, c.terms.count k < TermId.payloadSize
  | _ => True

theorem hasRoom_of_kindName {g : Graph} (set : g.kindName = (Graph.set (.empty .defaultGraph)).kindName) :
    g.HasRoom := by
  cases g with
  | columnar c => simp [kindName] at set
  | _ => trivial

def inner? : Graph → Option SetGraph
  | .set s => some s
  | .changes c => some c.current
  | .served .coroutine _ s => some s
  | _ => none

def withInner : Graph → SetGraph → Graph
  | .set _, s => .set s
  | .changes c, s => .changes { c with current := s }
  | .served access name _, s => .served access name s
  | g, _ => g

theorem apply_inner {g : Graph} {s : SetGraph} (inner : g.inner? = some s) (edit : Edit) :
    g.apply edit = (g.withInner (s.apply edit).1, (s.apply edit).2) ∧
      ∀ t, (g.withInner t).inner? = some t := by
  unfold inner? at inner
  split at inner <;> cases inner <;> exact ⟨rfl, fun _ => rfl⟩

theorem name_withInner {g : Graph} {s t : SetGraph} (inner : g.inner? = some s) (same : t.name = s.name) :
    (g.withInner t).name? = g.name? := by
  unfold inner? at inner
  split at inner <;> cases inner
  · exact congrArg some same
  · rfl
  · rfl

/-- A graph that takes edits and has quads in memory, at home under a name. It takes in quads of a class:
a graph of rows those without variables, and any other every proper quad. -/
inductive Keeps : Term → (Quad → Bool) → List Quad → Graph → Prop where
  | inner {g : Graph} {s : SetGraph} {home : Term} (inner : g.inner? = some s) (sound : s.Proper)
      (named : s.name = home) : Keeps home Quad.isProper s.quads g
  | columnar {c : Columnar} {l : Listing} (tracks : c.Tracks l)
      (storable : ∀ q ∈ l.quads, q.isStorable = true) :
      Keeps l.name Quad.isStorable l.quads (.columnar c)

theorem keeps_built {name : Term} {batches : List (List Quad)} (named : name.isGraphName = true)
    (proper : ∀ quads ∈ batches, ∀ q ∈ quads, q.isProper = true) :
    Keeps name Quad.isProper (SetGraph.built name batches).quads (.set (.built name batches)) :=
  have settled := SetGraph.settled_built named proper
  .inner rfl settled.toProper settled.here

variable {home : Term} {accepts : Quad → Bool} {held more : List Quad} {g : Graph}

theorem Keeps.quads (keeps : Keeps home accepts held g) (room : g.HasRoom) : g.quads = .ok held := by
  cases keeps with
  | columnar tracks => exact (tracks.shows room).quads
  | inner inner =>
    unfold inner? at inner
    split at inner <;> cases inner <;> rfl

theorem Keeps.find (keeps : Keeps home accepts held g) (room : g.HasRoom) {p : Pattern}
    (bound : ∀ t ∈ p.bound, t.isProper = true) : g.find p = .ok (held.filter p.matchesQuad) := by
  cases keeps with
  | columnar tracks => exact (tracks.shows room).find p bound
  | inner inner =>
    unfold inner? at inner
    split at inner <;> cases inner <;> rfl

theorem Keeps.nodup (keeps : Keeps home accepts held g) : held.Nodup := by
  cases keeps with
  | @inner _ s => exact s.nodup
  | columnar tracks => exact tracks.each

theorem Keeps.accepted (keeps : Keeps home accepts held g) : ∀ q ∈ held, accepts q = true := by
  cases keeps with
  | columnar _ storable => exact storable
  | inner _ sound => exact sound.quads

theorem Keeps.isProper (keeps : Keeps home accepts held g) {q : Quad} (accepted : accepts q = true) :
    q.isProper = true := by
  cases keeps with
  | columnar =>
    rw [Quad.isStorable, Bool.and_eq_true] at accepted
    exact accepted.1
  | _ => exact accepted

theorem Keeps.plain (keeps : Keeps home accepts held g) : ∀ name h, g ≠ .over name h := by
  rintro name h rfl
  cases keeps with
  | inner inner => cases inner

theorem apply_of_obeyed {c d : Columnar} {edit : Edit}
    (made : (c.apply edit).2.map (fun _ => (c.apply edit).1) = .ok d) : c.apply edit = (d, .ok ()) := by
  cases outcome : (c.apply edit).2 with
  | error e => simp [outcome, Except.map] at made
  | ok =>
    rw [outcome] at made
    exact Prod.ext (Except.ok.inj made) outcome

theorem Keeps.add (keeps : Keeps home accepts held g) (accepted : ∀ q ∈ more, accepts q = true) :
    ∃ h kept, g.apply (.add more) = (h, .ok ()) ∧ Keeps home accepts kept h ∧ h.name? = g.name? ∧
      ∀ q, q ∈ kept ↔ q ∈ held ∨ q ∈ more.map (·.homed home) := by
  cases keeps with
  | @inner _ s _ inner sound named =>
    subst named
    obtain ⟨applied, keeps_inner⟩ := apply_inner inner (.add more)
    rw [SetGraph.apply_add sound.named accepted] at applied
    exact ⟨_, _, applied, .inner (keeps_inner _) (sound.add accepted) (sound.name_add more),
      name_withInner inner (sound.name_add more), fun q => sound.mem_add accepted⟩
  | @columnar c l tracks storable =>
    obtain ⟨d, obeyed, tracked⟩ := tracks.add accepted
    have members : ∀ q, q ∈ (l.obey (.add more)).quads ↔
        q ∈ l.quads ∨ q ∈ more.map (·.homed l.name) := fun q =>
      Distinct.mem_pushAll (fun _ _ same => same) (fun _ _ same => same)
    refine ⟨.columnar d, (l.obey (.add more)).quads, ?_, .columnar tracked ?_, ?_, members⟩
    · rw [Graph.apply, apply_of_obeyed obeyed]
      rfl
    · have typed : (Command.add more).isTyped = true := List.all_eq_true.2 accepted
      exact (Listing.storable_obey tracks.named storable typed).2
    · exact congrArg some (tracked.name.trans tracks.name.symm)

theorem Keeps.remove (keeps : Keeps home accepts held g) (proper : ∀ q ∈ more, q.isProper = true) :
    ∃ h kept, g.apply (.remove more) = (h, .ok ()) ∧ Keeps home accepts kept h ∧ h.name? = g.name? ∧
      ∀ q, q ∈ kept ↔ q ∈ held ∧ q ∉ more.map (·.homed home) := by
  cases keeps with
  | @inner _ s _ inner sound named =>
    subst named
    obtain ⟨applied, keeps_inner⟩ := apply_inner inner (.remove more)
    rw [SetGraph.apply_remove sound.named proper] at applied
    exact ⟨_, _, applied, .inner (keeps_inner _) (sound.remove more) (sound.name_remove more),
      name_withInner inner (sound.name_remove more), fun q => sound.mem_remove proper⟩
  | @columnar c l tracks storable =>
    obtain ⟨d, obeyed, tracked⟩ := tracks.remove proper
    have members : ∀ q, q ∈ (l.obey (.remove more)).quads ↔
        q ∈ l.quads ∧ q ∉ more.map (·.homed l.name) := by
      intro q
      simp [Listing.obey]
    refine ⟨.columnar d, (l.obey (.remove more)).quads, ?_, .columnar tracked ?_, ?_, members⟩
    · rw [Graph.apply, apply_of_obeyed obeyed]
      rfl
    · have typed : (Command.remove more).isTyped = true := List.all_eq_true.2 proper
      exact (Listing.storable_obey tracks.named storable typed).2
    · exact congrArg some (tracked.name.trans tracks.name.symm)

theorem keeps_of_commands {name : Term} {quads : List Quad} {commands : List Command}
    (named : name.isGraphName = true) (storable : ∀ q ∈ quads, q.isStorable = true)
    (typed : ∀ c ∈ commands, c.isTyped = true) {c : Columnar}
    (made : (Columnar.ofList name quads >>= fun c => c.obeyAll commands) = .ok c) :
    Keeps (({ name } : Listing).obeyAll (.add quads :: commands)).name Quad.isStorable
      (({ name } : Listing).obeyAll (.add quads :: commands)).quads (.columnar c) := by
  have all_typed : ∀ c ∈ Command.add quads :: commands, c.isTyped = true :=
    List.forall_mem_cons.2 ⟨List.all_eq_true.2 storable, typed⟩
  obtain ⟨d, obeyed, tracks⟩ := (Columnar.tracks_empty named).obeyAll all_typed
  obtain rfl : d = c := Except.ok.inj (obeyed.symm.trans made)
  exact .columnar tracks (Listing.storable_obeyAll named (by simp) all_typed)

end Graph

end QuadPull
