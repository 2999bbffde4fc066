import QuadPull.Proofs.Rejection
import QuadPull.Proofs.Skolemize

namespace QuadPull

theorem Listing.edit_cases {l : Listing} {e : Edit} (proper : e.isProper = true) :
    (l.edit e).1 = l ∨
      (∃ quads, (Command.add quads).isTyped = true ∧ (l.edit e).1 = l.obey (.add quads)) ∨
      ∃ quads, (Command.remove quads).isTyped = true ∧ (l.edit e).1 = l.obey (.remove quads) := by
  cases e with
  | add quads =>
    cases found : firstVariable? quads with
    | some v => exact .inl (by simp [Listing.edit, found])
    | none =>
      have storable := Columnar.storable_of_firstVariable? (List.all_eq_true.1 proper) found
      exact .inr (.inl ⟨quads, List.all_eq_true.2 storable, by simp [Listing.edit, found]⟩)
  | remove quads => exact .inr (.inr ⟨quads, proper, rfl⟩)
  | breakOff quads fault => exact .inl rfl

namespace SetGraph

variable {s : SetGraph} {e : Edit}

theorem Proper.edit (sound : s.Proper) (proper : e.isProper = true) :
    (s.apply e).1.Proper ∧ (s.apply e).1.name = s.name ∧
      ∀ q ∈ (s.apply e).1.quads, q ∈ s.quads ∨ q.homed s.name = q := by
  cases e with
  | add quads =>
    have quads_proper := List.all_eq_true.1 proper
    rw [apply_add sound.named quads_proper]
    refine ⟨sound.add quads_proper, sound.name_add quads, ?_⟩
    intro q member
    have either := (sound.mem_add quads_proper).1 member
    exact either.imp_right (atHome_map_homed s.name quads q)
  | remove quads =>
    rw [apply_remove sound.named (List.all_eq_true.1 proper)]
    exact ⟨sound.remove quads, sound.name_remove quads, fun q member => .inl (List.mem_of_mem_filter member)⟩
  | breakOff quads fault => exact ⟨sound, rfl, fun q member => .inl member⟩

end SetGraph

namespace Graph

variable {home name : Term} {accepts : Quad → Bool} {held found quads : List Quad} {g h : Graph} {e : Edit}

theorem Keeps.edit (keeps : Keeps home accepts held g) (proper : e.isProper = true) :
    ∃ kept, Keeps home accepts kept (g.apply e).1 ∧ (g.apply e).1.name? = g.name? ∧
      ∀ q ∈ kept, q ∈ held ∨ q.homed home = q := by
  cases keeps with
  | @inner _ s _ inner sound named =>
    subst named
    obtain ⟨applied, keeps_inner⟩ := apply_inner inner e
    obtain ⟨sound', name, members⟩ := sound.edit proper
    rw [applied]
    exact ⟨_, .inner (keeps_inner _) sound' name, name_withInner inner name, members⟩
  | @columnar c l tracks storable =>
    obtain ⟨tracked, -⟩ := tracks.edit proper
    have called : (Graph.apply (.columnar c) e).1.name? = (Graph.columnar c).name? :=
      congrArg some (Columnar.named_apply c e)
    rcases Listing.edit_cases (l := l) proper with same | ⟨quads, typed, same⟩ | ⟨quads, typed, same⟩
    · rw [same] at tracked
      exact ⟨l.quads, .columnar tracked storable, called, fun q member => .inl member⟩
    · rw [same] at tracked
      have storable' := (Listing.storable_obey tracks.named storable typed).2
      refine ⟨(l.obey (.add quads)).quads, .columnar tracked storable', called, ?_⟩
      intro q member
      have either := Distinct.mem_of_mem_pushAll member
      exact either.imp_right (atHome_map_homed l.name quads q)
    · rw [same] at tracked
      have storable' := (Listing.storable_obey tracks.named storable typed).2
      exact ⟨(l.obey (.remove quads)).quads, .columnar tracked storable', called,
        fun q member => .inl (List.mem_of_mem_filter member)⟩

theorem HasRoom.remove (room : g.HasRoom) (quads : List Quad) : (g.remove quads).1.HasRoom := by
  match g with
  | .columnar c =>
    have same : (c.apply (.remove quads)).1.terms = c.terms := Columnar.terms_apply c (.remove quads)
    intro k
    show (c.apply (.remove quads)).1.terms.count k < TermId.payloadSize
    rw [same]
    exact room k
  | .served access name s =>
    cases access <;> trivial
  | .over name h =>
    show (Graph.apply (.over name h) (.remove quads)).1.HasRoom
    rw [Graph.apply]
    split <;> trivial
  | .set _ | .changes _ | .remote _ | .unawaited => trivial

/-- The graphs of a name that were made of quads and then written to, whether the writes went well or not:
sets, rows, and change sets over such sets. -/
inductive Arises (name : Term) (quads : List Quad) : Graph → Prop where
  | set : Arises name quads (.set (.ofList name quads))
  | rows {c : Columnar} (made : Columnar.ofList name quads = .ok c) : Arises name quads (.columnar c)
  | changes {s : SetGraph} (base : Arises name quads (.set s)) : Arises name quads (.changes (.ofGraph s))
  | edit {g : Graph} {e : Edit} (arises : Arises name quads g) (proper : e.isProper = true) :
      Arises name quads (g.apply e).1
  | clear {g h : Graph} (arises : Arises name quads g) (cleared : g.clear = .ok h) : Arises name quads h

/-- A graph keeps quads at home, except for some of those that a set was made with. -/
structure Lodges (name : Term) (quads : List Quad) (accepts : Quad → Bool) (held : List Quad) (g : Graph) :
    Prop where
  keeps : g.Keeps name accepts held
  called : g.name? = some name
  strays : ∀ q ∈ held, q.homed name ≠ q → q ∈ quads ∧ ∀ c, g ≠ .columnar c

theorem rows_of_apply {c : Columnar} (rows : (g.apply e).1 = .columnar c) : ∃ d, g = .columnar d := by
  match g with
  | .columnar d => exact ⟨d, rfl⟩
  | .served access name s => cases access <;> cases rows
  | .over name h =>
    rw [Graph.apply] at rows
    split at rows <;> cases rows
  | .set _ | .changes _ | .remote _ | .unawaited => cases rows

theorem lodges_ofList (named : name.isGraphName = true) (proper : ∀ q ∈ quads, q.isProper = true) :
    Lodges name quads Quad.isProper (SetGraph.ofList name quads).quads (.set (.ofList name quads)) where
  keeps := by
    have called : (SetGraph.ofList name quads).name = name := orDefault_of_isGraphName named
    have sound : (SetGraph.ofList name quads).Proper := by
      refine ⟨called.symm ▸ named, ?_⟩
      exact fun q member => proper q ((SetGraph.mem_ofList proper).1 member)
    exact .inner rfl sound called
  called := congrArg some (orDefault_of_isGraphName named)
  strays := fun q member _ => ⟨(SetGraph.mem_ofList proper).1 member, by simp⟩

theorem Lodges.edit (lodges : Lodges name quads accepts held g) (proper : e.isProper = true) :
    ∃ kept, Lodges name quads accepts kept (g.apply e).1 := by
  obtain ⟨kept, keeps, called, members⟩ := lodges.keeps.edit proper
  refine ⟨kept, keeps, called.trans lodges.called, ?_⟩
  intro q member astray
  obtain ⟨stray, plain⟩ := lodges.strays q ((members q member).resolve_right astray) astray
  refine ⟨stray, ?_⟩
  intro c rows
  obtain ⟨d, before⟩ := rows_of_apply rows
  exact plain d before

theorem lodges_rows (named : name.isGraphName = true) (proper : ∀ q ∈ quads, q.isProper = true)
    {c : Columnar} (made : Columnar.ofList name quads = .ok c) :
    ∃ kept, Lodges name quads Quad.isStorable kept (.columnar c) := by
  have empty : Lodges name quads Quad.isStorable [] (.columnar { name }) :=
    ⟨.columnar (Columnar.tracks_empty named) (by simp), rfl, by simp⟩
  have filled : ({ name } : Columnar).apply (.add quads) = (c, .ok ()) := apply_of_obeyed made
  have same : (Graph.apply (.columnar { name }) (.add quads)).1 = .columnar c := by
    rw [Graph.apply, filled]
    rfl
  exact same ▸ empty.edit (e := .add quads) (List.all_eq_true.2 proper)

theorem Lodges.clear (lodges : Lodges name quads accepts held g) (cleared : g.clear = .ok h) :
    ∃ kept, Lodges name quads accepts kept h := by
  obtain ⟨keeps, called, -⟩ := lodges
  cases keeps with
  | @columnar c l tracks storable =>
    cases cleared
    obtain ⟨d, obeyed, tracked⟩ := tracks.obey (c := .clear) rfl
    cases obeyed
    exact ⟨[], .columnar tracked (by simp [Listing.obey]), called, by simp⟩
  | @inner _ s _ inner sound here =>
    unfold inner? at inner
    split at inner <;> cases inner <;> cases cleared
    rename_i c
    have same : c.name = name := Option.some.inj called
    have named : name.isGraphName = true := here ▸ sound.named
    refine ⟨[], .inner (s := .empty c.name) rfl ?_ ?_, called, by simp⟩
    · rw [same]
      exact SetGraph.proper_empty named
    · rw [same]
      exact orDefault_of_isGraphName named

theorem Arises.lodges (arises : Arises name quads g) (named : name.isGraphName = true)
    (proper : ∀ q ∈ quads, q.isProper = true) : ∃ accepts held, Lodges name quads accepts held g := by
  induction arises with
  | set => exact ⟨_, _, lodges_ofList named proper⟩
  | rows made => exact ⟨_, lodges_rows named proper made⟩
  | edit _ edit_proper ih =>
    obtain ⟨accepts, held, lodges⟩ := ih
    exact ⟨accepts, lodges.edit edit_proper⟩
  | clear _ cleared ih =>
    obtain ⟨accepts, held, lodges⟩ := ih
    exact ⟨accepts, lodges.clear cleared⟩
  | @changes s _ ih =>
    obtain ⟨accepts, held, keeps, called, strays⟩ := ih
    have here : s.name = name := Option.some.inj called
    cases keeps with
    | inner inner sound same =>
      cases inner
      refine ⟨_, _, .inner rfl sound here, ?_, fun q member astray => ⟨(strays q member astray).1, by simp⟩⟩
      exact congrArg some (here ▸ orDefault_of_isGraphName sound.named)

section

variable {kept : List Quad} {p : Pattern}
  (members : ∀ q, q ∈ kept ↔ q ∈ held ∧ q ∉ (held.filter p.matchesQuad).map (·.homed name))
include members

theorem mem_left (q : Quad) : q ∈ kept.filter p.matchesQuad ↔
    q ∈ held.filter p.matchesQuad ∧ q.homed name ≠ q := by
  rw [List.mem_filter, members, List.mem_filter]
  -- What goes out is at home, so a quad that was found goes itself only when it is.
  constructor
  · rintro ⟨⟨old, stays⟩, matching⟩
    refine ⟨⟨old, matching⟩, ?_⟩
    intro home
    exact stays (List.mem_map.2 ⟨q, List.mem_filter.2 ⟨old, matching⟩, home⟩)
  · rintro ⟨⟨old, matching⟩, astray⟩
    refine ⟨⟨old, ?_⟩, matching⟩
    intro gone
    exact astray (atHome_map_homed name _ q gone)

theorem none_left_iff : (kept.filter p.matchesQuad = [] ∧ ∀ q ∈ held, p.matchesQuad q = false → q ∈ kept) ↔
    AtHome name (held.filter p.matchesQuad) := by
  constructor
  · rintro ⟨none, -⟩ q member
    by_contra astray
    have still := (mem_left members q).2 ⟨member, astray⟩
    rw [none] at still
    cases still
  · intro home
    constructor
    · rw [List.eq_nil_iff_forall_not_mem]
      intro q member
      obtain ⟨was, astray⟩ := (mem_left members q).1 member
      exact astray (home q was)
    · intro q old unmatched
      rw [members, home.map_eq, List.mem_filter, unmatched]
      exact ⟨old, by simp⟩

end

theorem Lodges.remove (lodges : Lodges name quads accepts held g) (room : g.HasRoom)
    (within : ∀ q ∈ found, q ∈ held) :
    ∃ h kept, g.remove found = (h, .ok ()) ∧ Keeps name accepts kept h ∧ h.HasRoom ∧
      ∀ q, q ∈ kept ↔ q ∈ held ∧ q ∉ found.map (·.homed name) := by
  have proper : ∀ q ∈ found, q.isProper = true := fun q member =>
    lodges.keeps.isProper (lodges.keeps.accepted q (within q member))
  obtain ⟨h, kept, removed, keeps, -, members⟩ := lodges.keeps.remove proper
  have room' := room.remove found
  rw [Graph.remove, removed] at room'
  exact ⟨h, kept, removed, keeps, room', members⟩

/-- Whatever was written to a graph since it was made: what a pattern finds can be taken out, but a quad
that is not at home stays where it is. It has come from the constructor of a set, and the same statement at
home goes, which the pattern may not match. So nothing is left to find and nothing else is gone exactly when
all that was found was at home; rows have nothing else, nor do sets that were made of quads at home. -/
theorem remove_found_iff {p : Pattern} (named : name.isGraphName = true)
    (proper : ∀ q ∈ quads, q.isProper = true) (arises : Arises name quads g) (room : g.HasRoom)
    (bound : ∀ t ∈ p.bound, t.isProper = true) :
    ∃ held found h kept left, g.quads = .ok held ∧ g.find p = .ok found ∧
      g.remove found = (h, .ok ()) ∧ h.quads = .ok kept ∧ h.find p = .ok left ∧
      (∀ q, q ∈ left ↔ q ∈ found ∧ q.homed name ≠ q) ∧
      (∀ q, q ∈ kept ↔ q ∈ held ∧ q ∉ found.map (·.homed name)) ∧
      ((left = [] ∧ ∀ q ∈ held, p.matchesQuad q = false → q ∈ kept) ↔ AtHome name found) ∧
      (∀ q ∈ found, q.homed name ≠ q → q ∈ quads) ∧
      ((AtHome name quads ∨ ∃ c, g = .columnar c) → AtHome name found) := by
  obtain ⟨accepts, held, lodges⟩ := arises.lodges named proper
  have within : ∀ q ∈ held.filter p.matchesQuad, q ∈ held := fun q member => List.mem_of_mem_filter member
  obtain ⟨h, kept, removed, keeps, room', members⟩ := lodges.remove room within
  refine ⟨held, held.filter p.matchesQuad, h, kept, kept.filter p.matchesQuad, lodges.keeps.quads room,
    lodges.keeps.find room bound, removed, keeps.quads room', keeps.find room' bound, mem_left members,
    members, none_left_iff members, ?_, ?_⟩
  · intro q member astray
    exact (lodges.strays q (within q member) astray).1
  · intro settled q member
    by_contra astray
    obtain ⟨stray, plain⟩ := lodges.strays q (within q member) astray
    rcases settled with home | ⟨c, rows⟩
    · exact astray (home q stray)
    · exact plain c rows

def stray : Quad := ⟨.iri "s", .iri "p", .iri "o", .defaultGraph⟩

def withStray : Graph :=
  (Graph.apply (.changes (.ofGraph (.ofList (.iri "g") [stray])))
    (.add [⟨.iri "s", .iri "q", .iri "o", .defaultGraph⟩])).1

theorem stray_is_left : ∃ found h left, withStray.find { object := some (.iri "o") } = .ok found ∧
    found = [stray, ⟨.iri "s", .iri "q", .iri "o", .iri "g"⟩] ∧ withStray.remove found = (h, .ok ()) ∧
    h.find { object := some (.iri "o") } = .ok left ∧ ∀ q, q ∈ left ↔ q = stray := by
  have named : (Term.iri "g").isGraphName = true := rfl
  have proper : ∀ q ∈ [stray], q.isProper = true := by decide
  have made : Arises (.iri "g") [stray] withStray := .edit (.changes .set) rfl
  have bound : ∀ t ∈ ({ object := some (.iri "o") } : Pattern).bound, t.isProper = true := by decide
  obtain ⟨-, found, h, -, left, -, finds, removed, -, leaves, remaining, -⟩ :=
    remove_found_iff named proper made trivial bound
  have both : found = [stray, ⟨.iri "s", .iri "q", .iri "o", .iri "g"⟩] :=
    Except.ok.inj (finds.symm.trans rfl)
  refine ⟨found, h, left, finds, both, removed, leaves, ?_⟩
  intro q
  rw [remaining, both]
  constructor
  · rintro ⟨member, astray⟩
    rcases List.mem_cons.1 member with same | other
    · exact same
    · rw [List.mem_singleton.1 other] at astray
      exact absurd rfl astray
  · rintro rfl
    decide

end Graph

end QuadPull
