import QuadPull.Proofs.Listing
import QuadPull.Workspace

namespace QuadPull.Workspace

/-- The graph under a number: an entry of its own, or a change set with its two sets. -/
inductive Has (w : Workspace) : Nat → Graph → Prop where
  | graph {id : Nat} {g : Graph} (entry : w.entries[id]? = some (.graph g)) : Has w id g
  | changes {id base current : Nat} {name : Term} {was now : SetGraph}
      (entry : w.entries[id]? = some (.changes name base current))
      (first : w.entries[base]? = some (.graph (.set was)))
      (last : w.entries[current]? = some (.graph (.set now))) :
      Has w id (.changes ⟨name, was, now⟩)

variable {w : Workspace} {id : Nat} {g : Graph}

theorem lt_of_entry {e : Entry} (entry : w.entries[id]? = some e) : id < w.entries.length :=
  (List.getElem?_eq_some_iff.1 entry).1

theorem two_entries {name : Term} {base current other : Nat} {h : Graph}
    (entry : w.entries[id]? = some (.changes name base current))
    (second : w.entries[other]? = some (.graph h)) : ∃ n, w.entries.length = n + 2 := by
  have apart : id ≠ other := by
    rintro rfl
    rw [entry] at second
    cases second
  have bound := lt_of_entry entry
  have bound' := lt_of_entry second
  exact ⟨w.entries.length - 2, by omega⟩

theorem graphWithin_graph (entry : w.entries[id]? = some (.graph g)) (steps : Nat) :
    w.graphWithin (steps + 1) id = .ok g := by
  rw [graphWithin, entry]

theorem Has.graph_eq (has : w.Has id g) : w.graph id = .ok g := by
  cases has with
  | graph entry =>
    have bound := lt_of_entry entry
    obtain ⟨n, length⟩ : ∃ n, w.entries.length = n + 1 := ⟨w.entries.length - 1, by omega⟩
    rw [Workspace.graph, length, graphWithin_graph entry]
  | changes entry first last =>
    obtain ⟨n, length⟩ := two_entries entry first
    rw [Workspace.graph, length, graphWithin, entry]
    simp only [graphWithin_graph first, graphWithin_graph last]
    rfl

theorem graphWithin_changes {name : Term} {base current steps : Nat}
    (entry : w.entries[id]? = some (.changes name base current))
    (found : w.graphWithin (steps + 1) id = .ok g) :
    (∃ was now, w.graphWithin steps base = .ok (.set was) ∧
      w.graphWithin steps current = .ok (.set now) ∧ g = .changes ⟨name, was, now⟩) ∨
      ∃ h, g = .over name h := by
  rw [graphWithin, entry] at found
  cases first : w.graphWithin steps base with
  | error e => simp [first, bind, Except.bind] at found
  | ok was =>
    cases last : w.graphWithin steps current with
    | error e => simp [first, last, bind, Except.bind] at found
    | ok now =>
      simp only [first, last, bind, Except.bind, pure, Except.pure] at found
      split at found
      · cases found
        exact .inl ⟨_, _, rfl, rfl, rfl⟩
      · cases found
        exact .inr ⟨_, rfl⟩

theorem entry_of_set {steps : Nat} {s : SetGraph} (found : w.graphWithin steps id = .ok (.set s)) :
    w.entries[id]? = some (.graph (.set s)) := by
  cases steps with
  | zero => cases found
  | succ steps =>
    cases entry : w.entries[id]? with
    | none => simp [graphWithin, entry] at found
    | some e =>
      cases e with
      | graph h =>
        rw [graphWithin_graph entry] at found
        cases found
        rfl
      | changes name base current =>
        rcases graphWithin_changes entry found with ⟨_, _, -, -, same⟩ | ⟨_, same⟩ <;> cases same

theorem has_of_graph_eq (found : w.graph id = .ok g) (plain : ∀ name h, g ≠ .over name h) :
    w.Has id g := by
  cases entry : w.entries[id]? with
  | none =>
    unfold Workspace.graph at found
    cases length : w.entries.length <;> simp [length, graphWithin, entry] at found
  | some e =>
    have bound := lt_of_entry entry
    obtain ⟨n, length⟩ : ∃ n, w.entries.length = n + 1 := ⟨w.entries.length - 1, by omega⟩
    rw [Workspace.graph, length] at found
    cases e with
    | graph h =>
      rw [graphWithin_graph entry] at found
      cases found
      exact .graph entry
    | changes name base current =>
      rcases graphWithin_changes entry found with ⟨was, now, first, last, rfl⟩ | ⟨h, same⟩
      · exact .changes entry (entry_of_set first) (entry_of_set last)
      · exact absurd same (plain name h)

/-- Where a write to the graph of a number has led: the same place when it is made in place, and otherwise
one that may be new. All else is as it was. -/
structure Leads (w : Workspace) (id : Nat) (g : Graph) (place : At) : Prop where
  nextName : place.1.nextName = w.nextName
  here : g.writesInPlace = true → place.2 = id
  kept : ∀ (other : Nat) (e : Entry), other ≠ id ∨ g.writesInPlace = false →
    w.entries[other]? = some e → place.1.entries[other]? = some e

theorem leads_refl : w.Leads id g (w, id) := ⟨rfl, fun _ => rfl, fun _ _ _ entry => entry⟩

theorem Leads.trans {place after : At} {h : Graph} (first : w.Leads id g place)
    (same : h.writesInPlace = g.writesInPlace) (second : place.1.Leads place.2 h after) :
    w.Leads id g after where
  nextName := second.nextName.trans first.nextName
  here := fun inPlace => (second.here (same.trans inPlace)).trans (first.here inPlace)
  kept := by
    intro other e apart entry
    apply second.kept other e _ (first.kept other e apart entry)
    by_cases inPlace : g.writesInPlace = true
    · left
      rw [first.here inPlace]
      exact apart.resolve_right (by simp [inPlace])
    · exact .inr (same.trans (by simpa using inPlace))

theorem Has.unique {h : Graph} (has : w.Has id g) (also : w.Has id h) : g = h :=
  Except.ok.inj (has.graph_eq.symm.trans also.graph_eq)

theorem Has.of_entries {v : Workspace} (has : w.Has id g)
    (same : v.entries = w.entries) : v.Has id g := by
  cases has with
  | graph entry => exact .graph (same ▸ entry)
  | changes entry first last => exact .changes (same ▸ entry) (same ▸ first) (same ▸ last)

theorem Leads.has {place : At} (leads : w.Leads id g place) (has : w.Has id g) {other : Nat} {h : Graph}
    (apart : other ≠ id ∨ g.writesInPlace = false) (also : w.Has other h) : place.1.Has other h := by
  have stays : ∀ (k : Nat) (s : SetGraph), w.entries[k]? = some (.graph (.set s)) →
      place.1.entries[k]? = some (.graph (.set s)) := by
    intro k s entry
    by_cases here : k = id
    · subst here
      have same : g = .set s := has.unique (.graph entry)
      exact leads.kept k _ (.inr (by rw [same]; rfl)) entry
    · exact leads.kept k _ (.inl here) entry
  cases also with
  | graph entry => exact .graph (leads.kept _ _ apart entry)
  | changes entry first last =>
    exact .changes (leads.kept _ _ apart entry) (stays _ _ first) (stays _ _ last)

theorem writesInPlace_apply (g : Graph) (edit : Edit) :
    (g.apply edit).1.writesInPlace = g.writesInPlace := by
  match g with
  | .served access name s =>
    cases later : access.takesWrites <;> simp [Graph.apply, later, Graph.writesInPlace]
  | .over name h => cases later : h.writesLater <;> simp [Graph.apply, later, Graph.writesInPlace]
  | .set _ | .changes _ | .columnar _ | .remote .. | .unawaited .. => rfl

theorem apply_changes (c : ChangeSet) (edit : Edit) : (Graph.changes c).apply edit =
    (.changes { c with current := (c.current.apply edit).1 }, (c.current.apply edit).2) := rfl

theorem apply_set_error {s : SetGraph} {edit : Edit} {e : Error} (failed : (s.apply edit).2 = .error e) :
    (s.apply edit).1 = s := by
  cases edit with
  | breakOff quads fault => rfl
  | add quads | remove quads => cases holds : s.canHold quads <;> simp [SetGraph.apply, holds] at failed ⊢

theorem has_keep (w : Workspace) (g : Graph) : (w.keep g).1.Has (w.keep g).2 g :=
  .graph (by simp [keep, keepEntry])

theorem kept_keepEntry (w : Workspace) (added : Entry) {other : Nat} {e : Entry}
    (entry : w.entries[other]? = some e) : (w.keepEntry added).1.entries[other]? = some e := by
  rw [keepEntry, List.getElem?_append_left (lt_of_entry entry), entry]

theorem entry_put (e : Entry) (bound : id < w.entries.length) : (w.put id e).entries[id]? = some e := by
  rw [put, List.getElem?_set_self bound]

theorem kept_put (e : Entry) {other : Nat} (apart : other ≠ id) :
    (w.put id e).entries[other]? = w.entries[other]? := by
  rw [put, List.getElem?_set_ne apart.symm]

theorem applyWithin_graph (entry : w.entries[id]? = some (.graph g)) (edit : Edit) (steps : Nat) :
    ∃ place, applyWithin (steps + 1) (w, id) edit = (place, (g.apply edit).2) ∧
      place.1.Has place.2 (g.apply edit).1 ∧ w.Leads id g place := by
  simp only [applyWithin, entry]
  by_cases inPlace : g.writesInPlace = true
  · rw [if_pos inPlace]
    refine ⟨(w.put id (.graph (g.apply edit).1), id), rfl, .graph (entry_put _ (lt_of_entry entry)),
      rfl, fun _ => rfl, ?_⟩
    intro other e apart also
    rw [kept_put _ (apart.resolve_right (by simp [inPlace])), also]
  · rw [if_neg inPlace]
    cases outcome : (g.apply edit).2 with
    | ok =>
      refine ⟨w.keep (g.apply edit).1, rfl, has_keep w _, rfl, fun yes => absurd yes inPlace, ?_⟩
      intro other e _ also
      exact kept_keepEntry w _ also
    | error e =>
      have same : (g.apply edit).1 = g := by
        cases g with
        | set s => exact congrArg Graph.set (apply_set_error outcome)
        | _ => exact absurd rfl inPlace
      exact ⟨(w, id), rfl, .graph (same.symm ▸ entry), leads_refl⟩

theorem Has.apply (has : w.Has id g) (edit : Edit) :
    ∃ place, Workspace.apply (w, id) edit = (place, (g.apply edit).2) ∧
      place.1.Has place.2 (g.apply edit).1 ∧ w.Leads id g place := by
  cases has with
  | graph entry =>
    have bound := lt_of_entry entry
    obtain ⟨n, length⟩ : ∃ n, w.entries.length = n + 1 := ⟨w.entries.length - 1, by omega⟩
    rw [Workspace.apply, length]
    exact applyWithin_graph entry edit n
  | @changes base current name was now entry first last =>
    obtain ⟨n, length⟩ := two_entries entry last
    obtain ⟨⟨w', result⟩, made, made_has, leads⟩ := applyWithin_graph last edit n
    have still : w'.entries[id]? = some (.changes name base current) :=
      leads.kept id _ (.inr rfl) entry
    have made_entry : w'.entries[result]? = some (.graph (.set (now.apply edit).1)) :=
      entry_of_set made_has.graph_eq
    have other_than : ∀ {k : Nat} {h : Graph}, w'.entries[k]? = some (.graph h) → k ≠ id := by
      rintro k h graph rfl
      rw [still] at graph
      cases graph
    -- The set in use is written to, and only then does the change set refer to what has come of it.
    have passed : atOnce (fun place => applyWithin (n + 1) place edit) (w, current) =
        ((w', result), (now.apply edit).2) := by
      rw [atOnce, last]
      exact made
    rw [apply_changes]
    refine ⟨(w'.put id (.changes name base result), id), ?_, ?_, leads.nextName, fun _ => rfl, ?_⟩
    · rw [Workspace.apply, length, applyWithin]
      simp only [entry, passed]
    · refine .changes (entry_put _ (lt_of_entry still)) ?_ ?_
      · have first' := leads.kept base _ (.inr rfl) first
        rw [kept_put _ (other_than first'), first']
      · rw [kept_put _ (other_than made_entry), made_entry]
    · intro other e apart also
      rw [kept_put _ (apart.resolve_right (by simp [Graph.writesInPlace]))]
      exact leads.kept other e (.inr rfl) also

theorem Has.run (has : w.Has id g) (edits : List Edit) :
    ∃ place, Edit.run Workspace.apply (w, id) edits = (place, (Edit.run Graph.apply g edits).2) ∧
      place.1.Has place.2 (Edit.run Graph.apply g edits).1 ∧ w.Leads id g place := by
  induction edits generalizing w id g with
  | nil => exact ⟨(w, id), rfl, has, leads_refl⟩
  | cons edit rest ih =>
    obtain ⟨⟨w', id'⟩, made, has', leads⟩ := has.apply edit
    rw [Edit.run, Edit.run, made]
    cases outcome : (g.apply edit).2 with
    | error e =>
      have ended : g.apply edit = ((g.apply edit).1, .error e) := Prod.ext rfl outcome
      rw [ended]
      exact ⟨(w', id'), rfl, has', leads⟩
    | ok =>
      have ended : g.apply edit = ((g.apply edit).1, .ok ()) := Prod.ext rfl outcome
      obtain ⟨place, others, has'', leads'⟩ := ih has'
      rw [ended]
      exact ⟨place, others, has'', leads.trans (writesInPlace_apply g edit) leads'⟩

theorem Has.clear {c : ChangeSet} (has : w.Has id (.changes c)) :
    ∃ w', Workspace.clear w id = .ok w' ∧ w'.Has id (.changes c.clear) ∧
      w.Leads id (.changes c) (w', id) := by
  have inPlace : (Graph.changes c).writesInPlace ≠ false := by simp [Graph.writesInPlace]
  cases has with
  | graph entry =>
    refine ⟨w.put id (.graph (.changes c.clear)), ?_, .graph (entry_put _ (lt_of_entry entry)), rfl,
      fun _ => rfl, ?_⟩
    · rw [Workspace.clear, entry]
      rfl
    · intro other e apart also
      rw [kept_put _ (apart.resolve_right inPlace), also]
  | @changes base current name was now entry first last =>
    let emptied := w.keep (.set (.empty name))
    have still : emptied.1.entries[id]? = some (.changes name base current) := kept_keepEntry w _ entry
    have others : ∀ {k : Nat} {h : Graph}, emptied.1.entries[k]? = some (.graph h) → k ≠ id := by
      rintro k h graph rfl
      rw [still] at graph
      cases graph
    refine ⟨emptied.1.put id (.changes name base emptied.2), ?_, ?_, rfl, fun _ => rfl, ?_⟩
    · rw [Workspace.clear, entry]
    · have first' : emptied.1.entries[base]? = some (.graph (.set was)) := kept_keepEntry w _ first
      have last' : emptied.1.entries[emptied.2]? = some (.graph (.set (.empty name))) :=
        entry_of_set (has_keep w _).graph_eq
      refine .changes (entry_put _ (lt_of_entry still)) ?_ ?_
      · rw [kept_put _ (others first'), first']
      · rw [kept_put _ (others last'), last']
    · intro other e apart also
      rw [kept_put _ (apart.resolve_right inPlace)]
      exact kept_keepEntry w _ also

end QuadPull.Workspace
