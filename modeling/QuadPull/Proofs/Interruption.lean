import QuadPull.Proofs.Handles

namespace QuadPull

namespace Resource

theorem split_at_fault {values : List Value} (refused : ∃ v ∈ values, ∃ fault, termOf v = .error fault) :
    ∃ before v after fault, values = before ++ v :: after ∧ (∀ u ∈ before, ∃ t, termOf u = .ok t) ∧
      termOf v = .error fault ∧ (termsOf values).2 = some fault := by
  induction values with
  | nil =>
    obtain ⟨v, member, -⟩ := refused
    cases member
  | cons v rest ih =>
    cases first : termOf v with
    | error fault =>
      refine ⟨[], v, rest, fault, rfl, by simp, first, ?_⟩
      simp [termsOf, first]
    | ok t =>
      have later : ∃ u ∈ rest, ∃ fault, termOf u = .error fault := by
        obtain ⟨u, member, fault, failed⟩ := refused
        rcases List.mem_cons.1 member with rfl | member
        · rw [first] at failed
          cases failed
        · exact ⟨u, member, fault, failed⟩
      obtain ⟨before, u, after, fault, rfl, converted, failed, told⟩ := ih later
      refine ⟨v :: before, u, after, fault, rfl, ?_, failed, ?_⟩
      · exact List.forall_mem_cons.2 ⟨⟨t, first⟩, converted⟩
      · rw [termsOf]
        simp only [first]
        exact told

theorem apply_addition {c : ChangeSet} {node p : Term} {values : List Value} {fault : Error}
    (named : c.current.name.isGraphName = true) (node_proper : node.isProper = true)
    (p_proper : p.isProper = true) (fit : ∀ v ∈ values, fits v = true)
    (told : (termsOf values).2 = some fault) :
    c.apply (addition node p values) = (c, .error fault) := by
  have proper := addition_isProper node_proper p_proper fit
  cases terms : termsOf values with
  | mk terms fault' =>
    rw [terms] at told
    obtain rfl : fault' = some fault := told
    rw [addition, terms] at proper ⊢
    rw [ChangeSet.apply, SetGraph.apply_breakOff named (List.all_eq_true.1 proper)]

end Resource

namespace ChangeSet

/-- What a change set takes out in order to replace a property. -/
def said (c : ChangeSet) (node p : Term) : List Quad :=
  (c.current.quads.filter (Resource.about node p)).map (·.homed c.current.name)

/-- Both hold the same quads, and tell the same differences from where they started. -/
structure Agrees (c d : ChangeSet) : Prop where
  current : ∀ q, q ∈ d.current.quads ↔ q ∈ c.current.quads
  added : ∀ q, q ∈ d.delta.added ↔ q ∈ c.delta.added
  removed : ∀ q, q ∈ d.delta.removed ↔ q ∈ c.delta.removed

theorem base_dropping (c : ChangeSet) (found : List Quad) : (c.dropping found).base = c.base := by
  rw [dropping]
  split <;> rfl

theorem named_dropping {c : ChangeSet} (sound : c.current.Proper) (found : List Quad) :
    (c.dropping found).current.name.isGraphName = true := by
  rw [dropping]
  split
  · exact sound.named
  · exact (sound.remove found).named

section

variable {c : ChangeSet} {found : List Quad} (sound : c.current.Proper)
  (proper : ∀ q ∈ found, q.isProper = true)
include sound proper

theorem mem_added_dropping (base_proper : ∀ q ∈ c.base.quads, q.isProper = true) {q : Quad} :
    q ∈ (c.dropping found).delta.added ↔
      q ∈ c.delta.added ∧ q ∉ found.map (·.homed c.current.name) := by
  have based : ∀ q ∈ (c.dropping found).base.quads, q.isProper = true := by
    rwa [base_dropping]
  rw [mem_added based, mem_added base_proper, mem_dropping sound proper, base_dropping]
  exact and_right_comm

theorem mem_removed_dropping {q : Quad} : q ∈ (c.dropping found).delta.removed ↔
    q ∈ c.delta.removed ∨ q ∈ c.base.quads ∧ q ∈ found.map (·.homed c.current.name) := by
  have current : ∀ q ∈ (c.dropping found).current.quads, q.isProper = true := fun q member =>
    sound.quads q ((mem_dropping sound proper).1 member).1
  rw [mem_removed current, mem_removed sound.quads, mem_dropping sound proper, base_dropping]
  tauto

theorem agrees_dropping_iff (base_proper : ∀ q ∈ c.base.quads, q.isProper = true) :
    c.Agrees (c.dropping found) ↔ ∀ q ∈ found.map (·.homed c.current.name), q ∉ c.current.quads := by
  refine ⟨?_, ?_⟩
  · intro same q gone held
    exact ((mem_dropping sound proper).1 ((same.current q).2 held)).2 gone
  · intro spared
    refine ⟨?_, ?_, ?_⟩
    · intro q
      rw [mem_dropping sound proper]
      exact and_iff_left_of_imp fun held gone => spared q gone held
    · intro q
      rw [mem_added_dropping sound proper base_proper]
      exact and_iff_left_of_imp fun new gone => spared q gone ((mem_added base_proper).1 new).1
    · intro q
      rw [mem_removed_dropping sound proper]
      exact or_iff_left_of_imp fun held => (mem_removed sound.quads).2 ⟨held.1, spared q held.2⟩

end

end ChangeSet

namespace Handle

open Workspace Resource

/-- To set a property to values of which one has no term fails with the fault of the first such value. By then
all that was said about the property has been taken out, and so it is lost: it is missing from the content and
from what was added, and what the base has of it counts as removed. -/
theorem setAll_interrupted {w : Workspace} {id : Nat} {c : ChangeSet} {r : Handle} {p : Term}
    {values : List Value} (stored : w.graph id = .ok (.changes c)) (sound : c.current.Proper)
    (base_proper : ∀ q ∈ c.base.quads, q.isProper = true) (of : r.Of id)
    (node_proper : r.node.isProper = true) (p_proper : p.isProper = true)
    (fit : ∀ v ∈ values, fits v = true) (refused : ∃ v ∈ values, ∃ fault, termOf v = .error fault) :
    ∃ before v after fault w' d, values = before ++ v :: after ∧
      (∀ u ∈ before, ∃ t, termOf u = .ok t) ∧ termOf v = .error fault ∧
      r.setAll w p values = (w', .error fault) ∧ w'.changes id = .ok d ∧
      (∀ q, q ∈ d.current.quads ↔ q ∈ c.current.quads ∧ q ∉ c.said r.node p) ∧
      (∀ q, q ∈ d.delta.added ↔ q ∈ c.delta.added ∧ q ∉ c.said r.node p) ∧
      (∀ q, q ∈ d.delta.removed ↔ q ∈ c.delta.removed ∨ q ∈ c.base.quads ∧ q ∈ c.said r.node p) ∧
      (c.Agrees d ↔ ∀ q ∈ c.said r.node p, q ∉ c.current.quads) ∧
      (AtHome c.current.name c.current.quads →
        (c.Agrees d ↔ ∀ q ∈ c.current.quads, ¬ (q.subject = r.node ∧ q.predicate = p))) := by
  have has : w.Has id (.changes c) := has_of_graph_eq stored (by simp)
  let found := c.current.quads.filter (about r.node p)
  have found_proper : ∀ q ∈ found, q.isProper = true := fun q member =>
    sound.quads q (List.mem_of_mem_filter member)
  obtain ⟨before, v, after, fault, split, converted, failed, told⟩ := split_at_fault refused
  have planned : replacement (.changes c) r.node p values =
      .ok ((if found.isEmpty then [] else [.remove found]) ++ [addition r.node p values]) := by
    rw [replacement, deletion_eq sound.quads node_proper p_proper]
    rfl
  have ran : Edit.run ChangeSet.apply c
      ((if found.isEmpty then [] else [.remove found]) ++ [addition r.node p values]) =
        (c.dropping found, .error fault) := by
    have named := ChangeSet.named_dropping sound found
    rw [Edit.run_append, ChangeSet.run_removal sound.named found_proper]
    simp only [Edit.run, apply_addition named node_proper p_proper fit told]
  obtain ⟨w', made, has'⟩ := has.edit (fun g => replacement g r.node p values) planned
  rw [ran] at made has'
  have agrees := ChangeSet.agrees_dropping_iff sound found_proper base_proper
  refine ⟨before, v, after, fault, w', c.dropping found, split, converted, failed, ?_, changes_eq has',
    fun q => ChangeSet.mem_dropping sound found_proper,
    fun q => ChangeSet.mem_added_dropping sound found_proper base_proper,
    fun q => ChangeSet.mem_removed_dropping sound found_proper, agrees, ?_⟩
  · rw [Handle.setAll, of.changes_eq, made]
    rfl
  · intro home
    have found_home : AtHome c.current.name found := fun q member =>
      home q (List.mem_of_mem_filter member)
    rw [agrees, found_home.map_eq]
    refine ⟨?_, ?_⟩
    · intro none q held same
      have member : q ∈ found := List.mem_filter.2 ⟨held, about_iff.2 same⟩
      exact none q member held
    · intro none q member held
      exact none q held (about_iff.1 (List.mem_filter.1 member).2)

def tooLong : Value := .int (.ofNat (Number.tenTo Number.maxDigits))

def acquaintance : Workspace where
  entries := [.graph (.set (.built (.iri "g") [[⟨.iri "a", knows, .iri "b", .defaultGraph⟩]])),
    .changes (.iri "g") 0 0]

theorem acquaintance_is_lost :
    ∃ w' d, setAll ⟨1, .iri "a"⟩ acquaintance knows [.text "c", tooLong, .bool true] =
        (w', .error .numberTooLong) ∧
      w'.changes 1 = .ok d ∧ d.current.quads = [] ∧ d.delta.added = [] ∧
      ∀ q, q ∈ d.delta.removed ↔ q = ⟨.iri "a", knows, .iri "b", .iri "g"⟩ := by
  let held : SetGraph := .built (.iri "g") [[⟨.iri "a", knows, .iri "b", .defaultGraph⟩]]
  let c : ChangeSet := ⟨.iri "g", held, held⟩
  let values : List Value := [.text "c", tooLong, .bool true]
  have stored : acquaintance.graph 1 = .ok (.changes c) := rfl
  have sound : c.current.Proper := ⟨rfl, by decide⟩
  have base_proper : ∀ q ∈ c.base.quads, q.isProper = true := by decide
  have fault : termOf tooLong = .error .numberTooLong := by decide +kernel
  have fit : ∀ v ∈ values, fits v = true := by decide +kernel
  have refused : ∃ v ∈ values, ∃ fault, termOf v = .error fault :=
    ⟨tooLong, by simp [values], .numberTooLong, fault⟩
  have node_proper : (⟨1, .iri "a"⟩ : Handle).node.isProper = true := rfl
  have p_proper : knows.isProper = true := rfl
  obtain ⟨before, v, after, fault', w', d, split, -, failed, set, changes, content, added, removed, -, -⟩ :=
    setAll_interrupted stored sound base_proper (.made (.iri "a")) node_proper p_proper fit refused
  obtain rfl : .numberTooLong = fault' := by
    have member : v ∈ values := by simp [split]
    simp only [values, List.mem_cons, List.not_mem_nil, or_false] at member
    rcases member with rfl | rfl | rfl
    · cases failed
    · exact Except.error.inj (fault.symm.trans failed)
    · cases failed
  let known : Quad := ⟨.iri "a", knows, .iri "b", .iri "g"⟩
  have lost : c.said (.iri "a") knows = [known] := by decide
  have held : c.current.quads = [known] := by decide
  have was : c.base.quads = [known] := by decide
  have unchanged : c.delta.added = [] ∧ c.delta.removed = [] := by decide
  simp only [lost, held, was, unchanged.1, unchanged.2, List.mem_singleton, List.not_mem_nil, false_and,
    false_or, and_self] at content added removed
  refine ⟨w', d, set, changes, ?_, ?_, removed⟩
  · exact List.eq_nil_iff_forall_not_mem.2 fun q member => ((content q).1 member).2 ((content q).1 member).1
  · exact List.eq_nil_iff_forall_not_mem.2 fun q member => (added q).1 member

end Handle

end QuadPull
