import QuadPull.Proofs.Removal

namespace QuadPull

structure Handle where
  changes : Nat
  node : Term

namespace Handle

def withNode (r : Handle) (node : Term) : Handle := { r with node }

def follow? (r : Handle) : Value → Option Handle
  | .handle node => some (r.withNode node)
  | _ => none

def getAll (r : Handle) (w : Workspace) (p : Term) : Except Error (List Value) := do
  let g ← w.graph r.changes
  Resource.getAll g r.node (some p)

def get? (r : Handle) (w : Workspace) (p : Term) : Except Error (Option Value) := do
  let g ← w.graph r.changes
  Resource.get? g r.node (some p)

def has (r : Handle) (w : Workspace) (p : Term) : Except Error Bool := do
  let g ← w.graph r.changes
  Resource.has g r.node (some p)

def setAll (r : Handle) (w : Workspace) (p : Term) (values : List Value) : Workspace × Except Error Unit :=
  (Workspace.edit (w, r.changes) fun g => Resource.replacement g r.node p values).map Prod.fst id

def delete (r : Handle) (w : Workspace) (p : Term) : Workspace × Except Error Unit :=
  (Workspace.edit (w, r.changes) fun g => Resource.deletion g r.node (some p)).map Prod.fst id

/-- The resources of a change set: those that were made for it, and those that come from another of them. -/
inductive Of (id : Nat) : Handle → Prop where
  | made (node : Term) : Of id ⟨id, node⟩
  | withNode {r : Handle} (of : Of id r) (node : Term) : Of id (r.withNode node)
  | got {r s : Handle} {w : Workspace} {p : Term} {v : Value} (of : Of id r)
      (found : r.get? w p = .ok (some v)) (followed : r.follow? v = some s) : Of id s
  | listed {r s : Handle} {w : Workspace} {p : Term} {v : Value} {vs : List Value} (of : Of id r)
      (found : r.getAll w p = .ok vs) (member : v ∈ vs) (followed : r.follow? v = some s) : Of id s

theorem changes_of_follow {r s : Handle} {v : Value} (followed : r.follow? v = some s) :
    s.changes = r.changes := by
  cases v with
  | handle node =>
    cases followed
    rfl
  | _ => cases followed

theorem Of.changes_eq {id : Nat} {r : Handle} (of : Of id r) : r.changes = id := by
  induction of with
  | made node => rfl
  | withNode _ node ih => exact ih
  | got _ _ followed ih => exact (changes_of_follow followed).trans ih
  | listed _ _ _ followed ih => exact (changes_of_follow followed).trans ih

structure Reads (r : Handle) (w : Workspace) (p : Term) (values : List Value) : Prop where
  all : r.getAll w p = .ok values
  first : r.get? w p = .ok values.head?
  any : r.has w p = .ok (!values.isEmpty)

end Handle

namespace Resource

def about (node p : Term) (q : Quad) : Bool := q.subject = node && q.predicate = p

/-- What a term is read as: a name as its resource, and a literal as its native value. -/
def decoded : Term → Value
  | .iri value => .handle (.iri value)
  | .literal l => l.toValue
  | t => .term t

theorem about_iff {node p : Term} {q : Quad} :
    about node p q = true ↔ q.subject = node ∧ q.predicate = p := by
  simp [about]

theorem valueOf_eq {t : Term} (proper : t.isProper = true) : valueOf t = .ok (decoded t) := by
  cases t with
  | loose l => cases proper
  | _ => rfl

theorem equals_decoded {t : Term} (proper : t.isProper = true) (named : t.isIri = true) :
    decoded t = .handle t ∧ equals t (.term t) = true := by
  cases t with
  | iri value => exact ⟨rfl, by simp [equals, Term.isIri, Term.same]⟩
  | loose l => cases proper
  | _ => cases named

theorem mapM_valueOf {quads : List Quad} (proper : ∀ q ∈ quads, q.isProper = true) :
    quads.mapM (fun q => valueOf q.object) = .ok (quads.map fun q => decoded q.object) := by
  induction quads with
  | nil => rfl
  | cons q rest ih =>
    have object := (Quad.isProper_iff.1 (proper q List.mem_cons_self)).2.2.1
    rw [List.mapM_cons, valueOf_eq object, ih fun r member => proper r (List.mem_cons_of_mem _ member)]
    rfl

variable {c : ChangeSet} {node p : Term}

theorem existing_eq (proper : ∀ q ∈ c.current.quads, q.isProper = true) (node_proper : node.isProper = true)
    (p_proper : p.isProper = true) :
    existing (.changes c) node (some p) = .ok (c.current.quads.filter (about node p)) := by
  have asked : existing (.changes c) node (some p) =
      .ok (c.current.quads.filter (Pattern.matchesQuad { subject := some node, predicate := some p })) := by
    rw [existing, Option.bind_some, Term.given?_of_isProper node_proper, Term.given?_of_isProper p_proper]
    rfl
  rw [asked]
  congr 1
  apply List.filter_congr
  intro q member
  -- Proper terms are settled, so a position matches a term only by being it.
  obtain ⟨subject, predicate, -⟩ := Quad.isProper_iff.1 (proper q member)
  rw [Bool.eq_iff_iff, about_iff]
  simp only [Pattern.matchesQuad, accepts_none, Bool.and_true, Bool.and_eq_true, accepts_some]
  rw [Term.settled_of_isProper subject, Term.settled_of_isProper predicate,
    Term.settled_of_isProper node_proper, Term.settled_of_isProper p_proper]

def fits (v : Value) : Bool := (termOf v).toOption.all Term.isProper

def isConvertible (v : Value) : Bool := (termOf v).toOption.any Term.isProper

theorem terms_of_convertible {values : List Value} (convertible : ∀ v ∈ values, isConvertible v = true) :
    ∃ terms, termsOf values = (terms, none) ∧ (∀ t ∈ terms, t.isProper = true) ∧
      ∀ t, t ∈ terms ↔ ∃ v ∈ values, termOf v = .ok t := by
  induction values with
  | nil => exact ⟨[], rfl, by simp, by simp⟩
  | cons v rest ih =>
    have good := convertible v List.mem_cons_self
    obtain ⟨terms, told, proper, members⟩ := ih fun u member => convertible u (List.mem_cons_of_mem _ member)
    cases first : termOf v with
    | error e => simp [isConvertible, first, Except.toOption] at good
    | ok t =>
      have t_proper : t.isProper = true := by simpa [isConvertible, first, Except.toOption] using good
      refine ⟨t :: terms, ?_, List.forall_mem_cons.2 ⟨t_proper, proper⟩, ?_⟩
      · rw [termsOf]
        simp only [first, told]
        rfl
      · intro u
        simp [members, first, eq_comm]

theorem terms_proper {values : List Value} (fit : ∀ v ∈ values, fits v = true) :
    ∀ t ∈ (termsOf values).1, t.isProper = true := by
  induction values with
  | nil => simp [termsOf]
  | cons v rest ih =>
    have later := ih fun u member => fit u (List.mem_cons_of_mem _ member)
    have here := fit v List.mem_cons_self
    rw [termsOf]
    cases first : termOf v with
    | error e => simp
    | ok t =>
      have t_proper : t.isProper = true := by simpa [fits, first, Except.toOption] using here
      exact List.forall_mem_cons.2 ⟨t_proper, later⟩

section

variable {values : List Value} (node_proper : node.isProper = true) (p_proper : p.isProper = true)
include node_proper p_proper

theorem isProper_statement {t : Term} (proper : t.isProper = true) :
    (⟨node, p, t, .defaultGraph⟩ : Quad).isProper = true :=
  Quad.isProper_iff.2 ⟨node_proper, p_proper, proper, rfl⟩

theorem addition_isProper (fit : ∀ v ∈ values, fits v = true) : (addition node p values).isProper = true := by
  have proper := terms_proper fit
  cases told : termsOf values with
  | mk terms fault =>
    rw [told] at proper
    have quads : ((terms.map fun t => (⟨node, p, t, .defaultGraph⟩ : Quad)).all Quad.isProper) = true := by
      rw [List.all_map, List.all_eq_true]
      exact fun t member => isProper_statement node_proper p_proper (proper t member)
    simp only [addition, told]
    cases fault with
    | none => exact quads
    | some e => exact quads

end

end Resource

namespace ChangeSet

variable {c : ChangeSet} {base : SetGraph} {node p : Term} {quads found : List Quad} {e : Edit}

theorem Over.isProper (based : c.Over base) : ∀ q ∈ c.current.quads, q.isProper = true :=
  based.current.quads

theorem Over.edit (based : c.Over base) (proper : e.isProper = true) : (c.apply e).1.Over base := by
  obtain ⟨sound, same, members⟩ := based.current.toProper.edit proper
  refine ⟨based.origin, based.name, sound, same.trans based.current.here, ?_⟩
  intro q member
  cases members q member with
  | inl old => exact based.current.home q old
  | inr home => rwa [based.current.here] at home

theorem Over.run (based : c.Over base) {edits : List Edit} (proper : ∀ e ∈ edits, e.isProper = true) :
    (Edit.run ChangeSet.apply c edits).1.Over base := by
  induction edits generalizing c with
  | nil => exact based
  | cons e rest ih =>
    have next := based.edit (proper e List.mem_cons_self)
    rw [Edit.run]
    split
    · rename_i d applied
      rw [applied] at next
      exact ih next fun f member => proper f (List.mem_cons_of_mem _ member)
    · rename_i d fault applied
      rw [applied] at next
      exact next

def dropping (c : ChangeSet) (found : List Quad) : ChangeSet := if found.isEmpty then c else c.remove found

theorem run_removal (named : c.current.name.isGraphName = true) (proper : ∀ q ∈ found, q.isProper = true) :
    Edit.run ChangeSet.apply c (if found.isEmpty then [] else [.remove found]) =
      (c.dropping found, .ok ()) := by
  rw [dropping]
  split
  · rfl
  · have applied : c.apply (.remove found) = (c.remove found, .ok ()) := by
      rw [ChangeSet.apply, SetGraph.apply_remove named proper]
      rfl
    rw [Edit.run, applied]
    rfl

theorem mem_dropping (sound : c.current.Proper) (proper : ∀ q ∈ found, q.isProper = true) {q : Quad} :
    q ∈ (c.dropping found).current.quads ↔
      q ∈ c.current.quads ∧ q ∉ found.map (·.homed c.current.name) := by
  rw [dropping]
  split
  · rename_i none
    simp [List.isEmpty_iff.1 none]
  · exact sound.mem_remove proper

theorem Over.dropping (based : c.Over base) (found : List Quad) : (c.dropping found).Over base := by
  rw [ChangeSet.dropping]
  split
  · exact based
  · exact based.remove found

theorem Over.mem_dropping (based : c.Over base) (within : ∀ q ∈ found, q ∈ c.current.quads) {q : Quad} :
    q ∈ (c.dropping found).current.quads ↔ q ∈ c.current.quads ∧ q ∉ found := by
  have home : AtHome base.name found := fun q member => based.current.home q (within q member)
  rw [ChangeSet.mem_dropping based.current.toProper fun q member => based.isProper q (within q member),
    based.current.here, home.map_eq]

theorem Over.apply_add (based : c.Over base) (proper : ∀ q ∈ quads, q.isProper = true) :
    c.apply (.add quads) = (c.add quads, .ok ()) ∧
      ∀ q, q ∈ (c.add quads).current.quads ↔ q ∈ c.current.quads ∨ q ∈ quads.map (·.homed base.name) := by
  constructor
  · rw [ChangeSet.apply, SetGraph.apply_add based.current.named proper]
    rfl
  · intro q
    have members := based.current.mem_add proper (q := q)
    rwa [based.current.here] at members

end ChangeSet

namespace Resource

variable {c : ChangeSet} {base : SetGraph} {node p : Term} {values : List Value}

theorem deletion_eq (proper : ∀ q ∈ c.current.quads, q.isProper = true) (node_proper : node.isProper = true)
    (p_proper : p.isProper = true) : deletion (.changes c) node (some p) =
      .ok (if (c.current.quads.filter (about node p)).isEmpty then []
        else [.remove (c.current.quads.filter (about node p))]) := by
  rw [deletion, existing_eq proper node_proper p_proper]
  rfl

section

variable (based : c.Over base) (node_proper : node.isProper = true) (p_proper : p.isProper = true)
include based node_proper p_proper

theorem replacement_isProper (fit : ∀ v ∈ values, fits v = true) :
    ∃ edits, replacement (.changes c) node p values = .ok edits ∧ ∀ e ∈ edits, e.isProper = true := by
  let old := c.current.quads.filter (about node p)
  have old_proper : ∀ q ∈ old, q.isProper = true :=
    fun q member => based.isProper q (List.mem_of_mem_filter member)
  refine ⟨(if old.isEmpty then [] else [.remove old]) ++ [addition node p values], ?_, ?_⟩
  · rw [replacement, deletion_eq based.isProper node_proper p_proper]
    rfl
  · intro e member
    rcases List.mem_append.1 member with out | new
    · split at out
      · cases out
      · rw [List.mem_singleton.1 out]
        exact List.all_eq_true.2 old_proper
    · rw [List.mem_singleton.1 new]
      exact addition_isProper node_proper p_proper fit

theorem run_deletion : ∃ edits d, deletion (.changes c) node (some p) = .ok edits ∧
    Edit.run ChangeSet.apply c edits = (d, .ok ()) ∧ d.Over base ∧
      ∀ q, q ∈ d.current.quads ↔ q ∈ c.current.quads ∧ ¬ (q.subject = node ∧ q.predicate = p) := by
  have within : ∀ q ∈ c.current.quads.filter (about node p), q ∈ c.current.quads :=
    fun q member => List.mem_of_mem_filter member
  have named : c.current.name.isGraphName = true := based.current.named
  refine ⟨_, _, deletion_eq based.isProper node_proper p_proper,
    ChangeSet.run_removal named fun q member => based.isProper q (within q member), based.dropping _, ?_⟩
  intro q
  rw [based.mem_dropping within, List.mem_filter, about_iff]
  constructor
  · intro ⟨held, out⟩
    exact ⟨held, fun same => out ⟨held, same⟩⟩
  · intro ⟨held, other⟩
    exact ⟨held, fun out => other out.2⟩

/-- To set a property takes out what is said about it and puts the values in its place, each once and in the
graph of the change set. -/
theorem run_replacement (convertible : ∀ v ∈ values, isConvertible v = true) :
    ∃ edits d, replacement (.changes c) node p values = .ok edits ∧
      Edit.run ChangeSet.apply c edits = (d, .ok ()) ∧ d.Over base ∧
      ∀ q, q ∈ d.current.quads ↔ (q ∈ c.current.quads ∧ ¬ (q.subject = node ∧ q.predicate = p)) ∨
        ∃ v ∈ values, ∃ t, termOf v = .ok t ∧ q = ⟨node, p, t, base.name⟩ := by
  obtain ⟨edits, bare, deletes, ran, based', left⟩ := run_deletion based node_proper p_proper
  obtain ⟨terms, told, proper, converted⟩ := terms_of_convertible convertible
  let statements : List Quad := terms.map fun t => ⟨node, p, t, .defaultGraph⟩
  have statements_proper : ∀ q ∈ statements, q.isProper = true := by
    intro q member
    obtain ⟨t, among, rfl⟩ := List.mem_map.1 member
    exact isProper_statement node_proper p_proper (proper t among)
  obtain ⟨added, members⟩ := based'.apply_add statements_proper
  have comes_in : addition node p values = .add statements := by simp only [addition, told]; rfl
  refine ⟨edits ++ [.add statements], bare.add statements, ?_, ?_, based'.add statements_proper, ?_⟩
  · rw [replacement, deletes, comes_in]
    rfl
  · rw [Edit.run_append, ran]
    simp only [Edit.run, added]
  · intro q
    -- The statements come in the default graph, and the change set takes them home.
    have stated : q ∈ statements.map (·.homed base.name) ↔
        ∃ v ∈ values, ∃ t, termOf v = .ok t ∧ q = ⟨node, p, t, base.name⟩ := by
      rw [List.map_map, List.mem_map]
      constructor
      · rintro ⟨t, among, rfl⟩
        obtain ⟨v, member, is_term⟩ := (converted t).1 among
        exact ⟨v, member, t, is_term, rfl⟩
      · rintro ⟨v, member, t, is_term, rfl⟩
        exact ⟨t, (converted t).2 ⟨v, member, is_term⟩, rfl⟩
    rw [members, left, stated]

end

end Resource

inductive Deed where
  | write (e : Edit)
  | clear
  | set (node p : Term) (values : List Value)
  | delete (node p : Term)

def Deed.isTyped : Deed → Bool
  | .write e => e.isProper
  | .clear => true
  | .set node p values => node.isProper && p.isProper && values.all Resource.fits
  | .delete node p => node.isProper && p.isProper

namespace Workspace

def perform (w : Workspace) (id : Nat) : Deed → Workspace
  | .write e => (apply (w, id) e).1.1
  | .clear => (w.clear id).toOption.getD w
  | .set node p values => (Handle.setAll ⟨id, node⟩ w p values).1
  | .delete node p => (Handle.delete ⟨id, node⟩ w p).1

def performAll (w : Workspace) (id : Nat) (deeds : List Deed) : Workspace :=
  deeds.foldl (fun w deed => w.perform id deed) w

def Lists (w : Workspace) (id : Nat) (held : List Quad) : Prop :=
  ∀ r : Handle, r.Of id → r.node.isProper = true → ∀ p : Term, p.isProper = true →
    r.Reads w p ((held.filter (Resource.about r.node p)).map fun q => Resource.decoded q.object)

variable {w : Workspace} {id : Nat} {c : ChangeSet} {base : SetGraph}

theorem Has.applyHere (has : w.Has id (.changes c)) (e : Edit) :
    ∃ w', Workspace.applyHere (w, id) e = ((w', id), (c.apply e).2) ∧ w'.Has id (.changes (c.apply e).1) := by
  obtain ⟨⟨w', id'⟩, made, has', leads⟩ := has.apply e
  obtain rfl : id' = id := leads.here rfl
  refine ⟨w', ?_, has'⟩
  rw [Workspace.applyHere, made]
  rfl

theorem Has.runHere (has : w.Has id (.changes c)) (edits : List Edit) :
    ∃ w', Edit.run Workspace.applyHere (w, id) edits = ((w', id), (Edit.run ChangeSet.apply c edits).2) ∧
      w'.Has id (.changes (Edit.run ChangeSet.apply c edits).1) := by
  induction edits generalizing w c with
  | nil => exact ⟨w, rfl, has⟩
  | cons e rest ih =>
    obtain ⟨w', made, has'⟩ := has.applyHere e
    rw [Edit.run, Edit.run, made]
    cases outcome : (c.apply e).2 with
    | error fault =>
      have ended : c.apply e = ((c.apply e).1, .error fault) := Prod.ext rfl outcome
      rw [ended]
      exact ⟨w', rfl, has'⟩
    | ok =>
      have ended : c.apply e = ((c.apply e).1, .ok ()) := Prod.ext rfl outcome
      obtain ⟨last, others, has''⟩ := ih has'
      rw [ended]
      exact ⟨last, others, has''⟩

theorem Has.edit (has : w.Has id (.changes c)) (plan : Graph → Except Error (List Edit)) {edits : List Edit}
    (planned : plan (.changes c) = .ok edits) :
    ∃ w', Workspace.edit (w, id) plan = ((w', id), (Edit.run ChangeSet.apply c edits).2) ∧
      w'.Has id (.changes (Edit.run ChangeSet.apply c edits).1) := by
  obtain ⟨w', ran, has'⟩ := has.runHere edits
  refine ⟨w', ?_, has'⟩
  rw [Workspace.edit, has.graph_eq]
  simp only [bind, Except.bind, planned]
  exact ran

theorem Has.perform (has : w.Has id (.changes c)) (based : c.Over base) {deed : Deed}
    (typed : deed.isTyped = true) : ∃ d, (w.perform id deed).Has id (.changes d) ∧ d.Over base := by
  cases deed with
  | write e =>
    obtain ⟨⟨w', id'⟩, made, has', leads⟩ := has.apply e
    obtain rfl : id' = id := leads.here rfl
    refine ⟨(c.apply e).1, ?_, based.edit typed⟩
    rw [Workspace.perform, made]
    exact has'
  | clear =>
    obtain ⟨w', cleared, has', -⟩ := has.clear
    refine ⟨c.clear, ?_, based.clear⟩
    rw [Workspace.perform, cleared]
    exact has'
  | set node p values =>
    simp only [Deed.isTyped, Bool.and_eq_true, List.all_eq_true] at typed
    obtain ⟨⟨node_proper, p_proper⟩, fit⟩ := typed
    obtain ⟨edits, planned, edits_proper⟩ := Resource.replacement_isProper based node_proper p_proper fit
    obtain ⟨w', made, has'⟩ := has.edit (fun g => Resource.replacement g node p values) planned
    refine ⟨_, ?_, based.run edits_proper⟩
    rw [Workspace.perform, Handle.setAll, made]
    exact has'
  | delete node p =>
    simp only [Deed.isTyped, Bool.and_eq_true] at typed
    obtain ⟨edits, d, planned, ran, based', -⟩ := Resource.run_deletion based typed.1 typed.2
    obtain ⟨w', deleted, has'⟩ := has.edit (fun g => Resource.deletion g node (some p)) planned
    rw [ran] at has'
    refine ⟨d, ?_, based'⟩
    rw [Workspace.perform, Handle.delete, deleted]
    exact has'

theorem Has.performAll (has : w.Has id (.changes c)) (based : c.Over base) {deeds : List Deed}
    (typed : ∀ deed ∈ deeds, deed.isTyped = true) :
    ∃ d, (w.performAll id deeds).Has id (.changes d) ∧ d.Over base := by
  induction deeds generalizing w c with
  | nil => exact ⟨c, has, based⟩
  | cons deed rest ih =>
    obtain ⟨d, has', based'⟩ := has.perform based (typed deed List.mem_cons_self)
    exact ih has' based' fun other member => typed other (List.mem_cons_of_mem _ member)

theorem Has.lists (has : w.Has id (.changes c)) (based : c.Over base) : w.Lists id c.current.quads := by
  intro r of node_proper p p_proper
  have existing := Resource.existing_eq based.isProper node_proper p_proper
  have stored : w.graph r.changes = .ok (.changes c) := of.changes_eq ▸ has.graph_eq
  have proper : ∀ q ∈ c.current.quads.filter (Resource.about r.node p), q.isProper = true :=
    fun q member => based.isProper q (List.mem_of_mem_filter member)
  refine ⟨?_, ?_, ?_⟩
  · rw [Handle.getAll, stored]
    simp only [bind, Except.bind, Resource.getAll, existing]
    exact Resource.mapM_valueOf proper
  · rw [Handle.get?, stored]
    simp only [bind, Except.bind, Resource.get?, existing]
    cases found : c.current.quads.filter (Resource.about r.node p) with
    | nil => rfl
    | cons q rest =>
      have object := (Quad.isProper_iff.1 (proper q (found ▸ List.mem_cons_self))).2.2.1
      simp only [Resource.valueOf_eq object]
      rfl
  · rw [Handle.has, stored]
    simp only [bind, Except.bind, Resource.has, existing, List.isEmpty_map]
    rfl

end Workspace

namespace Handle

open Workspace Resource

variable {w : Workspace} {id : Nat} {c d : ChangeSet} {base : SetGraph} {r : Handle} {p : Term}
  {values : List Value}

section

variable (has : w.Has id (.changes c)) (based : c.Over base) (of : r.Of id)
  (node_proper : r.node.isProper = true) (p_proper : p.isProper = true)
include has based of node_proper p_proper

theorem setAll_spec (convertible : ∀ v ∈ values, isConvertible v = true) :
    ∃ w' d, r.setAll w p values = (w', .ok ()) ∧ w'.Has id (.changes d) ∧ d.Over base ∧
      ∀ q, q ∈ d.current.quads ↔ (q ∈ c.current.quads ∧ ¬ (q.subject = r.node ∧ q.predicate = p)) ∨
        ∃ v ∈ values, ∃ t, termOf v = .ok t ∧ q = ⟨r.node, p, t, base.name⟩ := by
  obtain ⟨edits, d, planned, ran, based', members⟩ := run_replacement based node_proper p_proper convertible
  obtain ⟨w', made, has'⟩ := has.edit (fun g => replacement g r.node p values) planned
  rw [ran] at made has'
  refine ⟨w', d, ?_, has', based', members⟩
  rw [Handle.setAll, of.changes_eq, made]
  rfl

theorem delete_spec : ∃ w' d, r.delete w p = (w', .ok ()) ∧ w'.Has id (.changes d) ∧ d.Over base ∧
    ∀ q, q ∈ d.current.quads ↔ q ∈ c.current.quads ∧ ¬ (q.subject = r.node ∧ q.predicate = p) := by
  obtain ⟨edits, d, planned, ran, based', members⟩ := run_deletion based node_proper p_proper
  obtain ⟨w', made, has'⟩ := has.edit (fun g => deletion g r.node (some p)) planned
  rw [ran] at made has'
  refine ⟨w', d, ?_, has', based', members⟩
  rw [Handle.delete, of.changes_eq, made]
  rfl

end

/-- What is said about a property once it is set: its objects are the terms of the values, each once. -/
theorem objects_of_replaced {node graph : Term} {kept : Quad → Prop}
    (members : ∀ q, q ∈ d.current.quads ↔ (kept q ∧ ¬ (q.subject = node ∧ q.predicate = p)) ∨
      ∃ v ∈ values, ∃ t, termOf v = .ok t ∧ q = ⟨node, p, t, graph⟩) :
    ((d.current.quads.filter (about node p)).map (·.object)).Nodup ∧
      ∀ t, t ∈ (d.current.quads.filter (about node p)).map (·.object) ↔ ∃ v ∈ values, termOf v = .ok t := by
  have said : ∀ q, q ∈ d.current.quads.filter (about node p) ↔
      ∃ v ∈ values, ∃ t, termOf v = .ok t ∧ q = ⟨node, p, t, graph⟩ := by
    intro q
    rw [List.mem_filter, members, about_iff]
    constructor
    · rintro ⟨⟨-, other⟩ | new, same⟩
      · exact absurd same other
      · exact new
    · intro new
      refine ⟨.inr new, ?_⟩
      obtain ⟨v, -, t, -, rfl⟩ := new
      exact ⟨rfl, rfl⟩
  constructor
  · apply List.Nodup.map_on _ (d.current.nodup.filter _)
    intro q member r member' alike
    obtain ⟨-, -, t, -, rfl⟩ := (said q).1 member
    obtain ⟨-, -, u, -, rfl⟩ := (said r).1 member'
    rw [show t = u from alike]
  · intro t
    rw [List.mem_map]
    constructor
    · rintro ⟨q, among, rfl⟩
      obtain ⟨v, member, t, is_term, rfl⟩ := (said q).1 among
      exact ⟨v, member, is_term⟩
    · rintro ⟨v, member, is_term⟩
      exact ⟨⟨node, p, t, graph⟩, (said _).2 ⟨v, member, t, is_term, rfl⟩, rfl⟩

theorem changes_eq (has : w.Has id (.changes c)) : w.changes id = .ok c := by
  rw [Workspace.changes, has.graph_eq]

/-- A change set over a set that was built by adding quads, whatever was done to it: to set a property leaves
what is said about anything else, and puts one statement for each term of the values, in the graph of the
change set, in the place of all that was said about the property in whatever graph; to delete it leaves the
rest. Every resource of the change set then reads what it holds, and so the values that were set. -/
theorem writes_exact {name : Term} {batches : List (List Quad)} {deeds : List Deed} {under : Nat}
    (named : name.isGraphName = true) (proper : ∀ quads ∈ batches, ∀ q ∈ quads, q.isProper = true)
    (stored : w.graph under = .ok (.set (.built name batches)))
    (typed : ∀ deed ∈ deeds, deed.isTyped = true) :
    ∃ w₁ id w₂ c, w.changesOver (some under) = .ok (w₁, id) ∧ w₁.performAll id deeds = w₂ ∧
      w₂.changes id = .ok c ∧ w₂.Lists id c.current.quads ∧
      ∀ (r : Handle) (p : Term), r.Of id → r.node.isProper = true → p.isProper = true →
        (∀ values : List Value, (∀ v ∈ values, isConvertible v = true) →
          ∃ w₃ d, ∃ ts : List Term, r.setAll w₂ p values = (w₃, .ok ()) ∧ w₃.changes id = .ok d ∧
            (∀ q, q ∈ d.current.quads ↔
              (q ∈ c.current.quads ∧ ¬ (q.subject = r.node ∧ q.predicate = p)) ∨
                ∃ v ∈ values, ∃ t, termOf v = .ok t ∧ q = ⟨r.node, p, t, name⟩) ∧
            w₃.Lists id d.current.quads ∧ ts.Nodup ∧ (∀ t, t ∈ ts ↔ ∃ v ∈ values, termOf v = .ok t) ∧
            (∀ t ∈ ts, t.isIri = true → decoded t = .handle t ∧ equals t (.term t) = true) ∧
            ∀ s : Handle, s.Of id → s.node = r.node → s.Reads w₃ p (ts.map decoded)) ∧
        ∃ w₃ d, r.delete w₂ p = (w₃, .ok ()) ∧ w₃.changes id = .ok d ∧
          (∀ q, q ∈ d.current.quads ↔
            q ∈ c.current.quads ∧ ¬ (q.subject = r.node ∧ q.predicate = p)) ∧
          w₃.Lists id d.current.quads ∧ ∀ s : Handle, s.Of id → s.node = r.node → s.Reads w₃ p [] := by
  have built := SetGraph.settled_built named proper
  have has : w.Has under (.set (.built name batches)) := has_of_graph_eq stored (by simp)
  obtain ⟨w₁, id, opened, revises⟩ := revises_changesOver has (built.here.symm ▸ built)
  obtain ⟨c, has', based⟩ := revises.has.performAll revises.based typed
  refine ⟨w₁, id, _, c, opened, rfl, changes_eq has', has'.lists based, ?_⟩
  intro r p of node_proper p_proper
  constructor
  · intro values convertible
    obtain ⟨w₃, d, set, has'', based', members⟩ := setAll_spec has' based of node_proper p_proper convertible
    rw [built.here] at members
    have lists := has''.lists based'
    obtain ⟨nodup, objects⟩ := objects_of_replaced members
    refine ⟨w₃, d, _, set, changes_eq has'', members, lists, nodup, objects, ?_, ?_⟩
    · intro t among named_node
      obtain ⟨v, member, is_term⟩ := (objects t).1 among
      have t_proper := convertible v member
      rw [isConvertible, is_term] at t_proper
      exact equals_decoded t_proper named_node
    intro s of_same same
    have reads := lists s of_same (same ▸ node_proper) p p_proper
    rw [same] at reads
    rwa [List.map_map]
  · obtain ⟨w₃, d, deleted, has'', based', members⟩ := delete_spec has' based of node_proper p_proper
    have lists := has''.lists based'
    refine ⟨w₃, d, deleted, changes_eq has'', members, lists, ?_⟩
    intro s of_same same
    have none : d.current.quads.filter (about r.node p) = [] := by
      rw [List.filter_eq_nil_iff]
      intro q held q_about
      exact ((members q).1 held).2 (about_iff.1 q_about)
    have reads := lists s of_same (same ▸ node_proper) p p_proper
    rw [same, none] at reads
    exact reads

def knows : Term := .iri "knows"

def nick : Term := .iri "nick"

def twoNodes : Workspace where
  entries := [.graph (.set (.built (.iri "g")
    [[⟨.iri "a", knows, .iri "b", .defaultGraph⟩], [⟨.iri "b", nick, .iri "n", .iri "h"⟩]]))]

def someDeeds : List Deed :=
  [.set (.iri "b") knows [.text "c"], .delete (.iri "b") knows,
    .write (.add [⟨.iri "b", nick, .iri "n", .defaultGraph⟩])]

theorem nicks_of_friend :
    ∃ w₁ w₃ d, ∃ ts : List Term, twoNodes.changesOver (some 0) = .ok (w₁, 1) ∧
      get? ⟨1, .iri "a"⟩ (w₁.performAll 1 someDeeds) knows = .ok (some (.handle (.iri "b"))) ∧
      setAll ⟨1, .iri "b"⟩ (w₁.performAll 1 someDeeds) nick [.bool true, .handle (.iri "a"), .bool true] =
        (w₃, .ok ()) ∧
      w₃.changes 1 = .ok d ∧
      (∀ q, q ∈ d.current.quads ↔ q = ⟨.iri "a", knows, .iri "b", .iri "g"⟩ ∨
        q = ⟨.iri "b", nick, Term.typed "true" Vocabulary.xsdBoolean, .iri "g"⟩ ∨
        q = ⟨.iri "b", nick, .iri "a", .iri "g"⟩) ∧
      ts.Perm [Term.typed "true" Vocabulary.xsdBoolean, .iri "a"] ∧
      Reads ⟨1, .iri "b"⟩ w₃ nick (ts.map decoded) := by
  let batches : List (List Quad) :=
    [[⟨.iri "a", knows, .iri "b", .defaultGraph⟩], [⟨.iri "b", nick, .iri "n", .iri "h"⟩]]
  let values : List Value := [.bool true, .handle (.iri "a"), .bool true]
  let before : List Quad := [⟨.iri "a", knows, .iri "b", .iri "g"⟩, ⟨.iri "b", nick, .iri "n", .iri "h"⟩,
    ⟨.iri "b", nick, .iri "n", .iri "g"⟩]
  have named : (Term.iri "g").isGraphName = true := rfl
  have proper : ∀ quads ∈ batches, ∀ q ∈ quads, q.isProper = true := by decide
  have stored : twoNodes.graph 0 = .ok (.set (.built (.iri "g") batches)) := rfl
  have typed : ∀ deed ∈ someDeeds, deed.isTyped = true := by decide
  have convertible : ∀ v ∈ values, isConvertible v = true := by decide
  obtain ⟨w₁, id, w₂, c, opened, done, changes, -, each⟩ := writes_exact named proper stored typed
  obtain rfl : 1 = id := congrArg Prod.snd (Except.ok.inj opened)
  obtain ⟨found, held⟩ : get? ⟨1, .iri "a"⟩ w₂ knows = .ok (some (.handle (.iri "b"))) ∧
      (w₂.changes 1).toOption.map (fun c => c.current.quads) = some before := by
    obtain rfl := congrArg Prod.fst (Except.ok.inj opened)
    rw [← done]
    exact ⟨rfl, rfl⟩
  rw [changes] at held
  have now : c.current.quads = before := Option.some.inj held
  have friend : Of 1 ⟨1, .iri "b"⟩ := .got (.made (.iri "a")) found rfl
  obtain ⟨setting, -⟩ := each ⟨1, .iri "b"⟩ nick friend rfl rfl
  obtain ⟨w₃, d, ts, set, changes', members, -, nodup, objects, -, reads⟩ := setting values convertible
  have terms : ∀ t, (∃ v ∈ values, termOf v = .ok t) ↔
      t = Term.typed "true" Vocabulary.xsdBoolean ∨ t = .iri "a" := by
    intro t
    constructor
    · intro ⟨v, member, is_term⟩
      simp only [values, List.mem_cons, List.not_mem_nil, or_false] at member
      rcases member with rfl | rfl | rfl
      · exact .inl (Except.ok.inj is_term).symm
      · exact .inr (Except.ok.inj is_term).symm
      · exact .inl (Except.ok.inj is_term).symm
    · rintro (rfl | rfl)
      · exact ⟨.bool true, by simp [values], rfl⟩
      · exact ⟨.handle (.iri "a"), by simp [values], rfl⟩
  refine ⟨w₁, w₃, d, ts, opened, done ▸ found, done ▸ set, changes', ?_, ?_, reads _ (.made _) rfl⟩
  · intro q
    have stated : (∃ v ∈ values, ∃ t, termOf v = .ok t ∧ q = ⟨.iri "b", nick, t, .iri "g"⟩) ↔
        q = ⟨.iri "b", nick, Term.typed "true" Vocabulary.xsdBoolean, .iri "g"⟩ ∨
          q = ⟨.iri "b", nick, .iri "a", .iri "g"⟩ := by
      constructor
      · rintro ⟨v, member, t, is_term, rfl⟩
        rcases (terms t).1 ⟨v, member, is_term⟩ with rfl | rfl
        · exact .inl rfl
        · exact .inr rfl
      · rintro (rfl | rfl)
        · exact ⟨.bool true, by simp [values], _, rfl, rfl⟩
        · exact ⟨.handle (.iri "a"), by simp [values], _, rfl, rfl⟩
    have kept : (q ∈ c.current.quads ∧ ¬ (q.subject = .iri "b" ∧ q.predicate = nick)) ↔
        q = ⟨.iri "a", knows, .iri "b", .iri "g"⟩ := by
      rw [now]
      constructor
      · rintro ⟨member, other⟩
        simp only [before, List.mem_cons, List.not_mem_nil, or_false] at member
        rcases member with same | rfl | rfl
        · exact same
        · exact absurd ⟨rfl, rfl⟩ other
        · exact absurd ⟨rfl, rfl⟩ other
      · rintro rfl
        decide
    rw [members, stated, kept]
  · apply (List.perm_ext_iff_of_nodup nodup (by decide)).2
    intro t
    rw [objects, terms]
    simp

end Handle

end QuadPull
