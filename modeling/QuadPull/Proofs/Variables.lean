import QuadPull.Proofs.Rejection
/-!
Variables in graphs of rows. A dictionary takes in no variable, so none stands in a position of a stored quad,
whatever was done to the graph. Nothing looks inside the triples that terms quote: a variable there is stored
with its quad, and only a quad that was handed in with one there brings one in.
-/

namespace QuadPull

def Term.isOpen : Term → Bool
  | .var _ => true
  | .quoted s p o g => s.isOpen || p.isOpen || o.isOpen || g.isOpen
  | _ => false

/-- No position of a quad quotes a triple with a variable; a position may be one. -/
def Quad.quotesClosed (q : Quad) : Bool := q.terms.all fun t => t.isVar || !t.isOpen

variable {p : Term → Prop}

namespace TermDictionary

variable {d : TermDictionary} {t : Term}

def All (p : Term → Prop) (d : TermDictionary) : Prop := ∀ e ∈ d.terms, p e.2

theorem all_intern (all : d.All p) (fits : t.isVar = false → p t) : (d.intern t).2.All p := by
  rcases intern_cases d t with ⟨e, result, -⟩ | ⟨n, -, result⟩ | ⟨k, -, kind, -, result⟩ <;> rw [result]
  · exact all
  · exact all
  · intro e member
    rcases Keyed.mem_put member with new | old
    · have constant : t.isVar = false := by
        cases t with
        | var name => cases kind
        | _ => rfl
      exact new ▸ fits constant
    · exact all e old

theorem all_term? (all : d.All p) {n : TermId} (held : d.term? n = some t) (reserved : p .defaultGraph) :
    p t := by
  unfold term? at held
  split at held
  · exact Option.some.inj held ▸ reserved
  · obtain ⟨c, member, -⟩ := Keyed.mem_of_get?_eq_some held
    exact all _ member

end TermDictionary

namespace Columnar

variable {α β : Type} {g : Columnar} {name : Term} {q : Quad} {quads : List Quad}

/-- What is taken in leaves every term of a sort, whether it goes well or not. -/
def Intake.Keeps (p : Term → Prop) (x : Intake α) : Prop := ∀ d : TermDictionary, d.All p → (x d).2.All p

theorem Intake.Keeps.bind {x : Intake α} {f : α → Intake β} (first : x.Keeps p) (later : ∀ a, (f a).Keeps p) :
    Intake.Keeps p (x >>= f) := by
  intro d all
  have kept := first d all
  cases taken : x d with
  | mk outcome d' =>
    rw [taken] at kept
    cases outcome with
    | ok a =>
      rw [intake_bind taken]
      exact later a d' kept
    | error e =>
      rw [intake_bind_error taken]
      exact kept

theorem keeps_take {t : Term} (fits : t.isVar = false → p t) : (take t).Keeps p :=
  fun _ all => TermDictionary.all_intern all fits

theorem keeps_pure (a : α) : Intake.Keeps p (pure a) := fun _ all => all

theorem keeps_encode (fits : ∀ t ∈ (q.homed name).terms, t.isVar = false → p t) :
    (encode name q).Keeps p := by
  simp only [Quad.terms, List.forall_mem_cons] at fits
  obtain ⟨subject, predicate, object, graph, -⟩ := fits
  rw [encode]
  split
  · exact fun _ all => all
  · exact (keeps_take graph).bind fun _ => (keeps_take subject).bind fun _ =>
      (keeps_take predicate).bind fun _ => (keeps_take object).bind fun _ => keeps_pure _

theorem keeps_encodeAll (fits : ∀ q ∈ quads, ∀ t ∈ (q.homed name).terms, t.isVar = false → p t) :
    (encodeAll name quads).Keeps p := by
  induction quads with
  | nil => exact keeps_pure []
  | cons q rest ih =>
    obtain ⟨first, others⟩ := List.forall_mem_cons.1 fits
    rw [encodeAll, List.mapM_cons]
    exact (keeps_encode first).bind fun _ => (ih others).bind fun _ => keeps_pure _

def handed : Edit → List Quad
  | .add quads | .breakOff quads _ => quads
  | .remove _ => []

def Call.handed : Call → List Quad
  | .edit e => Columnar.handed e
  | _ => []

section

variable (names : ∀ t : Term, t.isGraphName = true → p t)
include names

theorem fits_homed (named : name.isGraphName = true) (fits : ∀ t ∈ q.terms, t.isVar = false → p t) :
    ∀ t ∈ (q.homed name).terms, t.isVar = false → p t := by
  unfold Quad.homed
  split
  · simp only [Quad.terms, List.forall_mem_cons] at fits ⊢
    exact ⟨fits.1, fits.2.1, fits.2.2.1, fun _ => names _ named, List.forall_mem_nil _⟩
  · exact fits

theorem all_apply (named : g.name.isGraphName = true) (all : g.terms.All p) {e : Edit}
    (fits : ∀ q ∈ handed e, ∀ t ∈ q.terms, t.isVar = false → p t) : (g.apply e).1.terms.All p := by
  rw [terms_apply]
  cases e with
  | remove quads => exact all
  | add quads | breakOff quads _ =>
    exact keeps_encodeAll (fun q member => fits_homed names named (fits q member)) _ all

theorem all_ask (named : g.name.isGraphName = true) (all : g.terms.All p) {c : Call}
    (fits : ∀ q ∈ c.handed, ∀ t ∈ q.terms, t.isVar = false → p t) : (g.ask c).1.terms.All p := by
  cases c with
  | edit e => exact all_apply names named all fits
  | _ => exact all

theorem all_askAll (named : g.name.isGraphName = true) (all : g.terms.All p) {calls : List Call}
    (typed : ∀ c ∈ calls, c.isTyped = true)
    (fits : ∀ c ∈ calls, ∀ q ∈ c.handed, ∀ t ∈ q.terms, t.isVar = false → p t) :
    (g.askAll calls).1.terms.All p := by
  induction calls generalizing g with
  | nil => exact all
  | cons c rest ih =>
    obtain ⟨here, others⟩ := List.forall_mem_cons.1 typed
    obtain ⟨first, later⟩ := List.forall_mem_cons.1 fits
    have still_named : (g.ask c).1.name.isGraphName = true := by
      cases c with
      | edit e => rwa [ask, named_apply]
      | rename name => exact here
      | _ => exact named
    exact ih still_named (all_ask names named all first) others later

theorem all_positions {first : Columnar} {calls : List Call} (named : name.isGraphName = true)
    (made : ofList name quads = .ok first) (typed : ∀ c ∈ calls, c.isTyped = true)
    (fits : ∀ q ∈ quads ++ calls.flatMap Call.handed, ∀ t ∈ q.terms, t.isVar = false → p t) :
    ∀ q ∈ (first.askAll calls).1.quads, ∀ t ∈ q.terms, p t := by
  obtain ⟨at_first, at_calls⟩ := List.forall_mem_append.1 fits
  have added : ({ name } : Columnar).apply (.add quads) = (first, .ok ()) := Graph.apply_of_obeyed made
  have started : first.terms.All p := by
    have none : ({ name } : Columnar).terms.All p := fun _ member => nomatch member
    have grown := all_apply names (g := { name }) named none (e := .add quads) at_first
    rwa [added] at grown
  have called : first.name.isGraphName = true := by
    have kept := named_apply { name } (.add quads)
    rw [added] at kept
    exact kept.symm ▸ named
  have ended := all_askAll names called started typed fun c member q inside =>
    at_calls q (List.mem_flatMap.2 ⟨c, member, inside⟩)
  have told : ∀ n : TermId, p ((first.askAll calls).1.termOf n) := by
    intro n
    unfold termOf
    cases held : (first.askAll calls).1.terms.term? n with
    | none => exact names _ rfl
    | some t => exact TermDictionary.all_term? ended held (names _ rfl)
  intro q member t position
  obtain ⟨r, -, rfl⟩ := List.mem_map.1 member
  simp only [decode, Quad.terms, List.mem_cons, List.not_mem_nil, or_false] at position
  rcases position with rfl | rfl | rfl | rfl <;> exact told _

end

/-- However a graph of rows has come about: no stored quad has a variable in a position, and none has one at
any depth unless a quad was handed in with one inside a quoted triple. Quads with a variable in a position are
refused together with those beside them; all others are stored, with the variables inside their triples. -/
theorem variables_stored {calls : List Call} {first : Columnar} (named : name.isGraphName = true)
    (proper : ∀ q ∈ quads, q.isProper = true) (made : ofList name quads = .ok first)
    (typed : ∀ c ∈ calls, c.isTyped = true) (reached : (first.askAll calls).1 = g) :
    (∀ q ∈ g.quads, ∀ t ∈ q.terms, t.isVar = false) ∧
      ((∀ q ∈ quads ++ calls.flatMap Call.handed, q.quotesClosed = true) →
        ∀ q ∈ g.quads, ∀ t ∈ q.terms, t.isOpen = false) ∧
      ∀ batch : List Quad, (∀ q ∈ batch, q.isProper = true) →
        ((∃ q ∈ batch, ∃ t ∈ q.terms, t.isVar = true) → ∃ h v, firstVariable? batch = some v ∧
          g.add batch = (h, .error (.storedVariable v)) ∧ h.rows = g.rows) ∧
        ((∀ q ∈ batch, ∀ t ∈ q.terms, t.isVar = false) → ∃ h, g.add batch = (h, .ok ()) ∧
          ((Graph.columnar h).HasRoom → ∀ q ∈ batch, q.homed g.name ∈ h.quads)) := by
  obtain ⟨l, tracks⟩ := tracks_ofList named proper made
  obtain ⟨tracked, -⟩ := tracks.askAll typed
  subst reached
  refine ⟨?_, fun closed => ?_, fun batch batch_proper => ⟨fun has => ?_, fun constant => ?_⟩⟩
  · have names : ∀ t : Term, t.isGraphName = true → t.isVar = false := fun t graph_name =>
      (Term.isProper_of_isGraphName graph_name).2
    exact all_positions names named made typed fun _ _ _ _ constant => constant
  · have names : ∀ t : Term, t.isGraphName = true → t.isOpen = false := by
      intro t graph_name
      cases t <;> first | rfl | cases graph_name
    refine all_positions names named made typed fun q handed_in t position constant => ?_
    have either := List.all_eq_true.1 (closed q handed_in) t position
    rw [constant, Bool.false_or, Bool.not_eq_true'] at either
    exact either
  · obtain ⟨v, found⟩ := exists_firstVariable? has
    obtain ⟨h, refused, -⟩ := tracked.rejected batch_proper found
    refine ⟨h, v, found, refused, ?_⟩
    change Columnar.add _ batch = _ at refused
    unfold Columnar.add at refused
    split at refused <;> cases refused
    rfl
  · have storable : ∀ q ∈ batch, q.isStorable = true := by
      intro q member
      rw [Quad.isStorable, Bool.and_eq_true, List.all_eq_true]
      refine ⟨batch_proper q member, fun t position => ?_⟩
      rw [constant q member t position]
      rfl
    obtain ⟨h, obeyed, shown⟩ := tracked.add storable
    refine ⟨h, Graph.apply_of_obeyed obeyed, fun room q member => ?_⟩
    have decoded : h.quads = (Listing.obey _ (.add batch)).quads :=
      map_decode shown.readable room (shown.spelled room)
    rw [decoded, tracked.name]
    exact Distinct.holds_id.1 (Distinct.holds_pushAll.2 (.inr (Distinct.holds_id.2
      (List.mem_map.2 ⟨q, member, rfl⟩))))

def rumour : Quad := ⟨.iri "s", .iri "p", .quoted (.var "x") (.iri "p") (.iri "o") .defaultGraph, .defaultGraph⟩

theorem rumour_is_stored : ∃ first h, ofList (.iri "g") [] = .ok first ∧
    (first.askAll [.edit (.add lateVariable), .clear]).1.add [rumour] = (h, .ok ()) ∧
    rumour.homed (.iri "g") ∈ h.quads ∧ (rumour.homed (.iri "g")).object.isOpen = true := by
  have named : (Term.iri "g").isGraphName = true := rfl
  have typed : ∀ c ∈ [Call.edit (.add lateVariable), .clear], c.isTyped = true := by decide
  obtain ⟨first, made, called, few⟩ : ∃ first, ofList (.iri "g") [] = .ok first ∧
      (first.askAll [.edit (.add lateVariable), .clear]).1.name = .iri "g" ∧
      ((first.askAll [.edit (.add lateVariable), .clear]).1.add [rumour]).1.terms.ids.length ≤ 9 :=
    ⟨_, rfl, by decide +kernel, by decide +kernel⟩
  obtain ⟨-, -, onward⟩ := variables_stored named (by simp) made typed rfl
  obtain ⟨-, stored⟩ := onward [rumour] (by decide)
  obtain ⟨h, added, there⟩ := stored (by decide)
  rw [added] at few
  have room : (Graph.columnar h).HasRoom := fun k =>
    Nat.lt_of_le_of_lt (Nat.le_trans List.countP_le_length few) (by decide)
  have member := there room rumour List.mem_cons_self
  rw [called] at member
  exact ⟨first, h, made, added, member, by decide⟩

end Columnar

end QuadPull
