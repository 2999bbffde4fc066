import QuadPull.Proofs.Census
import QuadPull.Proofs.Replay
/-!
The terms of the quads before the one at fault stay in the dictionary, and later terms get other
identifiers than they would have had; but rows still spell the same list of quads, and nothing that can be
asked depends on more than that.
-/

namespace QuadPull

def firstVariable? (quads : List Quad) : Option String := quads.findSome? Columnar.firstVar?

def Edit.isProper : Edit → Bool
  | .add quads | .remove quads | .breakOff quads _ => quads.all Quad.isProper

def Listing.edit (l : Listing) : Edit → Listing × Except Error Unit
  | .add quads =>
    match firstVariable? quads with
    | some v => (l, .error (.storedVariable v))
    | none => (l.obey (.add quads), .ok ())
  | .remove quads => (l.obey (.remove quads), .ok ())
  | .breakOff quads fault => (l, .error ((firstVariable? quads).elim fault .storedVariable))

namespace Columnar

inductive Call where
  | edit (e : Edit)
  | clear
  | rename (name : Term)
  | quads
  | find (p : Pattern)
  | contains (v : Value)
  | size
  | subjects
  | statistics

inductive Reply where
  | done (outcome : Except Error Unit)
  | quads (found : Except Error (List Quad))
  | held (answer : Except Error Bool)
  | size (answer : Except Error Nat)
  | terms (found : Except Error (List Term))
  | statistics (counts : Statistics)

def Call.isTyped : Call → Bool
  | .edit e => e.isProper
  | .rename name => name.isGraphName
  | .find p => p.bound.all Term.isProper
  | .contains (.term t) => t.isProper
  | _ => true

def ask (g : Columnar) : Call → Columnar × Reply
  | .edit e => ((g.apply e).1, .done (g.apply e).2)
  | .clear => (g.clear, .done (.ok ()))
  | .rename name => ({ g with name }, .done (.ok ()))
  | .quads => (g, .quads (Graph.columnar g).quads)
  | .find p => (g, .quads ((Graph.columnar g).find p))
  | .contains v => (g, .held ((Graph.columnar g).contains v))
  | .size => (g, .size (Graph.columnar g).size)
  | .subjects => (g, .terms (Graph.columnar g).subjects)
  | .statistics => (g, .statistics g.statistics)

def askAll (g : Columnar) : List Call → Columnar × List Reply
  | [] => (g, [])
  | c :: rest =>
    let (g, reply) := g.ask c
    let (g, replies) := g.askAll rest
    (g, reply :: replies)

end Columnar

namespace Listing

open Columnar (Call Reply)

def contains (l : Listing) : Value → Bool
  | .term t => t.quad?.any fun q => q ∈ l.quads
  | _ => false

def ask (l : Listing) : Call → Listing × Reply
  | .edit e => ((l.edit e).1, .done (l.edit e).2)
  | .clear => (l.obey .clear, .done (.ok ()))
  | .rename name => (l.obey (.rename name), .done (.ok ()))
  | .quads => (l, .quads (.ok l.quads))
  | .find p => (l, .quads (.ok (l.quads.filter p.matchesQuad)))
  | .contains v => (l, .held (.ok (l.contains v)))
  | .size => (l, .size (.ok l.quads.length))
  | .subjects => (l, .terms (.ok (subjectsOf l.quads)))
  | .statistics => (l, .statistics (.ofQuads l.quads))

def askAll (l : Listing) : List Call → Listing × List Reply
  | [] => (l, [])
  | c :: rest =>
    let (l, reply) := l.ask c
    let (l, replies) := l.askAll rest
    (l, reply :: replies)

end Listing

namespace Columnar

open TermDictionary

variable {g h : Columnar} {l : Listing} {d d' : TermDictionary} {name : Term} {q : Quad}
  {quads : List Quad}

theorem firstVar?_homed (named : name.isGraphName = true) (q : Quad) :
    firstVar? (q.homed name) = firstVar? q := by
  obtain ⟨subject, predicate, object, graph⟩ := q
  by_cases loose : graph = .defaultGraph
  · subst loose
    cases name with
    | iri value => simp [Quad.homed, firstVar?, Quad.terms, List.findSome?_cons]
    | defaultGraph => rfl
    | _ => cases named
  · rw [Quad.homed, if_neg loose]

theorem isStorable_of_firstVar? (proper : q.isProper = true) (constant : firstVar? q = none) :
    q.isStorable = true := by
  rw [Quad.isStorable, Bool.and_eq_true, List.all_eq_true]
  refine ⟨proper, ?_⟩
  intro t member
  have none := List.findSome?_eq_none_iff.1 constant t member
  cases t with
  | var name => cases none
  | _ => rfl

theorem exists_firstVar? (has : ∃ t ∈ q.terms, t.isVar = true) : ∃ v, firstVar? q = some v := by
  obtain ⟨t, member, isVar⟩ := has
  cases found : firstVar? q with
  | some v => exact ⟨v, rfl⟩
  | none =>
    have none := List.findSome?_eq_none_iff.1 found t member
    cases t with
    | var name => cases none
    | _ => cases isVar

theorem exists_firstVariable? (has : ∃ q ∈ quads, ∃ t ∈ q.terms, t.isVar = true) :
    ∃ v, firstVariable? quads = some v := by
  obtain ⟨q, member, isVar⟩ := has
  obtain ⟨v, found⟩ := exists_firstVar? isVar
  cases first : firstVariable? quads with
  | some v => exact ⟨v, rfl⟩
  | none =>
    have none := List.findSome?_eq_none_iff.1 first q member
    rw [found] at none
    cases none

theorem storable_of_firstVariable? (proper : ∀ q ∈ quads, q.isProper = true)
    (constant : firstVariable? quads = none) : ∀ q ∈ quads, q.isStorable = true := fun q member =>
  isStorable_of_firstVar? (proper q member) (List.findSome?_eq_none_iff.1 constant q member)

theorem encode_of_var {v : String} (found : firstVar? (q.homed name) = some v) :
    encode name q d = (.error (.storedVariable v), d) := by
  rw [encode]
  simp only [found]
  rfl

theorem intake_bind_error {α β : Type} {x : Intake α} {f : α → Intake β} {e : Error}
    (failed : x d = (.error e, d')) : (x >>= f) d = (.error e, d') := by
  change (StateT.bind x (ExceptT.bindCont f)) d = (.error e, d')
  simp only [StateT.bind, failed]
  rfl

/-- The terms of the quads before the first with a variable are taken in all the same. -/
theorem encodeAll_refused (named : name.isGraphName = true) (readable : d.Readable)
    (proper : ∀ q ∈ quads, q.isProper = true) {v : String} (found : firstVariable? quads = some v) :
    ∃ d', encodeAll name quads d = (.error (.storedVariable v), d') ∧ d'.Readable ∧
      d.ids <+: d'.ids := by
  induction quads generalizing d with
  | nil => cases found
  | cons q rest ih =>
    rw [encodeAll, List.mapM_cons]
    cases here : firstVar? q with
    | some u =>
      obtain rfl : u = v := by simpa [firstVariable?, List.findSome?_cons, here] using found
      have refused := encode_of_var (d := d) ((firstVar?_homed named q).trans here)
      exact ⟨d, intake_bind_error refused, readable, List.prefix_refl _⟩
    | none =>
      have storable := Quad.isStorable_homed named
        (isStorable_of_firstVar? (proper q List.mem_cons_self) here)
      have later : firstVariable? rest = some v := by
        simpa [firstVariable?, List.findSome?_cons, here] using found
      obtain ⟨r, d₁, first, readable₁, grown₁, -⟩ := encode_spec readable storable
      obtain ⟨d₂, refused, readable₂, grown₂⟩ :=
        ih readable₁ (fun r member => proper r (List.mem_cons_of_mem _ member)) later
      rw [intake_bind first]
      exact ⟨d₂, intake_bind_error refused, readable₂, grown₁.trans grown₂⟩

def takenIn (name : Term) (quads : List Quad) : List Term :=
  ((quads.takeWhile fun q => (firstVar? q).isNone).map (·.homed name)).flatMap Quad.terms

theorem knows_take {t u : Term} {n : TermId} (proper : t.isProper = true)
    (taken : take t d = (.ok n, d')) : (d'.id? u).isSome ↔ (d.id? u).isSome ∨ u = t := by
  have interned : d.intern t = (.ok n, d') := taken
  rcases intern_cases d t with ⟨e, failed, -⟩ | ⟨m, known, stays⟩ | ⟨k, -, kind, absent, grows⟩
  · rw [failed] at interned
    cases interned
  · rw [stays] at interned
    cases interned
    constructor
    · exact .inl
    · intro either
      rcases either with old | same
      · exact old
      · rw [same, known]
        rfl
  · rw [grows] at interned
    cases interned
    rw [id?_grow d absent]
    by_cases same : u = t
    · have other : t ≠ .defaultGraph := by
        intro reserved
        rw [reserved] at kind
        cases kind
      simp [same, other]
    · have apart : ¬ (t.settled = u.settled ∧ u ≠ .defaultGraph) := fun alike =>
        same (Term.eq_of_settled_eq proper alike.1.symm)
      simp [if_neg apart, same]

theorem knows_encode (readable : d.Readable) (storable : (q.homed name).isStorable = true) (u : Term) :
    ((encode name q d).2.id? u).isSome ↔ (d.id? u).isSome ∨ u ∈ (q.homed name).terms := by
  have constant := firstVar?_of_isStorable storable
  simp only [Quad.isStorable, Bool.and_eq_true, Quad.isProper_iff, Quad.terms, List.all_cons,
    List.all_nil, Bool.and_true, Bool.not_eq_true'] at storable
  obtain ⟨⟨ps, pp, po, pg⟩, cs, cp, co, cg⟩ := storable
  obtain ⟨graph, d₁, take_g, read₁, -, -⟩ := take_spec readable pg cg
  obtain ⟨subject, d₂, take_s, read₂, -, -⟩ := take_spec read₁ ps cs
  obtain ⟨predicate, d₃, take_p, read₃, -, -⟩ := take_spec read₂ pp cp
  obtain ⟨object, d₄, take_o, -, -, -⟩ := take_spec read₃ po co
  rw [encode]
  simp only [constant]
  rw [intake_bind take_g, intake_bind take_s, intake_bind take_p, intake_bind take_o]
  change (d₄.id? u).isSome ↔ _
  rw [knows_take po take_o, knows_take pp take_p, knows_take ps take_s, knows_take pg take_g]
  simp only [Quad.terms, List.mem_cons, List.not_mem_nil, or_false]
  tauto

theorem knows_encodeAll (named : name.isGraphName = true) (readable : d.Readable)
    (proper : ∀ q ∈ quads, q.isProper = true) (u : Term) :
    ((encodeAll name quads d).2.id? u).isSome ↔ (d.id? u).isSome ∨ u ∈ takenIn name quads := by
  induction quads generalizing d with
  | nil =>
    have same : (encodeAll name [] d).2 = d := rfl
    simp [same, takenIn]
  | cons q rest ih =>
    have proper_rest : ∀ r ∈ rest, r.isProper = true := fun r member =>
      proper r (List.mem_cons_of_mem _ member)
    rw [encodeAll, List.mapM_cons]
    cases here : firstVar? q with
    | some v =>
      have refused := encode_of_var (d := d) ((firstVar?_homed named q).trans here)
      simp [intake_bind_error refused, takenIn, here]
    | none =>
      have storable := Quad.isStorable_homed named
        (isStorable_of_firstVar? (proper q List.mem_cons_self) here)
      have knows := knows_encode readable storable u
      obtain ⟨r, d₁, first, readable₁, -, -⟩ := encode_spec readable storable
      rw [first] at knows
      have taken : takenIn name (q :: rest) = (q.homed name).terms ++ takenIn name rest := by
        simp [takenIn, here]
      -- What comes after the other quads only puts the rows together.
      have later : ((do let rows ← rest.mapM (encode name); return r :: rows : Intake (List Row)) d₁).2 =
          (encodeAll name rest d₁).2 := by
        rw [encodeAll]
        cases others : rest.mapM (encode name) d₁ with
        | mk outcome d₂ =>
          cases outcome with
          | ok rows => rw [intake_bind others]; rfl
          | error e => rw [intake_bind_error others]
      rw [intake_bind first, later, ih readable₁ proper_rest, knows, taken, List.mem_append, or_assoc]

theorem count_le_of_knows (readable : d.Readable)
    (within : ∀ t, (d.id? t).isSome → (d'.id? t).isSome) (k : TermKind) : d.count k ≤ d'.count k := by
  have nodup : (d.termsOf k).Nodup := by
    have each : ((d.ids.filter fun e => e.1.kind? = some k).map fun e => e.1.settled).Nodup :=
      readable.sound.each.sublist (List.filter_sublist.map _)
    apply List.Nodup.of_map Term.settled
    rw [termsOf, List.map_map]
    exact each
  rw [← length_termsOf, ← length_termsOf]
  apply (List.subperm_of_subset nodup _).length_le
  intro t member
  obtain ⟨e, among, rfl⟩ := List.mem_map.1 member
  obtain ⟨stored, kind⟩ := List.mem_filter.1 among
  have known : (d'.id? e.1).isSome :=
    within _ (Option.isSome_iff_exists.2 ⟨e.2, readable.sound.id?_of_mem stored rfl⟩)
  have other : e.1 ≠ .defaultGraph := by
    intro reserved
    rw [reserved] at kind
    cases kind
  rw [id?, if_neg other] at known
  obtain ⟨n, held⟩ := Option.isSome_iff_exists.1 known
  obtain ⟨u, found, same⟩ := Keyed.mem_of_get?_eq_some held
  obtain rfl : u = e.1 := Term.eq_of_settled_eq (readable.proper e stored) same
  exact List.mem_map.2 ⟨_, List.mem_filter.2 ⟨found, kind⟩, rfl⟩

theorem Tracks.grow (tracks : g.Tracks l) (readable : d.Readable) (grown : g.terms.ids <+: d.ids) :
    ({ g with terms := d } : Columnar).Tracks l where
  name := tracks.name
  named := tracks.named
  readable := readable
  spelled := by
    intro small
    have before : ∀ k, g.terms.count k < TermId.payloadSize := fun k =>
      Nat.lt_of_le_of_lt (TermDictionary.count_le_of_prefix grown k) (small k)
    exact (tracks.spelled before).imp fun _ _ spelled => spelled.of_prefix grown
  proper := tracks.proper
  each := tracks.each

theorem named_apply (g : Columnar) (e : Edit) : (g.apply e).1.name = g.name := by
  cases e with
  | add quads =>
    simp only [apply, Columnar.add]
    split <;> rfl
  | remove quads =>
    simp only [apply]
    split <;> rfl
  | breakOff quads fault =>
    simp only [apply]
    split <;> rfl

theorem terms_apply (g : Columnar) (e : Edit) : (g.apply e).1.terms =
    match e with
    | .add quads | .breakOff quads _ => (encodeAll g.name quads g.terms).2
    | .remove _ => g.terms := by
  cases e with
  | add quads =>
    simp only [apply, Columnar.add]
    split <;> rename_i encoded <;> rw [encoded]
  | remove quads =>
    simp only [apply]
    split <;> rfl
  | breakOff quads fault =>
    simp only [apply]
    split <;> rename_i encoded <;> rw [encoded]

def intake (name : Term) : Edit → List Term
  | .add quads | .breakOff quads _ => takenIn name quads
  | .remove _ => []

theorem Tracks.knows_edit (tracks : g.Tracks l) {e : Edit} (proper : e.isProper = true) (u : Term) :
    ((g.apply e).1.terms.id? u).isSome ↔ (g.terms.id? u).isSome ∨ u ∈ intake g.name e := by
  have named : g.name.isGraphName = true := tracks.name ▸ tracks.named
  rw [terms_apply]
  cases e with
  | remove quads => simp [intake]
  | add quads | breakOff quads _ =>
    exact knows_encodeAll named tracks.readable (List.all_eq_true.1 proper) u

theorem Tracks.edit (tracks : g.Tracks l) {e : Edit} (proper : e.isProper = true) :
    (g.apply e).1.Tracks (l.edit e).1 ∧ (g.apply e).2 = (l.edit e).2 := by
  have named : g.name.isGraphName = true := tracks.name ▸ tracks.named
  cases e with
  | add quads =>
    have quads_proper : ∀ q ∈ quads, q.isProper = true := List.all_eq_true.1 proper
    cases found : firstVariable? quads with
    | some v =>
      obtain ⟨d, refused, readable, grown⟩ := encodeAll_refused named tracks.readable quads_proper found
      simp only [apply, Columnar.add, refused, Listing.edit, found]
      exact ⟨tracks.grow readable grown, trivial⟩
    | none =>
      obtain ⟨h, obeyed, tracked⟩ := tracks.add (storable_of_firstVariable? quads_proper found)
      rw [Graph.apply_of_obeyed obeyed, Listing.edit]
      simp only [found]
      exact ⟨tracked, trivial⟩
  | remove quads =>
    obtain ⟨h, obeyed, tracked⟩ := tracks.remove (List.all_eq_true.1 proper)
    rw [Graph.apply_of_obeyed obeyed]
    exact ⟨tracked, rfl⟩
  | breakOff quads fault =>
    have quads_proper : ∀ q ∈ quads, q.isProper = true := List.all_eq_true.1 proper
    cases found : firstVariable? quads with
    | some v =>
      obtain ⟨d, refused, readable, grown⟩ := encodeAll_refused named tracks.readable quads_proper found
      simp only [apply, refused, Listing.edit, found]
      exact ⟨tracks.grow readable grown, rfl⟩
    | none =>
      have storable : ∀ q ∈ quads, (q.homed g.name).isStorable = true := fun q member =>
        Quad.isStorable_homed named (storable_of_firstVariable? quads_proper found q member)
      obtain ⟨rows, d, encoded, readable, grown, -⟩ := encodeAll_spec tracks.readable storable
      simp only [apply, encoded, Listing.edit, found]
      exact ⟨tracks.grow readable grown, rfl⟩

theorem Tracks.ask (tracks : g.Tracks l) {c : Call} (typed : c.isTyped = true) :
    (g.ask c).1.Tracks (l.ask c).1 ∧
      ((∀ k, g.terms.count k < TermId.payloadSize) → (g.ask c).2 = (l.ask c).2) := by
  cases c with
  | edit e =>
    obtain ⟨tracked, outcome⟩ := tracks.edit typed
    exact ⟨tracked, fun _ => congrArg Reply.done outcome⟩
  | clear =>
    obtain ⟨h, obeyed, tracked⟩ := tracks.obey (c := .clear) rfl
    cases obeyed
    exact ⟨tracked, fun _ => rfl⟩
  | rename name =>
    obtain ⟨h, obeyed, tracked⟩ := tracks.obey (c := .rename name) typed
    cases obeyed
    exact ⟨tracked, fun _ => rfl⟩
  | quads => exact ⟨tracks, fun small => congrArg Reply.quads (tracks.shows small).quads⟩
  | find p =>
    exact ⟨tracks, fun small => congrArg Reply.quads ((tracks.shows small).find p (List.all_eq_true.1 typed))⟩
  | contains v =>
    refine ⟨tracks, fun small => congrArg Reply.held ?_⟩
    cases v with
    | term t =>
      cases t with
      | quoted s p o n =>
        simp only [Call.isTyped, Term.isProper, Bool.and_eq_true] at typed
        have contains := (tracks.shows small).contains ⟨s, p, o, n⟩
          (Quad.isProper_iff.2 ⟨typed.1.1.1, typed.1.1.2, typed.1.2, typed.2⟩)
        rw [Quad.quote] at contains
        rw [contains]
        simp [Listing.contains, Term.quad?]
      | _ => rfl
    | _ => rfl
  | size => exact ⟨tracks, fun small => congrArg Reply.size (tracks.shows small).size⟩
  | subjects =>
    refine ⟨tracks, fun small => congrArg Reply.terms ?_⟩
    have decoded := map_decode tracks.readable small (tracks.spelled small)
    rw [← decoded]
    rfl
  | statistics => exact ⟨tracks, fun small => congrArg Reply.statistics (tracks.statistics small)⟩

def callIntake (name : Term) : Call → List Term
  | .edit e => intake name e
  | _ => []

theorem Tracks.knows_ask (tracks : g.Tracks l) {c : Call} (typed : c.isTyped = true) (u : Term) :
    ((g.ask c).1.terms.id? u).isSome ↔ (g.terms.id? u).isSome ∨ u ∈ callIntake g.name c := by
  cases c with
  | edit e => exact tracks.knows_edit typed u
  | _ => simp [Columnar.ask, callIntake, clear]

theorem Tracks.knows_askAll (tracks : g.Tracks l) {calls : List Call}
    (typed : ∀ c ∈ calls, c.isTyped = true) {u : Term} (known : (g.terms.id? u).isSome) :
    ((g.askAll calls).1.terms.id? u).isSome := by
  induction calls generalizing g l with
  | nil => exact known
  | cons c rest ih =>
    have here := typed c List.mem_cons_self
    exact ih (tracks.ask here).1 (fun d member => typed d (List.mem_cons_of_mem _ member))
      ((tracks.knows_ask here u).2 (.inl known))

theorem Tracks.askAll (tracks : g.Tracks l) {calls : List Call} (typed : ∀ c ∈ calls, c.isTyped = true) :
    (g.askAll calls).1.Tracks (l.askAll calls).1 ∧
      ((∀ k, (g.askAll calls).1.terms.count k < TermId.payloadSize) →
        (g.askAll calls).2 = (l.askAll calls).2) := by
  induction calls generalizing g l with
  | nil => exact ⟨tracks, fun _ => rfl⟩
  | cons c rest ih =>
    have typed_rest : ∀ d ∈ rest, d.isTyped = true := fun d member =>
      typed d (List.mem_cons_of_mem _ member)
    obtain ⟨tracked, reply⟩ := tracks.ask (typed c List.mem_cons_self)
    obtain ⟨last, replies⟩ := ih tracked typed_rest
    refine ⟨last, fun small => ?_⟩
    have before : ∀ k, g.terms.count k < TermId.payloadSize := by
      intro k
      have known := fun u => tracks.knows_askAll typed (u := u)
      exact Nat.lt_of_le_of_lt (count_le_of_knows tracks.readable known k) (small k)
    exact congrArg₂ List.cons (reply before) (replies small)

/-- Of two graphs of a name that are asked alike, the one that knew no more terms knows no more in the end. -/
theorem Tracks.knows_alike {m : Listing} (tracks : g.Tracks l) (tracks' : h.Tracks m)
    (names : g.name = h.name) {calls : List Call} (typed : ∀ c ∈ calls, c.isTyped = true)
    (within : ∀ u, (g.terms.id? u).isSome → (h.terms.id? u).isSome) (u : Term)
    (known : ((g.askAll calls).1.terms.id? u).isSome) : ((h.askAll calls).1.terms.id? u).isSome := by
  induction calls generalizing g h l m with
  | nil => exact within u known
  | cons c rest ih =>
    have here := typed c List.mem_cons_self
    refine ih (tracks.ask here).1 (tracks'.ask here).1 ?_
      (fun d member => typed d (List.mem_cons_of_mem _ member)) ?_ known
    · cases c <;> simp [Columnar.ask, named_apply, clear, names]
    · intro t told
      rw [tracks.knows_ask here, names] at told
      exact (tracks'.knows_ask here t).2 (told.imp_left (within t))

/-- Of quads with a variable among them none comes in, and from then on the graph answers as it would have
done without them. -/
theorem Tracks.rejected (tracks : g.Tracks l) {batch : List Quad} (proper : ∀ q ∈ batch, q.isProper = true)
    {v : String} (found : firstVariable? batch = some v) :
    ∃ h, g.apply (.add batch) = (h, .error (.storedVariable v)) ∧
      ∀ later : List Call, (∀ c ∈ later, c.isTyped = true) →
        (∀ k, (h.askAll later).1.terms.count k < TermId.payloadSize) →
          (h.askAll later).2 = (g.askAll later).2 := by
  have batch_proper : (Edit.add batch).isProper = true := List.all_eq_true.2 proper
  obtain ⟨tracked, outcome⟩ := tracks.edit batch_proper
  have known := fun u => (tracks.knows_edit batch_proper u).2
  have names : g.name = (g.apply (.add batch)).1.name := (named_apply g (.add batch)).symm
  simp only [Listing.edit, found] at tracked outcome
  refine ⟨(g.apply (.add batch)).1, Prod.ext rfl outcome, ?_⟩
  intro later typed small
  obtain ⟨last, replies⟩ := tracks.askAll typed
  obtain ⟨-, replies'⟩ := tracked.askAll typed
  -- Both answer from one list; the graph to which nothing was added knows no more terms, so it has room too.
  have room : ∀ k, (g.askAll later).1.terms.count k < TermId.payloadSize := by
    intro k
    have within := tracks.knows_alike tracked names typed fun u old => known u (.inl old)
    exact Nat.lt_of_le_of_lt (count_le_of_knows last.readable within k) (small k)
  rw [replies' small, replies room]

theorem tracks_ofList {name : Term} (named : name.isGraphName = true)
    (proper : ∀ q ∈ quads, q.isProper = true) (made : ofList name quads = .ok g) : ∃ l, g.Tracks l := by
  have quads_proper : (Edit.add quads).isProper = true := List.all_eq_true.2 proper
  obtain ⟨tracked, -⟩ := (tracks_empty named).edit quads_proper
  have added : ({ name } : Columnar).apply (.add quads) = (g, .ok ()) := Graph.apply_of_obeyed made
  rw [added] at tracked
  exact ⟨_, tracked⟩

theorem replay_of_refused {w : Workspace} {target : Nat} {c : ChangeSet} {e : Error}
    (stored : w.graph target = .ok (.columnar g))
    (refused : g.apply (.add c.delta.added) = (h, .error e)) :
    ∃ w', Workspace.replay (w, target) c.delta = ((w', target), .error e) ∧
      w'.graph target = .ok (.columnar h) := by
  have some_added : c.delta.added ≠ [] := by
    intro none
    rw [none] at refused
    cases refused
  have ended : Edit.run Graph.apply (.columnar g) c.delta.edits = (.columnar h, .error e) := by
    rw [Delta.edits, if_neg (by simpa using some_added), List.singleton_append, Edit.run, Graph.apply,
      refused]
    rfl
  have has := Workspace.has_of_graph_eq stored (by simp)
  obtain ⟨⟨w', id⟩, replayed, has', leads⟩ := has.run c.delta.edits
  rw [ended] at replayed has'
  obtain rfl : id = target := leads.here rfl
  exact ⟨w', replayed, has'.graph_eq⟩

/-- However a graph of rows has come about: to add quads among which one has a variable fails, and whatever
is called later is answered as on the graph to which nothing was added, unless a kind of term has used up
its identifiers. A replay that fails in this way leaves the same graph behind. -/
theorem rejected_add_unseen {name : Term} {batch : List Quad} {before : List Call} {first : Columnar}
    (named : name.isGraphName = true) (proper : ∀ q ∈ quads, q.isProper = true)
    (made : ofList name quads = .ok first) (typed : ∀ c ∈ before, c.isTyped = true)
    (reached : (first.askAll before).1 = g) (batch_proper : ∀ q ∈ batch, q.isProper = true)
    (open_among : ∃ q ∈ batch, ∃ t ∈ q.terms, t.isVar = true) :
    ∃ h v, firstVariable? batch = some v ∧ g.add batch = (h, .error (.storedVariable v)) ∧
      (∀ later : List Call, (∀ c ∈ later, c.isTyped = true) →
        (Graph.columnar (h.askAll later).1).HasRoom → (h.askAll later).2 = (g.askAll later).2) ∧
      ∀ (w : Workspace) (target : Nat) (c : ChangeSet), w.graph target = .ok (.columnar g) →
        c.delta.added = batch →
        ∃ w', Workspace.replay (w, target) c.delta = ((w', target), .error (.storedVariable v)) ∧
          w'.graph target = .ok (.columnar h) := by
  obtain ⟨l, tracks⟩ := tracks_ofList named proper made
  obtain ⟨tracked, -⟩ := tracks.askAll typed
  rw [reached] at tracked
  obtain ⟨v, found⟩ := exists_firstVariable? open_among
  obtain ⟨h, refused, alike⟩ := tracked.rejected batch_proper found
  refine ⟨h, v, found, refused, alike, ?_⟩
  intro w target c stored same
  subst same
  exact replay_of_refused stored refused

def lateVariable : List Quad :=
  [⟨.iri "a", .iri "q", .blank "b", .defaultGraph⟩, ⟨.iri "a", .iri "p", .var "x", .iri "h"⟩]

def lookAround : List Call :=
  [.edit (.add [⟨.iri "z", .iri "q", .blank "b", .defaultGraph⟩]), .find { object := some (.blank "b") },
    .edit (.remove [⟨.iri "a", .iri "q", .blank "b", .defaultGraph⟩]), .quads, .statistics]

theorem unseen_of_lateVariable :
    ∃ first g h, ofList (.iri "g") [⟨.iri "a", .iri "p", .iri "c", .defaultGraph⟩] = .ok first ∧
      (first.askAll [.clear]).1 = g ∧ g.add lateVariable = (h, .error (.storedVariable "x")) ∧
      g.terms.ids.length < h.terms.ids.length ∧ (h.askAll lookAround).2 = (g.askAll lookAround).2 := by
  let one : List Quad := [⟨.iri "a", .iri "p", .iri "c", .defaultGraph⟩]
  have named : (Term.iri "g").isGraphName = true := rfl
  have proper : ∀ q ∈ one, q.isProper = true := by decide
  have typed : ∀ c ∈ [Call.clear], c.isTyped = true := by decide
  have batch_proper : ∀ q ∈ lateVariable, q.isProper = true := by decide
  have open_among : ∃ q ∈ lateVariable, ∃ t ∈ q.terms, t.isVar = true := by decide
  have later_typed : ∀ c ∈ lookAround, c.isTyped = true := by decide
  obtain ⟨first, made, grown⟩ : ∃ first, ofList (.iri "g") one = .ok first ∧
      (first.askAll [.clear]).1.terms.ids.length <
        ((first.askAll [.clear]).1.add lateVariable).1.terms.ids.length ∧
      (((first.askAll [.clear]).1.add lateVariable).1.askAll lookAround).1.terms.ids.length ≤ 9 :=
    ⟨_, rfl, by decide +kernel, by decide +kernel⟩
  obtain ⟨h, v, found, refused, alike, -⟩ :=
    rejected_add_unseen named proper made typed rfl batch_proper open_among
  obtain rfl : v = "x" := by
    have here : firstVariable? lateVariable = some "x" := by decide
    exact Option.some.inj (found.symm.trans here)
  rw [refused] at grown
  refine ⟨first, _, h, made, rfl, refused, grown.1, alike lookAround later_typed ?_⟩
  intro k
  exact Nat.lt_of_le_of_lt (Nat.le_trans List.countP_le_length grown.2) (by decide)

end Columnar

end QuadPull
