import QuadPull.Proofs.Evaluation
import QuadPull.Proofs.Listing

namespace QuadPull.Pull

/-- A source that holds just the quads of a set: it lists them and finds them. -/
structure Source.Holds (source : Source) (Q : Finset Quad) : Prop where
  find : Serves source.find Q
  quads : ∃ quads, source.quads = .ok quads ∧ ∀ q, q ∈ quads ↔ q ∈ Q
  bound : Q.card ≤ source.bound

def IsStart (Q : Finset Quad) (start : Option Term) (s : Term) : Prop :=
  match start with
  | some t => s = t
  | none => ∃ q ∈ Q, q.subject = s

theorem holds_set (g : SetGraph) : (Graph.set g).source.Holds g.quads.toFinset where
  find := serves_set g
  quads := ⟨g.quads, rfl, fun _ => List.mem_toFinset.symm⟩
  bound := List.toFinset_card_le g.quads

theorem holds_columnar {g : Columnar} {l : Listing} (shows : Columnar.Shows (.columnar g) l) :
    (Graph.columnar g).source.Holds l.quads.toFinset where
  find := by
    intro lookup proper
    refine ⟨_, shows.find _ (Lookup.bound_isProper proper), ?_⟩
    intro q
    rw [Lookup.mem_filter proper, List.mem_toFinset]
  quads := ⟨l.quads, shows.quads, fun _ => List.mem_toFinset.symm⟩
  bound := by
    have size : g.rows.length = l.quads.length := Except.ok.inj shows.size
    rw [Graph.source, Graph.bound, size]
    exact List.toFinset_card_le l.quads

section

variable {find : Lookup → Answer} {Q : Finset Quad} (serves : Serves find Q)
  (proper : ∀ q ∈ Q, q.isProper = true) {strict : Bool} {rounds : Nat} (enough : Q.card < rounds)
include serves proper enough

theorem evaluate_yields {plan : Plan} (compiled : areCompiled plan = true) {s : Term}
    (start : s.isProper = true) :
    Yields find (evaluate strict rounds plan s) (Breaks Q strict plan s) (Accepts Q strict plan s)
      (OffersAny Q strict plan s) := by
  refine level_yields proper serves (fun spec among => ?_) compiled start
  exact contribution_yields proper serves enough (isCompiled_of_mem compiled spec among) start

theorem select_yields {plan : Plan} (compiled : areCompiled plan = true) {starts : List Term}
    (start : ∀ s ∈ starts, s.isProper = true) :
    Yields find (select strict rounds plan starts) (∃ s ∈ starts, Breaks Q strict plan s) True
      (fun q => ∃ s ∈ starts, Selects Q strict plan s q) := by
  have parts : ∀ s ∈ starts, Yields find (evaluate strict rounds plan s) (Breaks Q strict plan s)
      (Accepts Q strict plan s) (OffersAny Q strict plan s) := fun s member =>
    evaluate_yields serves proper enough compiled (start s member)
  refine yields_gather parts (fun s member breaks => ⟨s, member, breaks⟩) ?_
  intro sound finding finds
  refine yields_found ?_ trivial ?_
  · intro held
    obtain ⟨s, member, breaks⟩ := held
    exact sound s member breaks
  · intro q
    have found : ∀ quads, quads ∈ (starts.map finding).filterMap id ↔
        ∃ s ∈ starts, finding s = some quads := by
      intro quads
      simp
    have within : ∀ quads ∈ (starts.map finding).filterMap id, ∀ r ∈ quads, r ∈ Q := by
      intro quads list r among
      obtain ⟨s, member, found⟩ := (found quads).1 list
      exact mem_of_offersAny ((((finds s member).of_some found).2 r).1 among)
    rw [mem_distinct_union proper within]
    refine ⟨?_, ?_⟩
    · intro held
      obtain ⟨quads, list, among⟩ := held
      obtain ⟨s, member, found⟩ := (found quads).1 list
      obtain ⟨accepted, members⟩ := (finds s member).of_some found
      exact ⟨s, member, accepted, (members q).1 among⟩
    · intro held
      obtain ⟨s, member, accepted, offered⟩ := held
      obtain ⟨quads, here, members⟩ := (finds s member).1 accepted
      exact ⟨quads, (found quads).2 ⟨s, member, here⟩, (members q).2 offered⟩

end

theorem Lookup.hashable_of_isProper {l : Lookup} (proper : l.isProper = true) : l.hashable = true := by
  rw [isProper, Bool.and_eq_true] at proper
  obtain ⟨subject, predicate⟩ := proper
  rw [hashable, Term.hashable_of_isProper subject, Bool.true_and]
  cases bound : l.predicate with
  | none => rfl
  | some p =>
    rw [bound] at predicate
    exact Term.hashable_of_isProper predicate

theorem Lookup.settled_of_isProper {l : Lookup} (proper : l.isProper = true) : l.settled = l := by
  rw [isProper, Bool.and_eq_true] at proper
  obtain ⟨subject, predicate⟩ := proper
  obtain ⟨s, bound⟩ := l
  rw [settled, Term.settled_of_isProper subject]
  cases bound with
  | none => rfl
  | some p => rw [Option.map_some, Term.settled_of_isProper predicate]

namespace Engine

variable {e : Engine} {source : Source} {Q : Finset Quad}

theorem serves_answer (fresh : e.memory = []) (serves : Serves source.find Q) :
    Serves (e.answer source.find) Q := by
  intro l proper
  obtain ⟨quads, answered, members⟩ := serves l proper
  refine ⟨quads, ?_, members⟩
  have unknown : e.remembered? l = none := by
    unfold remembered? Lookup.remembered?
    rw [fresh]
    split <;> rfl
  rw [answer, Lookup.hashable_of_isProper proper, unknown]
  simp [answered]

/-- The fault that comes out is one of those that there are, whatever the order of the turns. -/
theorem mem_fault (e : Engine) (source : Source) (i : Inquiry) (steps : Nat) (faults : Faults) :
    (e.fault source i steps faults).1 ∈ faults.toList := by
  have first : faults.first ∈ faults.toList := List.mem_cons_self
  have either : ∀ f, (if f ∈ faults.toList then f else faults.first) ∈ faults.toList := by
    intro f
    split
    · assumption
    · exact first
  unfold fault
  generalize e.byTurns source i steps = turns
  obtain ⟨ending, after⟩ := turns
  cases ending with
  | none => exact first
  | some ending =>
    cases ending with
    | found finding => exact first
    | failed f => exact either f
    | withdrawn => exact either .withdrawn

theorem fault_eq {i : Inquiry} {faults : Faults} (incomparable : ∀ e ∈ faults.toList, e = .incomparable)
    (steps : Nat) : (e.fault source i steps faults).1 = .incomparable :=
  incomparable _ (mem_fault e source i steps faults)

variable {i : Inquiry} {breaks accepted : Prop} {selected : Quad → Prop}

theorem areAlike_of_proper {find : Lookup → Answer} (proper : ∀ l ∈ i.demands find, l.isProper = true) :
    areAlike (i.pursue find).asked = true := by
  rw [areAlike, List.all_eq_true]
  intro a among
  exact decide_eq_true (Lookup.settled_of_isProper (proper a.1 (List.mem_map_of_mem among)))

/-- What comes of an inquiry of proper lookups does not depend on whether answers are remembered: proper terms
are equal only when they are the same, so a remembered answer is the one that the source would give. -/
theorem perform_eq (proper : ∀ l ∈ i.demands (e.answer source.find), l.isProper = true) :
    (e.perform source i).1 = (i.outcome (e.answer source.find)).mapError fun faults =>
      (e.fault source i (i.pursue (e.answer source.find)).steps faults).1 := by
  rw [perform, areAlike_of_proper proper]
  simp only [Bool.not_true, Bool.and_false, Bool.false_eq_true, if_false, Inquiry.outcome]
  cases (i.pursue (e.answer source.find)).outcome <;> rfl

theorem perform_of_yields (yields : Yields (e.answer source.find) i breaks accepted selected) :
    (breaks → (e.perform source i).1 = .error .incomparable) ∧
      (¬ breaks → ∃ finding, (e.perform source i).1 = .ok finding ∧ Finds accepted selected finding) := by
  rw [perform_eq yields.proper]
  refine ⟨?_, ?_⟩
  · intro broken
    obtain ⟨faults, outcome, incomparable⟩ := yields.fails broken
    rw [outcome]
    exact congrArg Except.error (fault_eq incomparable _)
  · intro sound
    obtain ⟨finding, outcome, finds⟩ := yields.comes sound
    rw [outcome]
    exact ⟨finding, rfl, finds⟩

theorem starts_spec (holds : source.Holds Q) (proper : ∀ q ∈ Q, q.isProper = true) (start : Option Term) :
    ∃ subjects, starts source start = .ok subjects ∧ ∀ s, s ∈ subjects ↔ IsStart Q start s := by
  cases start with
  | some t => exact ⟨[t], rfl, fun s => List.mem_singleton⟩
  | none =>
    obtain ⟨quads, listed, members⟩ := holds.quads
    refine ⟨subjectsOf quads, by rw [starts, listed]; rfl, ?_⟩
    intro s
    rw [mem_subjectsOf fun q among => proper q ((members q).1 among)]
    simp only [members]
    rfl

theorem mem_of_starts (holds : source.Holds Q) (proper : ∀ q ∈ Q, q.isProper = true) {start : Option Term}
    {subjects : List Term} (started : starts source start = .ok subjects) (s : Term) :
    s ∈ subjects ↔ IsStart Q start s := by
  obtain ⟨others, started', members⟩ := starts_spec holds proper start
  obtain rfl : subjects = others := Except.ok.inj (started.symm.trans started')
  exact members s

end Engine

theorem pull_eq {settings : LookupSettings} {expression : Value} {plan : Plan} {source : Source}
    {start : Option Term} {subjects : List Term} (name : Term) (valid : settings.ensureValid = .ok ())
    (compiles : compile expression = .ok plan) (started : Engine.starts source start = .ok subjects) :
    pull settings name source expression start =
      (({ settings : Engine }.perform source
        (select settings.strict.truthy (source.bound + 1) plan subjects)).1.map (·.getD [])).map
          (SetGraph.ofList name) := by
  have made : Engine.ofSettings settings = .ok { settings } := by
    rw [Engine.ofSettings, valid]
    rfl
  have ran : ({ settings : Engine }.run source plan start).1 = ({ settings : Engine }.perform source
      (select settings.strict.truthy (source.bound + 1) plan subjects)).1.map (·.getD []) := by
    rw [Engine.run, started]
    rfl
  rw [← ran]
  simp only [pull, pullWith, compiles, made, bind, Except.bind]
  cases ({ settings : Engine }.run source plan start).1 <;> rfl

/-- A pull from a source that holds a set of proper quads. It succeeds exactly when no level breaks at a
subject where the plan starts, and then its graph has the quads that the plan selects at those subjects. -/
theorem pull_selects {source : Source} {Q : Finset Quad} (holds : source.Holds Q)
    (proper : ∀ q ∈ Q, q.isProper = true) {settings : LookupSettings}
    (valid : settings.ensureValid = .ok ()) {expression : Value} {plan : Plan}
    (compiles : compile expression = .ok plan) (compiled : areCompiled plan = true)
    {start : Option Term} (given : ∀ s ∈ start, s.isProper = true) (name : Term) :
    ((∀ s, IsStart Q start s → ¬ Breaks Q settings.strict.truthy plan s) →
      ∃ g, pull settings name source expression start = .ok g ∧
        ∀ q, q ∈ g.quads ↔ ∃ s, IsStart Q start s ∧ Selects Q settings.strict.truthy plan s q) ∧
    ((∃ s, IsStart Q start s ∧ Breaks Q settings.strict.truthy plan s) →
      pull settings name source expression start = .error .incomparable) := by
  obtain ⟨subjects, started, members⟩ := Engine.starts_spec holds proper start
  have subject_proper : ∀ s ∈ subjects, s.isProper = true := by
    intro s member
    have starts := (members s).1 member
    cases start with
    | some t => exact given s (congrArg some starts.symm)
    | none =>
      obtain ⟨q, stored, rfl⟩ := starts
      exact (Quad.isProper_iff.1 (proper q stored)).1
  have served : Serves (({ settings : Engine }).answer source.find) Q := Engine.serves_answer rfl holds.find
  have yields : Yields _ (select settings.strict.truthy (source.bound + 1) plan subjects) _ _ _ :=
    select_yields served proper (Nat.lt_succ_of_le holds.bound) compiled subject_proper
  obtain ⟨fails, comes⟩ := Engine.perform_of_yields yields
  rw [pull_eq name valid compiles started]
  refine ⟨?_, ?_⟩
  · intro sound
    obtain ⟨finding, outcome, finds⟩ := comes fun broken => by
      obtain ⟨s, member, breaks⟩ := broken
      exact sound s ((members s).1 member) breaks
    obtain ⟨quads, rfl, selected⟩ := finds.1 trivial
    rw [outcome]
    refine ⟨.ofList name quads, rfl, ?_⟩
    intro q
    have within : ∀ r ∈ quads, r ∈ Q := by
      intro r among
      obtain ⟨s, -, -, offered⟩ := (selected r).1 among
      exact mem_of_offersAny offered
    simp only [SetGraph.ofList, mem_distinct proper within, selected, members]
  · intro held
    obtain ⟨s, starts, breaks⟩ := held
    rw [fails ⟨s, (members s).2 starts, breaks⟩]
    rfl

def numbered (lexical datatype : String) : Quad :=
  ⟨.iri "s", .iri "p", .typed lexical datatype, .defaultGraph⟩

def numbers : SetGraph :=
  .ofList .defaultGraph [numbered "5" Vocabulary.xsdInteger, numbered "sNaN" Vocabulary.xsdDecimal]

def unlike : Plan :=
  [.constraint (.iri "p") (.int 5), .constraint (.iri "p") (.decimal (.nan false true []))]

theorem pulls_of_numbers :
    pull {} .defaultGraph (Graph.set numbers).source (.plan unlike) (some (.iri "s")) =
      .error .incomparable ∧
    ∃ g, pull {} .defaultGraph (Graph.set numbers).source (.plan [.property (.iri "p")]) none = .ok g ∧
      numbered "5" Vocabulary.xsdInteger ∈ g.quads := by
  have proper : ∀ q ∈ numbers.quads.toFinset, q.isProper = true := by decide
  have valid : ({} : LookupSettings).ensureValid = .ok () := by decide
  refine ⟨?_, ?_⟩
  · have accepts : Accepts numbers.quads.toFinset false unlike (.iri "s") := by
      intro p v required
      have either : (p = .iri "p" ∧ v = .int 5) ∨ p = .iri "p" ∧ v = .decimal (.nan false true []) := by
        simpa [unlike] using required.1
      rcases either with ⟨rfl, rfl⟩ | ⟨rfl, rfl⟩
      · exact ⟨numbered "5" Vocabulary.xsdInteger, by decide, rfl, rfl, by decide +kernel⟩
      · exact ⟨numbered "sNaN" Vocabulary.xsdDecimal, by decide, rfl, rfl, by decide +kernel⟩
    have clash : Plan.Clashes (Plan.filters unlike false) := by
      refine ⟨[], _, [], _, [], rfl, ⟨.incomparable, ?_⟩, by simp⟩
      simp [Spec.equals, Value.equals, andAlso, Value.sameObject, Value.sameNumber, Value.number?,
        Value.isSignaling, Term.same]
    have compiles : compile (.plan unlike) = .ok unlike := rfl
    have given : ∀ s ∈ some (Term.iri "s"), s.isProper = true := by decide
    have pulled := (pull_selects (holds_set numbers) proper valid compiles rfl given .defaultGraph).2
    exact pulled ⟨.iri "s", rfl, accepts, .inl clash⟩
  · have compiles : compile (.plan [.property (.iri "p")]) = .ok [.property (.iri "p")] := rfl
    have given : ∀ s ∈ (none : Option Term), s.isProper = true := by simp
    have pulled := (pull_selects (holds_set numbers) proper valid compiles rfl given .defaultGraph).1
    have sound : ∀ s, IsStart numbers.quads.toFinset none s →
        ¬ Breaks numbers.quads.toFinset false [.property (.iri "p")] s := by
      intro s _ held
      rcases held with ⟨-, ⟨before, other, between, spec, after, split, -⟩ | stumbles⟩
      · have none : Plan.filters [.property (.iri "p")] false = [] := rfl
        simp [none] at split
      · simp [StumblesAny, Stumbles] at stumbles
    obtain ⟨g, ended, members⟩ := pulled sound
    have accepts : Accepts numbers.quads.toFinset false [.property (.iri "p")] (.iri "s") := by
      intro p v held
      obtain ⟨member, -⟩ := held
      simp at member
    have offers : OffersAny numbers.quads.toFinset false [.property (.iri "p")] (.iri "s")
        (numbered "5" Vocabulary.xsdInteger) := by
      rw [offersAny_iff]
      refine ⟨_, List.mem_singleton_self _, ?_⟩
      rw [Offers]
      exact ⟨by decide, rfl, rfl⟩
    exact ⟨g, ended, (members _).2
      ⟨.iri "s", ⟨numbered "5" Vocabulary.xsdInteger, by decide, rfl⟩, accepts, offers⟩⟩

end QuadPull.Pull
