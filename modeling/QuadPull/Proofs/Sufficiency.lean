import QuadPull.Proofs.Failure
/-!
What a pull needs of a source: right answers to the lookups that its plan demands, a list of the quads, and
room for all of them. Whatever the source says to other lookups does not count.
-/

namespace QuadPull.Pull

/-- A source that lists the quads of a set, and finds them by some lookups. -/
structure Source.HoldsFor (source : Source) (Q : Finset Quad) (L : Lookup → Prop) : Prop where
  find : ∀ l, L l → ∃ quads, source.find l = .ok quads ∧
    ∀ q, q ∈ quads ↔ q ∈ Q ∧ q.subject = l.subject ∧ ∀ p ∈ l.predicate, q.predicate = p
  quads : ∃ quads, source.quads = .ok quads ∧ ∀ q, q ∈ quads ↔ q ∈ Q
  bound : Q.card ≤ source.bound

namespace Demand

variable {answers others : Lookup → List Quad} (Q : Finset Quad) (strict : Bool)

theorem mem_ofLevel_congr {inner inner' : Multiset Lookup} (plan : Plan) (s : Term) {l : Lookup}
    (alike : l ∈ inner ↔ l ∈ inner') :
    l ∈ ofLevel Q strict plan inner s ↔ l ∈ ofLevel Q strict plan inner' s := by
  unfold ofLevel
  rw [Multiset.mem_add, Multiset.mem_add]
  split
  · rw [alike]
  · rfl

mutual

theorem mem_ofOthers_congr (same : ∀ l q, q ∈ answers l ↔ q ∈ others l) (plan : Plan) :
    ∀ (specs : List Spec) (s : Term) (l : Lookup),
      l ∈ ofOthers answers Q strict plan specs s ↔ l ∈ ofOthers others Q strict plan specs s
  | [], _, _ => by rw [ofOthers, ofOthers]
  | spec :: rest, s, l => by
    have later := mem_ofOthers_congr same plan rest s l
    rw [ofOthers, ofOthers]
    split
    · exact later
    · rw [Multiset.mem_add, Multiset.mem_add, mem_ofSpec_congr same spec s l, later]

theorem mem_ofSpec_congr (same : ∀ l q, q ∈ answers l ↔ q ∈ others l) :
    ∀ (spec : Spec) (s : Term) (l : Lookup),
      l ∈ ofSpec answers Q strict spec s ↔ l ∈ ofSpec others Q strict spec s
  | .property _, _, _ | .wildcard, _, _ | .constraint _ _, _, _ | .recursive _, _, _ | .raw _, _, _ => by
    rw [ofSpec, ofSpec]
  | .nested p plan, s, l => by
    have levels := fun link : Quad => mem_ofLevel_congr Q strict plan link.object
      (mem_ofOthers_congr same plan plan link.object l)
    simp only [ofSpec, Multiset.mem_add, Multiset.mem_bind, Multiset.mem_coe, same, levels]

end

theorem mem_ofRun_congr (same : ∀ l q, q ∈ answers l ↔ q ∈ others l) (plan : Plan) (start : Option Term)
    (l : Lookup) : l ∈ ofRun answers Q strict plan start ↔ l ∈ ofRun others Q strict plan start := by
  have levels := fun s => mem_ofLevel_congr Q strict plan s (mem_ofOthers_congr Q strict same plan plan s l)
  simp only [ofRun, ofPlan, Multiset.mem_bind, levels]

end Demand

open Classical in
noncomputable def Source.askedOf (other source : Source) (L : Lookup → Prop) : Source :=
  { other with find := fun l => if L l then other.find l else source.find l }

section

variable {source other : Source} {Q : Finset Quad} {L : Lookup → Prop} {l : Lookup}

theorem Source.find_askedOf (asked : L l) : (other.askedOf source L).find l = other.find l := if_pos asked

theorem Source.find_askedOf_not (unasked : ¬ L l) : (other.askedOf source L).find l = source.find l :=
  if_neg unasked

variable (holds : source.Holds Q) (answers : other.HoldsFor Q L)
include holds answers

theorem Source.askedOf_holds : (other.askedOf source L).Holds Q where
  find := by
    intro l lookup
    by_cases asked : L l
    · rw [find_askedOf asked]
      exact answers.find l asked
    · rw [find_askedOf_not asked]
      exact holds.find l lookup
  quads := answers.quads
  bound := answers.bound

theorem mem_listed_askedOf (proper : ∀ l, L l → l.isProper = true) (l : Lookup) (q : Quad) :
    q ∈ listed (other.askedOf source L).find l ↔ q ∈ listed source.find l := by
  by_cases asked : L l
  · obtain ⟨quads, found, members⟩ := answers.find l asked
    rw [holds.find.tells.members l (proper l asked), listed, Source.find_askedOf asked, found]
    exact members q
  · rw [listed, listed, Source.find_askedOf_not asked]

end

theorem isProper_of_demanded {source : Source} {Q : Finset Quad} (holds : source.Holds Q)
    (proper : ∀ q ∈ Q, q.isProper = true) {plan : Plan} (compiled : areCompiled plan = true)
    {start : Option Term} (given : ∀ s ∈ start, s.isProper = true) (strict : Bool) :
    ∀ l ∈ source.demands Q strict plan start, l.isProper = true := by
  obtain ⟨subjects, started, -⟩ := Engine.starts_spec holds proper start
  intro l asked
  rw [← Engine.started_demands holds proper compiled given strict started] at asked
  have yields := Engine.started_yields holds proper compiled given holds.find strict started
  exact yields.proper l (Multiset.mem_coe.1 asked)

/-- A source that is right about what a plan demands of a source of quads is pulled from as that one is. -/
theorem pulls_of_demanded {source other : Source} {Q : Finset Quad} (holds : source.Holds Q)
    (proper : ∀ q ∈ Q, q.isProper = true) {expression : Value} (typed : isTyped expression = true)
    {start : Option Term} (given : ∀ s ∈ start, s.isProper = true) (settings : LookupSettings)
    (answers : ∀ plan, compile expression = .ok plan →
      other.HoldsFor Q (· ∈ source.demands Q settings.strict.truthy plan start)) (name : Term) :
    Pulls Q settings name expression start (pull settings name other expression start) := by
  cases compiles : compile expression with
  | error fault => simp only [Pulls, compiles, pull, pullWith, bind, Except.bind]
  | ok plan =>
    cases valid : settings.ensureValid with
    | error fault =>
      simp only [Pulls, compiles, valid, pull, pullWith, Engine.ofSettings, bind, Except.bind]
    | ok =>
      have right := answers plan compiles
      have compiled := areCompiled_of_compile compiles typed
      have lookups := isProper_of_demanded holds proper compiled given settings.strict.truthy
      -- The source put together from both is right everywhere, so it is known what a pull from it comes to; and
      -- the pull does not make a lookup that tells the other source from it.
      let asked := other.askedOf source (· ∈ source.demands Q settings.strict.truthy plan start)
      have asked_holds : asked.Holds Q := Source.askedOf_holds holds right
      obtain ⟨subjects, started, -⟩ := Engine.starts_spec asked_holds proper start
      have started' : Engine.starts other start = .ok subjects := started
      have yields := Engine.started_yields asked_holds proper compiled given asked_holds.find
        settings.strict.truthy started
      have demanded := Engine.started_demands asked_holds proper compiled given settings.strict.truthy started
      have alike : ∀ l ∈ (select settings.strict.truthy (asked.bound + 1) plan subjects).demands asked.find,
          other.find l = asked.find l := by
        intro l member
        rw [← Multiset.mem_coe, demanded, Source.demands,
          Demand.mem_ofRun_congr Q _ (mem_listed_askedOf holds right lookups)] at member
        exact (Source.find_askedOf member).symm
      have same := Engine.perform_congr yields settings alike
      have pulled : pull settings name other expression start = pull settings name asked expression start := by
        rw [pull_eq name valid compiles started, pull_eq name valid compiles started', ← same]
        rfl
      rw [pulled]
      exact pulls_of_holds asked_holds proper typed given settings name

end QuadPull.Pull
