import QuadPull.Proofs.Caching

namespace QuadPull.Pull

/-- A source that is like another, but fails the lookups of some subjects. -/
structure Source.FailsAt (broken source : Source) (F : Term → Prop) (fault : Lookup → Error) : Prop where
  fails : ∀ l : Lookup, l.isProper = true → F l.subject → broken.find l = .error (fault l)
  answers : ∀ l : Lookup, l.isProper = true → ¬ F l.subject → broken.find l = source.find l
  bound : broken.bound = source.bound

theorem failsAt_failing {subject : Term} (proper : subject.isProper = true) (name : Option Term)
    (held : SetGraph) : (Graph.served (.failing (some subject)) name held).source.FailsAt
      (Graph.served .coroutine name held).source (· = subject) fun _ => .lookupOffline subject := by
  have alike : ∀ l : Lookup, l.isProper = true →
      (l.subject.given?.any (·.same subject) = true ↔ l.subject = subject) := by
    intro l lookup
    rw [Lookup.isProper, Bool.and_eq_true] at lookup
    rw [Term.given?_of_isProper lookup.1, Option.any_some, Term.same, decide_eq_true_iff,
      Term.settled_of_isProper lookup.1, Term.settled_of_isProper proper]
  refine ⟨?_, ?_, rfl⟩
  · intro l lookup failing
    exact if_pos ((alike l lookup).2 failing)
  · intro l lookup answering
    exact if_neg (mt (alike l lookup).1 answering)

namespace Engine

variable {source broken : Source} {F : Term → Prop} {fault : Lookup → Error} {i : Inquiry}
  {breaks accepted : Prop} {selected : Quad → Prop}

theorem answer_of_fresh (settings : LookupSettings) (source : Source) {l : Lookup}
    (lookup : l.isProper = true) : ({ settings : Engine }).answer source.find l = source.find l :=
  (books_fresh source settings).answer lookup

theorem perform_congr {other : Source} (yields : Yields source.find i breaks accepted selected)
    (settings : LookupSettings) (alike : ∀ l ∈ i.demands source.find, other.find l = source.find l) :
    (({ settings : Engine }).perform other i).1 = (({ settings : Engine }).perform source i).1 := by
  have same : i.pursue (({ settings : Engine }).answer source.find) = i.pursue source.find :=
    (books_fresh source settings).pursue yields.proper
  have same' : i.pursue (({ settings : Engine }).answer other.find) = i.pursue source.find := by
    refine Inquiry.pursue_congr i fun l asked => ?_
    rw [answer_of_fresh settings other (yields.proper l asked), alike l asked]
  have lookups : ∀ l ∈ i.demands (({ settings : Engine }).answer source.find), l.isProper = true := by
    rw [Inquiry.demands, same]
    exact yields.proper
  have lookups' : ∀ l ∈ i.demands (({ settings : Engine }).answer other.find), l.isProper = true := by
    rw [Inquiry.demands, same']
    exact yields.proper
  rw [perform_eq lookups, perform_eq lookups', Inquiry.outcome, Inquiry.outcome, same, same']
  cases outcome : (i.pursue source.find).outcome with
  | ok finding => simp only [Except.mapError]
  | error faults =>
    have incomparable := yields.incomparable outcome
    simp only [Except.mapError, fault_eq incomparable]

section

variable (failing : broken.FailsAt source F fault)
  (yields : Yields source.find i breaks accepted selected) (settings : LookupSettings)
include failing yields

theorem fails_of_failsAt : Inquiry.Fails source.find (({ settings : Engine }).answer broken.find) i := by
  refine Inquiry.fails i fun l asked => ?_
  have lookup := yields.proper l asked
  rw [answer_of_fresh settings broken lookup]
  by_cases fails : F l.subject
  · exact .inr ⟨fault l, failing.fails l lookup fails⟩
  · exact .inl (failing.answers l lookup fails)

theorem perform_failing
    (serves : ∀ l : Lookup, l.isProper = true → ∃ quads, source.find l = .ok quads)
    (demanded : ∃ l ∈ i.demands source.find, F l.subject) :
    ∃ f, (({ settings : Engine }).perform broken i).1 = .error f ∧
      ((∃ l ∈ i.demands source.find, F l.subject ∧ f = fault l) ∨ f = .incomparable ∧ breaks) := by
  obtain ⟨fewer, comes⟩ := fails_of_failsAt failing yields settings
  have lookups : ∀ l ∈ i.demands (({ settings : Engine }).answer broken.find), l.isProper = true :=
    fun l asked => yields.proper l (fewer l asked)
  have differs : ¬ ∀ l ∈ i.demands source.find,
      ({ settings : Engine }).answer broken.find l = source.find l := by
    intro same
    obtain ⟨l, asked, fails⟩ := demanded
    have lookup := yields.proper l asked
    obtain ⟨quads, answered⟩ := serves l lookup
    have both := same l asked
    rw [answer_of_fresh settings broken lookup, failing.fails l lookup fails, answered] at both
    cases both
  obtain ⟨faults, failed, known⟩ := comes.resolve_left differs
  rw [perform_eq lookups, failed]
  refine ⟨_, rfl, ?_⟩
  -- Whichever fault comes out is that of a lookup that fails, or one without which the inquiry never ends.
  rcases known _ (mem_fault _ _ _ _ faults) with ⟨l, asked, differs, failing'⟩ | ⟨own, before, said⟩
  · have lookup := yields.proper l asked
    rw [answer_of_fresh settings broken lookup] at differs failing'
    have fails : F l.subject := by
      by_contra answering
      exact differs (failing.answers l lookup answering)
    rw [failing.fails l lookup fails] at failing'
    exact .inl ⟨l, asked, fails, (Except.error.inj failing').symm⟩
  · refine .inr ⟨yields.incomparable before _ said, ?_⟩
    by_contra sound
    obtain ⟨finding, outcome, -⟩ := yields.comes sound
    rw [before] at outcome
    cases outcome

theorem perform_unharmed (spared : ∀ l ∈ i.demands source.find, ¬ F l.subject) :
    (({ settings : Engine }).perform broken i).1 = (({ settings : Engine }).perform source i).1 :=
  perform_congr yields settings fun l asked =>
    failing.answers l (yields.proper l asked) (spared l asked)

end

end Engine

/-- A pull from a source that fails the lookups of some subjects. It fails exactly when its plan demands one
of these lookups, with the fault of one that is demanded, and is otherwise the pull from the source that does
not fail; but where a level breaks, values without a comparison may come first. A source that fails to list
its quads fails the pulls without a start, and no others. -/
theorem pull_fails_on_demand {source broken : Source} {Q : Finset Quad} (holds : source.Holds Q)
    (proper : ∀ q ∈ Q, q.isProper = true) {F : Term → Prop} {fault : Lookup → Error}
    (failing : broken.FailsAt source F fault) {settings : LookupSettings}
    (valid : settings.ensureValid = .ok ())
    {expression : Value} {plan : Plan} (compiles : compile expression = .ok plan)
    (compiled : areCompiled plan = true) (name : Term) :
    (∀ e, broken.quads = .error e → pull settings name broken expression none = .error e) ∧
    ∀ start : Option Term, (∀ s ∈ start, s.isProper = true) →
      (start = none → broken.quads = source.quads) →
      ((∃ l ∈ source.demands Q settings.strict.truthy plan start, F l.subject) →
        ∃ f, pull settings name broken expression start = .error f ∧
          ((∃ l ∈ source.demands Q settings.strict.truthy plan start,
            F l.subject ∧ f = fault l) ∨
          f = .incomparable ∧ ∃ s, IsStart Q start s ∧ Breaks Q settings.strict.truthy plan s)) ∧
      ((∀ l ∈ source.demands Q settings.strict.truthy plan start, ¬ F l.subject) →
        pull settings name broken expression start = pull settings name source expression start) ∧
      ((∀ s, IsStart Q start s → ¬ Breaks Q settings.strict.truthy plan s) →
        ((∃ f, pull settings name broken expression start = .error f) ↔
          ∃ l ∈ source.demands Q settings.strict.truthy plan start, F l.subject)) := by
  refine ⟨?_, ?_⟩
  · intro e offline
    rw [pull_of_run name broken none valid compiles, Engine.run, Engine.starts, offline]
    rfl
  · intro start given listing
    obtain ⟨subjects, started, -⟩ := Engine.starts_spec holds proper start
    have started' : Engine.starts broken start = .ok subjects := by
      cases start with
      | some s => exact started
      | none => rw [← started, Engine.starts, Engine.starts, listing rfl]
    have yields :=
      Engine.started_yields holds proper compiled given holds.find settings.strict.truthy started
    have demanded := Engine.started_demands holds proper compiled given settings.strict.truthy started
    have pulled := pull_eq name valid compiles started
    have pulled' := pull_eq name valid compiles started'
    rw [failing.bound] at pulled'
    have asked_iff : ∀ l,
        l ∈ (select settings.strict.truthy (source.bound + 1) plan subjects).demands source.find ↔
        l ∈ source.demands Q settings.strict.truthy plan start := by
      intro l
      rw [← demanded, Multiset.mem_coe]
    have serves : ∀ l : Lookup, l.isProper = true → ∃ quads, source.find l = .ok quads :=
      fun l lookup => ⟨_, holds.find.tells.told l lookup⟩
    have fails : (∃ l ∈ source.demands Q settings.strict.truthy plan start, F l.subject) →
        ∃ f, pull settings name broken expression start = .error f ∧
          ((∃ l ∈ source.demands Q settings.strict.truthy plan start,
            F l.subject ∧ f = fault l) ∨
          f = .incomparable ∧ ∃ s, IsStart Q start s ∧ Breaks Q settings.strict.truthy plan s) := by
      intro held
      have among :=
        Engine.perform_failing failing yields settings serves (by simpa only [asked_iff] using held)
      obtain ⟨f, performed, known⟩ := among
      refine ⟨f, ?_, by simpa only [asked_iff] using known⟩
      rw [pulled', performed]
      rfl
    have unharmed : (∀ l ∈ source.demands Q settings.strict.truthy plan start, ¬ F l.subject) →
        pull settings name broken expression start = pull settings name source expression start := by
      intro spared
      have same := Engine.perform_unharmed failing yields settings (by simpa only [asked_iff] using spared)
      rw [pulled, pulled', same]
    refine ⟨fails, unharmed, ?_⟩
    intro sound
    refine ⟨?_, ?_⟩
    · intro failed
      by_contra none
      have spared : ∀ l ∈ source.demands Q settings.strict.truthy plan start, ¬ F l.subject :=
        fun l member failing => none ⟨l, member, failing⟩
      obtain ⟨f, failed⟩ := failed
      obtain ⟨quads, ended, -⟩ := (Engine.run_of_holds holds proper settings compiled given).2 sound
      rw [unharmed spared, pull_of_run name source start valid compiles, ended] at failed
      cases failed
    · intro held
      obtain ⟨f, failed, -⟩ := fails held
      exact ⟨f, failed⟩

def wholeCircle : Source := (Graph.served .coroutine none circle).source

def halfCircle : Source := (Graph.served (.failing (some (.blank "b"))) none circle).source

theorem pull_of_halfCircle :
    pull {} .defaultGraph halfCircle (.plan bothWays) (some (.iri "a")) =
      .error (.lookupOffline (.blank "b")) ∧
    pull {} .defaultGraph halfCircle (.plan bothWays) (some (.iri "c")) =
      pull {} .defaultGraph wholeCircle (.plan bothWays) (some (.iri "c")) := by
  have holds : wholeCircle.Holds circle.quads.toFinset :=
    (Graph.Stores.served rfl none circle).holds
  have proper : ∀ q ∈ circle.quads.toFinset, q.isProper = true := by decide
  have failing : halfCircle.FailsAt wholeCircle (· = .blank "b")
      fun _ => .lookupOffline (.blank "b") := failsAt_failing rfl none circle
  have valid : ({} : LookupSettings).ensureValid = .ok () := by decide
  have compiles : compile (.plan bothWays) = .ok bothWays := rfl
  have compiled : areCompiled bothWays = true := by decide
  obtain ⟨-, pulls⟩ := pull_fails_on_demand holds proper failing valid compiles compiled .defaultGraph
  refine ⟨?_, ?_⟩
  · have given : ∀ s ∈ some (Term.iri "a"), s.isProper = true := by decide
    have asked : (⟨.blank "b", some (.iri "p")⟩ : Lookup) ∈
        (select false (wholeCircle.bound + 1) bothWays [.iri "a"]).demands wholeCircle.find := by
      decide +kernel
    have yields := Engine.started_yields holds proper compiled given holds.find false rfl
    have demanded := Engine.started_demands holds proper compiled given false rfl
    have returns : ((select false (wholeCircle.bound + 1) bothWays [.iri "a"]).outcome
        wholeCircle.find).toOption.isSome = true := by decide +kernel
    obtain ⟨f, failed, known⟩ := (pulls (some (.iri "a")) given nofun).1
      ⟨_, demanded ▸ Multiset.mem_coe.2 asked, rfl⟩
    rcases known with ⟨l, -, -, rfl⟩ | ⟨-, breaks⟩
    · exact failed
    · obtain ⟨faults, broken, -⟩ := yields.fails breaks
      have ended : (select false (wholeCircle.bound + 1) bothWays [.iri "a"]).outcome wholeCircle.find =
        .error faults := broken
      rw [ended] at returns
      cases returns
  · have given : ∀ s ∈ some (Term.iri "c"), s.isProper = true := by decide
    have asked : ∀ l ∈ (select false (wholeCircle.bound + 1) bothWays [.iri "c"]).demands
        wholeCircle.find, l.subject ≠ .blank "b" := by decide +kernel
    have demanded := Engine.started_demands holds proper compiled given false rfl
    refine (pulls (some (.iri "c")) given nofun).2.1 fun l member => asked l (Multiset.mem_coe.1 ?_)
    rw [demanded]
    exact member

end QuadPull.Pull
