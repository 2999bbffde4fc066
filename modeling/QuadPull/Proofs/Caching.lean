import QuadPull.Proofs.Bookkeeping
import QuadPull.Proofs.Demand

namespace QuadPull.Pull

namespace Engine

section

variable {source : Source} {Q : Finset Quad} (holds : source.Holds Q)
  (proper : ∀ q ∈ Q, q.isProper = true)
  {plan : Plan} (compiled : areCompiled plan = true)
include holds proper compiled

theorem run_sound {start : Option Term} (given : ∀ s ∈ start, s.isProper = true) {subjects : List Term}
    (started : starts source start = .ok subjects) (settings : LookupSettings)
    (sound : ∀ s, IsStart Q start s → ¬ Breaks Q settings.strict.truthy plan s) :
    ∃ (quads : List Quad) (made : List Lookup) (e e' : Engine),
      (select settings.strict.truthy (source.bound + 1) plan subjects).outcome source.find =
        .ok (some quads) ∧
      (∀ q, q ∈ quads ↔ ∃ s, IsStart Q start s ∧ Selects Q settings.strict.truthy plan s q) ∧
      (made : Multiset Lookup) = source.demands Q settings.strict.truthy plan start ∧
      ({ settings : Engine }).run source plan start = (.ok quads, e) ∧ Books source settings made e ∧
      inSequence source (select settings.strict.truthy (source.bound + 1) plan subjects) { settings } =
        (.ok (some quads), e') ∧ Books source settings made e' := by
  have yields := started_yields holds proper compiled given holds.find settings.strict.truthy started
  have demanded := started_demands holds proper compiled given settings.strict.truthy started
  have never : ¬ ∃ s, IsStart Q start s ∧ Breaks Q settings.strict.truthy plan s := by
    intro held
    obtain ⟨s, starts, breaks⟩ := held
    exact sound s starts breaks
  obtain ⟨finding, outcome, finds⟩ := yields.comes never
  obtain ⟨quads, rfl, members⟩ := finds.1 trivial
  have fresh := books_fresh source settings
  obtain ⟨e, performed, books⟩ := fresh.perform yields.proper outcome
  obtain ⟨e', followed, books'⟩ := follows _ fresh yields.proper outcome
  have ran : ({ settings : Engine }).perform source
      (select settings.strict.truthy (({ settings : Engine }).rounds source) plan subjects) =
      (.ok (some quads), e) := performed
  refine ⟨quads, _, e, e', outcome, members, demanded, ?_, books, followed, books'⟩
  rw [run_eq started, collect, ran]
  rfl

/-- An engine that evaluates a plan at a subject that is rejected makes the lookups of the filters only. -/
theorem evaluate_rejects (settings : LookupSettings) {s : Term} (subject : s.isProper = true)
    (rejects : ¬ Accepts Q settings.strict.truthy plan s) :
    ∃ (made : List Lookup) (e : Engine),
      (made : Multiset Lookup) = (Demand.ofFilters settings.strict.truthy plan s : Multiset Lookup) ∧
      ({ settings : Engine }).evaluate source plan s = (.ok none, e) ∧ Books source settings made e := by
  have enough : Q.card < source.bound + 1 := Nat.lt_succ_of_le holds.bound
  have yields : Yields source.find (Pull.evaluate settings.strict.truthy (source.bound + 1) plan s) _ _ _ :=
    evaluate_yields holds.find proper enough compiled subject
  have demanded : ((Pull.evaluate settings.strict.truthy (source.bound + 1) plan s).demands source.find :
      Multiset Lookup) = _ := evaluate_demands holds.find.tells proper enough compiled subject
  have filters_only : Demand.ofPlan (listed source.find) Q settings.strict.truthy plan s =
      Demand.ofFilters settings.strict.truthy plan s := by
    rw [Demand.ofPlan, Demand.ofLevel, if_neg fun both => rejects both.1, Multiset.add_zero]
  obtain ⟨finding, outcome, finds⟩ := yields.comes fun breaks => rejects breaks.1
  obtain rfl := finds.2 rejects
  obtain ⟨e, performed, books⟩ := (books_fresh source settings).perform yields.proper outcome
  exact ⟨_, e, demanded.trans filters_only, performed, books⟩

end

/-- Remembering answers changes nothing but the number of lookups. A run finds the same with it and without.
With it the store is asked once for each lookup that the plan demands, without it as often as the plan
demands it, no matter whether the lookups are made together or one after another; a subject that is rejected
costs the lookups of its filters. -/
theorem caching_transparent {source : Source} {Q : Finset Quad} (holds : source.Holds Q)
    (proper : ∀ q ∈ Q, q.isProper = true) {on off : LookupSettings} (cached : on.cached.truthy = true)
    (plain : off.cached.truthy = false) {strict : Bool} (on_strict : on.strict.truthy = strict)
    (off_strict : off.strict.truthy = strict) {plan : Plan} (compiled : areCompiled plan = true)
    {start : Option Term} (given : ∀ s ∈ start, s.isProper = true) :
    (({ settings := on } : Engine).run source plan start).1 =
      (({ settings := off } : Engine).run source plan start).1 ∧
    ((∀ s, IsStart Q start s → ¬ Breaks Q strict plan s) →
      (∃ quads, (({ settings := on } : Engine).run source plan start).1 = .ok quads ∧
        ∀ q, q ∈ quads ↔ ∃ s, IsStart Q start s ∧ Selects Q strict plan s q) ∧
      (({ settings := on } : Engine).run source plan start).2.lookups =
        (source.demands Q strict plan start).toFinset.card ∧
      (({ settings := off } : Engine).run source plan start).2.lookups =
        (source.demands Q strict plan start).card ∧
      ∃ subjects, starts source start = .ok subjects ∧ ∀ settings ∈ [on, off], ∃ quads e,
        inSequence source (select strict (source.bound + 1) plan subjects) { settings } =
          (.ok (some quads), e) ∧
        (({ settings : Engine }).run source plan start).1 = .ok quads ∧
        (({ settings : Engine }).run source plan start).2.lookups = e.lookups) ∧
    ∀ s, s.isProper = true → ¬ Accepts Q strict plan s →
      (({ settings := on } : Engine).evaluate source plan s).1 = .ok none ∧
      (({ settings := on } : Engine).evaluate source plan s).2.lookups =
        (Demand.ofFilters strict plan s).toFinset.card ∧
      (({ settings := off } : Engine).evaluate source plan s).1 = .ok none ∧
      (({ settings := off } : Engine).evaluate source plan s).2.lookups =
        (Demand.ofFilters strict plan s).length := by
  obtain ⟨subjects, started, -⟩ := starts_spec holds proper start
  refine ⟨?_, ?_, ?_⟩
  · by_cases breaks : ∃ s, IsStart Q start s ∧ Breaks Q strict plan s
    · rw [(run_of_holds holds proper on compiled given).1 (on_strict ▸ breaks),
        (run_of_holds holds proper off compiled given).1 (off_strict ▸ breaks)]
    · have sound : ∀ s, IsStart Q start s → ¬ Breaks Q strict plan s := fun s starts broken =>
        breaks ⟨s, starts, broken⟩
      obtain ⟨quads, -, e, -, outcome, -, -, ran, -⟩ :=
        run_sound holds proper compiled given started on (on_strict ▸ sound)
      obtain ⟨quads', -, e', -, outcome', -, -, ran', -⟩ :=
        run_sound holds proper compiled given started off (off_strict ▸ sound)
      rw [on_strict] at outcome
      rw [off_strict, outcome] at outcome'
      rw [ran, ran', Option.some.inj (Except.ok.inj outcome')]
  · intro sound
    obtain ⟨quads, made, e, one, -, members, demanded, ran, books, single, books₁⟩ :=
      run_sound holds proper compiled given started on (on_strict ▸ sound)
    obtain ⟨quads', made', e', one', -, -, demanded', ran', books', single', books₁'⟩ :=
      run_sound holds proper compiled given started off (off_strict ▸ sound)
    rw [on_strict] at demanded members single
    rw [off_strict] at demanded' single'
    refine ⟨⟨quads, by rw [ran], members⟩, ?_, ?_, subjects, started, ?_⟩
    · rw [ran, books.lookups_cached cached, ← demanded]
      rfl
    · rw [ran', books'.lookups_plain plain, ← demanded']
      rfl
    · have both : e.lookups = one.lookups := by
        rw [books.lookups_cached cached, books₁.lookups_cached cached]
      have both' : e'.lookups = one'.lookups := by
        rw [books'.lookups_plain plain, books₁'.lookups_plain plain]
      refine List.forall_mem_cons.2 ⟨⟨quads, one, single, by rw [ran], by rw [ran, both]⟩, ?_⟩
      exact List.forall_mem_singleton.2 ⟨quads', one', single', by rw [ran'], by rw [ran', both']⟩
  · intro s subject rejects
    obtain ⟨made, e, demanded, ended, books⟩ :=
      evaluate_rejects holds proper compiled on subject (on_strict ▸ rejects)
    obtain ⟨made', e', demanded', ended', books'⟩ :=
      evaluate_rejects holds proper compiled off subject (off_strict ▸ rejects)
    rw [on_strict] at demanded
    rw [off_strict] at demanded'
    rw [ended, ended']
    refine ⟨rfl, ?_, rfl, ?_⟩
    · rw [books.lookups_cached cached]
      exact congrArg (fun m => (Multiset.toFinset m).card) demanded
    · rw [books'.lookups_plain plain]
      exact congrArg Multiset.card demanded'

end Engine

def bothWays : Plan := [.nested (.iri "p") [.property (.iri "p")], .recursive (.iri "p")]

theorem caching_of_bothWays :
    (∀ q ∈ circle.quads.toFinset, q.isProper = true) ∧ areCompiled bothWays = true ∧
    ((Graph.set circle).source.demands circle.quads.toFinset false bothWays
      (some (.iri "a"))).toFinset.card = 2 ∧
    ((Graph.set circle).source.demands circle.quads.toFinset false bothWays (some (.iri "a"))).card = 4 := by
  have proper : ∀ q ∈ circle.quads.toFinset, q.isProper = true := by decide
  have compiled : areCompiled bothWays = true := by decide
  have given : ∀ s ∈ some (Term.iri "a"), s.isProper = true := by decide
  have cached : ({} : LookupSettings).cached.truthy = true := by decide
  have plain : ({ cached := .bool false } : LookupSettings).cached.truthy = false := by decide
  have returned : (({} : Engine).run (Graph.set circle).source bothWays
      (some (.iri "a"))).1.toOption.isSome = true := by decide +kernel
  have two : (({} : Engine).run (Graph.set circle).source bothWays (some (.iri "a"))).2.lookups = 2 := by
    decide +kernel
  have four : (({ settings := { cached := .bool false } } : Engine).run (Graph.set circle).source bothWays
      (some (.iri "a"))).2.lookups = 4 := by decide +kernel
  have sound : ∀ s, IsStart circle.quads.toFinset (some (.iri "a")) s →
      ¬ Breaks circle.quads.toFinset false bothWays s := by
    intro s starts breaks
    have failed :=
      (Engine.run_of_holds (holds_set circle) proper {} compiled given).1 ⟨s, starts, breaks⟩
    rw [failed] at returned
    cases returned
  obtain ⟨-, counts, -⟩ :=
    Engine.caching_transparent (holds_set circle) proper cached plain rfl rfl compiled given
  obtain ⟨-, once, often, -⟩ := counts sound
  exact ⟨proper, compiled, once.symm.trans two, often.symm.trans four⟩

end QuadPull.Pull
