import QuadPull.Proofs.Selection

namespace QuadPull.Pull

def Finds (accepted : Prop) (selected : Quad → Prop) (finding : Finding) : Prop :=
  (accepted → ∃ quads, finding = some quads ∧ ∀ q, q ∈ quads ↔ selected q) ∧ (¬ accepted → finding = none)

theorem Finds.of_some {accepted : Prop} {selected : Quad → Prop} {finding : Finding} {quads : List Quad}
    (finds : Finds accepted selected finding) (found : finding = some quads) :
    accepted ∧ ∀ q, q ∈ quads ↔ selected q := by
  by_cases accepts : accepted
  · obtain ⟨others, same, members⟩ := finds.1 accepts
    obtain rfl := Option.some.inj (found.symm.trans same)
    exact ⟨accepts, members⟩
  · have none := finds.2 accepts
    rw [found] at none
    cases none

/-- What comes of an inquiry that makes proper lookups only: it fails because values are incomparable, or
has a finding. -/
structure Yields (find : Lookup → Answer) (i : Inquiry) (breaks accepted : Prop)
    (selected : Quad → Prop) : Prop where
  proper : ∀ l ∈ i.demands find, l.isProper = true
  fails : breaks → ∃ faults, i.outcome find = .error faults ∧ ∀ e ∈ faults.toList, e = .incomparable
  comes : ¬ breaks → ∃ finding, i.outcome find = .ok finding ∧ Finds accepted selected finding

section

variable {find : Lookup → Answer} {breaks accepted : Prop} {selected : Quad → Prop}

theorem Yields.incomparable {i : Inquiry} (yields : Yields find i breaks accepted selected) {faults : Faults}
    (failed : i.outcome find = .error faults) : ∀ e ∈ faults.toList, e = .incomparable := by
  by_cases why : breaks
  · obtain ⟨others, outcome, incomparable⟩ := yields.fails why
    obtain rfl := Except.error.inj (outcome.symm.trans failed)
    exact incomparable
  · obtain ⟨finding, outcome, -⟩ := yields.comes why
    rw [failed] at outcome
    cases outcome

theorem Yields.congr {i : Inquiry} {others : Quad → Prop} (yields : Yields find i False accepted others)
    (sound : ¬ breaks) (same : ∀ q, others q ↔ selected q) : Yields find i breaks accepted selected where
  proper := yields.proper
  fails := fun broken => absurd broken sound
  comes := by
    intro _
    have equal : others = selected := funext fun q => propext (same q)
    exact equal ▸ yields.comes not_false

theorem yields_done {finding : Finding} (sound : ¬ breaks) (finds : Finds accepted selected finding) :
    Yields find (.done (.ok finding)) breaks accepted selected where
  proper := by simp [Inquiry.demands_done]
  fails := fun broken => absurd broken sound
  comes := fun _ => ⟨finding, rfl, finds⟩

theorem yields_failed (broken : breaks) :
    Yields find (.done (.error .incomparable)) breaks accepted selected where
  proper := by simp [Inquiry.demands_done]
  fails := fun _ => ⟨{ first := .incomparable }, rfl, by simp [Faults.toList]⟩
  comes := fun sound => absurd broken sound

theorem yields_found {quads : List Quad} (sound : ¬ breaks) (accepts : accepted)
    (members : ∀ q, q ∈ quads ↔ selected q) : Yields find (found quads) breaks accepted selected :=
  yields_done sound ⟨fun _ => ⟨quads, rfl, members⟩, fun rejects => absurd accepts rejects⟩

theorem yields_ask {Q : Finset Quad} (serves : Serves find Q) {l : Lookup} (proper : l.isProper = true)
    {next : List Quad → Inquiry}
    (rest : ∀ quads, (∀ q, q ∈ quads ↔ q ∈ Q ∧ q.subject = l.subject ∧ ∀ p ∈ l.predicate, q.predicate = p) →
      Yields find (next quads) breaks accepted selected) :
    Yields find (.ask l next) breaks accepted selected := by
  obtain ⟨quads, answered, members⟩ := serves l proper
  have later := rest quads members
  refine ⟨?_, ?_, ?_⟩
  · intro asked among
    rw [Inquiry.demands_ask answered] at among
    rcases List.mem_cons.1 among with rfl | among
    · exact proper
    · exact later.proper asked among
  · rw [Inquiry.outcome_ask answered]
    exact later.fails
  · rw [Inquiry.outcome_ask answered]
    exact later.comes

theorem findings_of_sound {ι : Type} {xs : List ι} {part : ι → Inquiry} {broken accepts : ι → Prop}
    {selects : ι → Quad → Prop} (parts : ∀ x ∈ xs, Yields find (part x) (broken x) (accepts x) (selects x))
    (sound : ∀ x ∈ xs, ¬ broken x) :
    ∃ finding : ι → Finding, (xs.map part).map (·.outcome find) = (xs.map finding).map .ok ∧
      ∀ x ∈ xs, Finds (accepts x) (selects x) (finding x) := by
  have each : ∀ x, ∃ finding, x ∈ xs → (part x).outcome find = .ok finding ∧
      Finds (accepts x) (selects x) finding := by
    intro x
    by_cases inXs : x ∈ xs
    · obtain ⟨finding, outcome, finds⟩ := (parts x inXs).comes (sound x inXs)
      exact ⟨finding, fun _ => ⟨outcome, finds⟩⟩
    · exact ⟨none, fun inXs' => absurd inXs' inXs⟩
  choose finding comes using each
  refine ⟨finding, ?_, fun x inXs => (comes x inXs).2⟩
  rw [List.map_map, List.map_map]
  exact List.map_congr_left fun x inXs => (comes x inXs).1

/-- Several inquiries made together fail when one of them does, and go on with what they find otherwise. -/
theorem yields_gather {ι : Type} {xs : List ι} {part : ι → Inquiry} {broken accepts : ι → Prop}
    {selects : ι → Quad → Prop} {next : List Finding → Inquiry}
    (parts : ∀ x ∈ xs, Yields find (part x) (broken x) (accepts x) (selects x))
    (early : ∀ x ∈ xs, broken x → breaks)
    (rest : (∀ x ∈ xs, ¬ broken x) → ∀ finding : ι → Finding,
      (∀ x ∈ xs, Finds (accepts x) (selects x) (finding x)) →
        Yields find (next (xs.map finding)) breaks accepted selected) :
    Yields find (.gather (xs.map part) next) breaks accepted selected := by
  have parts_proper : ∀ l ∈ (xs.map part).flatMap (·.demands find), l.isProper = true := by
    intro l among
    obtain ⟨i, member, asked⟩ := List.mem_flatMap.1 among
    obtain ⟨x, inXs, rfl⟩ := List.mem_map.1 member
    exact (parts x inXs).proper l asked
  -- One part that fails ends the inquiry, with the faults of all parts that fail.
  by_cases any : ∃ x ∈ xs, broken x
  · obtain ⟨x, inXs, breaking⟩ := any
    obtain ⟨fault, failed, -⟩ := (parts x inXs).fails breaking
    obtain ⟨⟨faults, outcome, members⟩, demands⟩ :=
      Inquiry.gather_fails next (List.mem_map_of_mem inXs) failed
    refine ⟨by rwa [demands], fun _ => ⟨faults, outcome, ?_⟩, fun sound => absurd (early x inXs breaking) sound⟩
    intro e held
    obtain ⟨i, member, own, failed, inOwn⟩ := members e held
    obtain ⟨y, inYs, rfl⟩ := List.mem_map.1 member
    exact (parts y inYs).incomparable failed e inOwn
  · have sound : ∀ x ∈ xs, ¬ broken x := fun x inXs broken => any ⟨x, inXs, broken⟩
    obtain ⟨finding, outcomes, finds⟩ := findings_of_sound parts sound
    have later := rest sound finding finds
    refine ⟨?_, ?_, ?_⟩
    · intro l among
      rw [Inquiry.demands_gather outcomes, List.mem_append] at among
      rcases among with among | among
      · exact parts_proper l among
      · exact later.proper l among
    · rw [Inquiry.outcome_gather outcomes]
      exact later.fails
    · rw [Inquiry.outcome_gather outcomes]
      exact later.comes

end

variable {strict : Bool} {rounds : Nat}

theorem mem_constraints {plan : Plan} {f : Term × Value} :
    f ∈ (Plan.filters plan strict).filterMap Spec.constraint? ↔ Required strict plan f.1 f.2 := by
  rw [List.mem_filterMap]
  refine ⟨?_, ?_⟩
  · intro held
    obtain ⟨spec, among, found⟩ := held
    obtain ⟨p, v, rfl, required⟩ := mem_filters_iff.1 among
    cases found
    exact required
  · intro required
    exact ⟨.constraint f.1 f.2, mem_filters_iff.2 ⟨_, _, rfl, required⟩, rfl⟩

section

variable {ι : Type} {xs : List ι} {selects : ι → Quad → Prop} {finding : ι → Finding}
  (finds : ∀ x ∈ xs, Finds True (selects x) (finding x))
include finds

theorem mem_allFound {q : Quad} :
    (∃ quads ∈ allFound (xs.map finding), q ∈ quads) ↔ ∃ x ∈ xs, selects x q := by
  rw [allFound, List.map_map]
  refine ⟨?_, ?_⟩
  · intro held
    obtain ⟨quads, list, member⟩ := held
    obtain ⟨x, inXs, rfl⟩ := List.mem_map.1 list
    obtain ⟨quads, found, members⟩ := (finds x inXs).1 trivial
    rw [Function.comp, found] at member
    exact ⟨x, inXs, (members q).1 member⟩
  · intro held
    obtain ⟨x, inXs, selected⟩ := held
    obtain ⟨quads, found, members⟩ := (finds x inXs).1 trivial
    refine ⟨quads, List.mem_map.2 ⟨x, inXs, ?_⟩, (members q).2 selected⟩
    rw [Function.comp, found, Option.getD_some]

theorem any_isEmpty_allFound :
    (allFound (xs.map finding)).any List.isEmpty = true ↔ ∃ x ∈ xs, ∀ q, ¬ selects x q := by
  rw [allFound, List.map_map, List.any_eq_true]
  refine ⟨?_, ?_⟩
  · intro held
    obtain ⟨quads, list, empty⟩ := held
    obtain ⟨x, inXs, rfl⟩ := List.mem_map.1 list
    obtain ⟨quads, found, members⟩ := (finds x inXs).1 trivial
    rw [Function.comp, found, Option.getD_some, List.isEmpty_iff] at empty
    refine ⟨x, inXs, fun q selected => ?_⟩
    have member := (members q).2 selected
    rw [empty] at member
    cases member
  · intro held
    obtain ⟨x, inXs, none⟩ := held
    obtain ⟨quads, found, members⟩ := (finds x inXs).1 trivial
    refine ⟨quads, List.mem_map.2 ⟨x, inXs, ?_⟩, ?_⟩
    · rw [Function.comp, found, Option.getD_some]
    · rw [List.isEmpty_iff, List.eq_nil_iff_forall_not_mem]
      exact fun q member => none q ((members q).1 member)

end

def others (plan : Plan) (strict : Bool) : List Spec :=
  plan.filter fun spec => !Plan.filtersBy plan strict spec

theorem mem_cases {plan : Plan} {spec : Spec} : spec ∈ plan ↔
    (∃ p v, spec = .constraint p v ∧ Required strict plan p v) ∨ spec ∈ others plan strict := by
  rw [← mem_filters_iff, Plan.filters, others, List.mem_filter, List.mem_filter, ← and_or_left]
  cases Plan.filtersBy plan strict spec <;> simp

theorem contributions_eq (plan specs : List Spec) (s : Term) : contributions strict rounds plan specs s =
    (specs.filter fun spec => !Plan.filtersBy plan strict spec).map fun spec =>
      contribution strict rounds spec s := by
  induction specs with
  | nil => simp [contributions]
  | cons spec rest ih =>
    rw [contributions, List.filter_cons]
    by_cases filters : Plan.filtersBy plan strict spec = true
    · simp [filters, ih]
    · simp [filters, ih]

theorem contributions_self (plan : Plan) (s : Term) : contributions strict rounds plan plan s =
    (others plan strict).map fun spec => contribution strict rounds spec s := contributions_eq plan plan s

theorem not_accepts_iff {Q : Finset Quad} {plan : Plan} {s : Term} : ¬ Accepts Q strict plan s ↔
    ∃ f ∈ (Plan.filters plan strict).filterMap Spec.constraint?,
      ∀ q, ¬ (q ∈ Q ∧ q.subject = s ∧ q.predicate = f.1 ∧ satisfies q.object f.2 = true) := by
  refine ⟨?_, ?_⟩
  · intro refuses
    by_contra all
    refine refuses fun p v required => ?_
    by_contra none
    refine all ⟨(p, v), mem_constraints.2 required, ?_⟩
    intro q held
    obtain ⟨member, satisfying⟩ := held
    exact none ⟨q, member, satisfying⟩
  · intro held accepts
    obtain ⟨f, among, none⟩ := held
    obtain ⟨q, member, satisfying⟩ := accepts f.1 f.2 (mem_constraints.1 among)
    exact none q ⟨member, satisfying⟩

theorem offersAny_cases {Q : Finset Quad} {plan : Plan} {s : Term} {q : Quad} :
    OffersAny Q strict plan s q ↔
      (∃ p v, Required strict plan p v ∧
        q ∈ Q ∧ q.subject = s ∧ q.predicate = p ∧ satisfies q.object v = true) ∨
      ∃ spec ∈ others plan strict, Offers Q strict spec s q := by
  rw [offersAny_iff]
  refine ⟨?_, ?_⟩
  · intro held
    obtain ⟨spec, member, offered⟩ := held
    rcases mem_cases.1 member with ⟨p, v, rfl, required⟩ | other
    · rw [Offers] at offered
      exact .inl ⟨p, v, required, offered⟩
    · exact .inr ⟨spec, other, offered⟩
  · intro held
    rcases held with ⟨p, v, required, offered⟩ | ⟨spec, other, offered⟩
    · exact ⟨.constraint p v, required.1, by rwa [Offers]⟩
    · exact ⟨spec, mem_cases.2 (.inr other), offered⟩

theorem stumblesAny_cases {Q : Finset Quad} {plan : Plan} {s : Term} :
    StumblesAny Q strict plan s ↔ ∃ spec ∈ others plan strict, Stumbles Q strict spec s := by
  rw [stumblesAny_iff]
  refine ⟨?_, ?_⟩
  · intro held
    obtain ⟨spec, member, stumbles⟩ := held
    rcases mem_cases.1 member with ⟨p, v, rfl, -⟩ | other
    · rw [Stumbles] at stumbles
      exact stumbles.elim
      all_goals simp
    · exact ⟨spec, other, stumbles⟩
  · intro held
    obtain ⟨spec, other, stumbles⟩ := held
    exact ⟨spec, mem_cases.2 (.inr other), stumbles⟩

section

variable {Q : Finset Quad} (proper : ∀ q ∈ Q, q.isProper = true)
include proper

theorem mem_distinct {quads : List Quad} (within : ∀ q ∈ quads, q ∈ Q) {q : Quad} :
    q ∈ Distinct.ofList Quad.settled quads ↔ q ∈ quads := by
  refine Distinct.mem_ofList ?_
  intro r member same
  exact (Quad.eq_of_settled_eq (proper r (within r member)) same.symm).symm

theorem mem_distinct_union {lists : List (List Quad)} (within : ∀ quads ∈ lists, ∀ q ∈ quads, q ∈ Q)
    {q : Quad} : q ∈ Distinct.union Quad.settled lists ↔ ∃ quads ∈ lists, q ∈ quads := by
  refine Distinct.mem_union ?_
  intro quads list r member same
  exact (Quad.eq_of_settled_eq (proper r (within quads list r member)) same.symm).symm

variable {find : Lookup → Answer} (serves : Serves find Q)
include serves

theorem listed_yields {l : Lookup} (lookup : l.isProper = true) :
    Yields find (.ask l fun quads => found (Distinct.ofList Quad.settled quads)) False True
      (fun q => q ∈ Q ∧ q.subject = l.subject ∧ ∀ p ∈ l.predicate, q.predicate = p) := by
  refine yields_ask serves lookup ?_
  intro quads members
  refine yields_found not_false trivial ?_
  intro q
  rw [mem_distinct proper fun r among => ((members r).1 among).1, members]

theorem constrained_yields {p s : Term} (along : p.isProper = true) (start : s.isProper = true) (v : Value) :
    Yields find (constrained p v s) False True
      (fun q => q ∈ Q ∧ q.subject = s ∧ q.predicate = p ∧ satisfies q.object v = true) := by
  have lookup : (⟨s, some p⟩ : Lookup).isProper = true := by
    simp [Lookup.isProper, start, along]
  refine yields_ask serves lookup ?_
  intro quads members
  refine yields_found not_false trivial ?_
  intro q
  have within : ∀ q ∈ quads.filter fun q => satisfies q.object v, q ∈ Q := fun q among =>
    ((members q).1 (List.mem_of_mem_filter among)).1
  rw [mem_distinct proper within, List.mem_filter, members]
  simp [and_assoc]

theorem filters_yield (strict : Bool) {plan : Plan} (compiled : areCompiled plan = true) {s : Term}
    (start : s.isProper = true) :
    ∀ f ∈ (Plan.filters plan strict).filterMap Spec.constraint?,
      Yields find (constrained f.1 f.2 s) False True
        (fun q => q ∈ Q ∧ q.subject = s ∧ q.predicate = f.1 ∧ satisfies q.object f.2 = true) := by
  intro f among
  have required := mem_constraints.1 among
  exact constrained_yields proper serves
    (isProper_of_isCompiled (isCompiled_of_mem compiled _ required.1) rfl) start f.2

omit proper serves in
theorem rejects_iff {plan : Plan} {s : Term} {finding : Term × Value → Finding}
    (finds : ∀ f ∈ (Plan.filters plan strict).filterMap Spec.constraint?,
      Finds True (fun q => q ∈ Q ∧ q.subject = s ∧ q.predicate = f.1 ∧ satisfies q.object f.2 = true)
        (finding f)) :
    (allFound (((Plan.filters plan strict).filterMap Spec.constraint?).map finding)).any List.isEmpty = true ↔
      ¬ Accepts Q strict plan s := by
  rw [any_isEmpty_allFound finds, not_accepts_iff]

section

variable {plan : Plan} {s : Term}
  (parts : ∀ spec ∈ plan, Yields find (contribution strict rounds spec s)
    (Stumbles Q strict spec s) True (Offers Q strict spec s))
include parts

omit serves in
theorem accepting_yields (accepts : Accepts Q strict plan s) {filtered : List (List Quad)}
    (members : ∀ q, (∃ quads ∈ filtered, q ∈ quads) ↔ ∃ p v, Required strict plan p v ∧
      q ∈ Q ∧ q.subject = s ∧ q.predicate = p ∧ satisfies q.object v = true) :
    Yields find
      (match Plan.tellApart [] (Plan.filters plan strict) with
      | .error e => .done (.error e)
      | .ok () => .gather (contributions strict rounds plan plan s) fun contributed =>
          found (Distinct.union Quad.settled (filtered ++ allFound contributed)))
      (Breaks Q strict plan s) (Accepts Q strict plan s) (OffersAny Q strict plan s) := by
  -- The other specifiers are looked up only once the filters are told apart: a clash ends the level
  -- whatever the others would have found.
  rcases Plan.tellApart_iff (Plan.filters plan strict) with ⟨told, apart⟩ | ⟨failed, clash⟩
  · rw [told, contributions_self]
    refine yields_gather (fun spec other => parts spec (mem_cases.2 (.inr other))) ?_ ?_
    · intro spec other stumbles
      exact ⟨accepts, .inr (stumblesAny_cases.2 ⟨spec, other, stumbles⟩)⟩
    · intro sound finding finds
      refine yields_found ?_ accepts ?_
      · intro held
        rcases held with ⟨-, clash | stumbles⟩
        · exact apart clash
        · obtain ⟨spec, other, stumbles⟩ := stumblesAny_cases.1 stumbles
          exact sound spec other stumbles
      · intro q
        have within : ∀ quads ∈ filtered ++ allFound ((others plan strict).map finding),
            ∀ r ∈ quads, r ∈ Q := by
          intro quads list r member
          rcases List.mem_append.1 list with old | new
          · obtain ⟨p, v, -, stored, -⟩ := (members r).1 ⟨quads, old, member⟩
            exact stored
          · obtain ⟨spec, -, offered⟩ := (mem_allFound finds).1 ⟨quads, new, member⟩
            exact mem_of_offers offered
        rw [mem_distinct_union proper within, offersAny_cases, ← members, ← mem_allFound finds]
        simp only [List.mem_append, or_and_right, exists_or]
  · rw [failed]
    exact yields_failed ⟨accepts, .inl clash⟩

theorem level_yields (compiled : areCompiled plan = true) (start : s.isProper = true) :
    Yields find (level strict plan (contributions strict rounds plan plan s) s)
      (Breaks Q strict plan s) (Accepts Q strict plan s) (OffersAny Q strict plan s) := by
  refine yields_gather (filters_yield proper serves strict compiled start) (fun _ _ => False.elim) ?_
  intro _ finding finds
  have rejects := rejects_iff finds
  by_cases accepts : Accepts Q strict plan s
  · rw [if_neg (mt rejects.1 (not_not_intro accepts))]
    refine accepting_yields proper parts accepts ?_
    intro q
    rw [mem_allFound finds]
    refine ⟨?_, ?_⟩
    · intro held
      obtain ⟨f, among, selected⟩ := held
      exact ⟨f.1, f.2, mem_constraints.1 among, selected⟩
    · intro held
      obtain ⟨p, v, required, selected⟩ := held
      exact ⟨(p, v), mem_constraints.2 required, selected⟩
  · rw [if_pos (rejects.2 accepts)]
    exact yields_done (fun breaks => accepts breaks.1) ⟨fun accepts' => absurd accepts' accepts, fun _ => rfl⟩

end

omit serves in
theorem mem_keepLinks {links : List Quad} {accepts : Quad → Prop} {selects : Quad → Quad → Prop}
    {finding : Quad → Finding} (stored : ∀ link ∈ links, link ∈ Q)
    (within : ∀ link ∈ links, ∀ q, selects link q → q ∈ Q)
    (finds : ∀ link ∈ links, Finds (accepts link) (selects link) (finding link)) {q : Quad} :
    q ∈ keepLinks links (links.map finding) ↔
      ∃ link ∈ links, accepts link ∧ (q = link ∨ selects link q) := by
  have paired : links.zip (links.map finding) = links.map fun link => (link, finding link) := by
    rw [List.zip, List.zipWith_map_right, List.zipWith_self]
  have kept : ∀ quads, quads ∈ (links.zip (links.map finding)).filterMap (fun f => f.2.map (f.1 :: ·)) ↔
      ∃ link ∈ links, ∃ found, finding link = some found ∧ link :: found = quads := by
    intro quads
    simp [paired]
  have sound : ∀ quads ∈ (links.zip (links.map finding)).filterMap (fun f => f.2.map (f.1 :: ·)),
      ∀ r ∈ quads, r ∈ Q := by
    intro quads list r member
    obtain ⟨link, among, found, found_eq, rfl⟩ := (kept quads).1 list
    rcases List.mem_cons.1 member with rfl | member
    · exact stored _ among
    · exact within link among r ((((finds link among).of_some found_eq).2 r).1 member)
  rw [keepLinks, mem_distinct_union proper sound]
  refine ⟨?_, ?_⟩
  · intro held
    obtain ⟨quads, list, member⟩ := held
    obtain ⟨link, among, found, found_eq, rfl⟩ := (kept quads).1 list
    obtain ⟨accepted, members⟩ := (finds link among).of_some found_eq
    rw [List.mem_cons, members] at member
    exact ⟨link, among, accepted, member⟩
  · intro held
    obtain ⟨link, among, accepted, here⟩ := held
    obtain ⟨found, found_eq, members⟩ := (finds link among).1 accepted
    refine ⟨link :: found, (kept _).2 ⟨link, among, found, found_eq, rfl⟩, ?_⟩
    rw [List.mem_cons, members]
    exact here

theorem nested_yields {p : Term} {plan : Plan} (along : p.isProper = true)
    (inner : areCompiled plan = true) {s : Term} (start : s.isProper = true)
    (parts : ∀ spec ∈ plan, ∀ {t : Term}, t.isProper = true → Yields find (contribution strict rounds spec t)
      (Stumbles Q strict spec t) True (Offers Q strict spec t)) :
    Yields find (contribution strict rounds (.nested p plan) s) (Stumbles Q strict (.nested p plan) s) True
      (Offers Q strict (.nested p plan) s) := by
  have lookup : (⟨s, some p⟩ : Lookup).isProper = true := by
    simp [Lookup.isProper, start, along]
  rw [contribution]
  refine yields_ask serves lookup ?_
  intro links members
  have stored : ∀ link ∈ links, link ∈ Q := fun link among => ((members link).1 among).1
  have followed : ∀ link, link ∈ links ↔ link ∈ Q ∧ link.subject = s ∧ link.predicate = p := by
    simpa using members
  have levels : ∀ link ∈ links,
      Yields find (level strict plan (contributions strict rounds plan plan link.object) link.object)
        (Breaks Q strict plan link.object) (Accepts Q strict plan link.object)
        (OffersAny Q strict plan link.object) := by
    intro link among
    have object := (Quad.isProper_iff.1 (proper link (stored link among))).2.2.1
    exact level_yields proper serves (fun spec member => parts spec member object) inner object
  refine yields_gather levels ?_ ?_
  · intro link among breaks
    obtain ⟨member, subject, along⟩ := (followed link).1 among
    rw [Stumbles]
    exact ⟨link, member, subject, along, breaks⟩
  · intro sound finding finds
    refine yields_found ?_ trivial ?_
    · rw [Stumbles]
      intro held
      obtain ⟨link, member, subject, along, breaks⟩ := held
      exact sound link ((followed link).2 ⟨member, subject, along⟩) breaks
    · intro q
      rw [mem_keepLinks proper stored (fun _ _ q => mem_of_offersAny) finds, Offers]
      simp only [followed, and_assoc]

theorem recursive_yields (enough : Q.card < rounds) {p s : Term} (along : p.isProper = true)
    (start : s.isProper = true) :
    Yields find (contribution strict rounds (.recursive p) s) False True
      (fun q => q ∈ Q ∧ q.predicate = p ∧ Reaches Q p s q.subject) := by
  obtain ⟨n, asked, last, few, runs, explored, idle⟩ := Search.exhausts proper serves along start
  obtain ⟨outcome, demands⟩ := runs.contribution start strict (Nat.le_trans few enough)
  refine ⟨?_, False.elim, fun _ => ⟨some last.quads, outcome, ?_⟩⟩
  · rw [demands]
    intro l among
    obtain ⟨t, member, rfl⟩ := List.mem_map.1 among
    have reached : t.isProper = true := ((explored.asked_iff idle).1 member).isProper proper start
    simp [Lookup.isProper, reached, along]
  · exact ⟨fun _ => ⟨last.quads, rfl, fun q => explored.selected_iff idle⟩, fun none => absurd trivial none⟩

/-- What a specifier contributes is what it offers, at every depth of its plan. -/
theorem contribution_yields (enough : Q.card < rounds) : ∀ {spec : Spec}, isCompiled spec = true →
    ∀ {s : Term}, s.isProper = true → Yields find (contribution strict rounds spec s)
      (Stumbles Q strict spec s) True (Offers Q strict spec s)
  | .property p, compiled, s, start => by
    have lookup : (⟨s, some p⟩ : Lookup).isProper = true := by
      simp [Lookup.isProper, start, isProper_of_isCompiled compiled rfl]
    rw [contribution]
    exact (listed_yields proper serves lookup).congr (by simp [Stumbles]) fun q => by simp [Offers]
  | .wildcard, _, s, start => by
    have lookup : (⟨s, none⟩ : Lookup).isProper = true := by
      simp [Lookup.isProper, start]
    rw [contribution]
    exact (listed_yields proper serves lookup).congr (by simp [Stumbles]) fun q => by simp [Offers]
  | .constraint p v, compiled, s, start => by
    have along := isProper_of_isCompiled compiled (p := p) rfl
    rw [contribution]
    exact (constrained_yields proper serves along start v).congr (by simp [Stumbles]) fun q => by rw [Offers]
  | .nested p plan, compiled, s, start => by
    have along := isProper_of_isCompiled compiled (p := p) rfl
    have inner := areCompiled_of_nested compiled
    exact nested_yields proper serves along inner start fun spec member =>
      contribution_yields enough (isCompiled_of_mem inner spec member)
  | .recursive p, compiled, s, start => by
    have along := isProper_of_isCompiled compiled (p := p) rfl
    exact (recursive_yields proper serves enough along start).congr (by simp [Stumbles]) fun q => by rw [Offers]
  | .raw item, compiled, _, _ => by cases compiled
termination_by spec => sizeOf spec
decreasing_by
  -- Only a nested plan calls for the theorem again, at the specifiers that it has.
  have smaller := List.sizeOf_lt_of_mem member
  simp only [Spec.nested.sizeOf_spec]
  omega

end

end QuadPull.Pull
