import Mathlib.Data.Multiset.Bind
import QuadPull.Proofs.Outcome
/-!
The lookups that a plan demands, said without an order of evaluation and without a store that is asked: as
often as its specifiers need them, and none at a level beyond its filters when the subject is rejected. An
inquiry makes just the lookups that its plan demands.
-/

namespace QuadPull.Pull

structure Tells (find : Lookup → Answer) (answers : Lookup → List Quad) (Q : Finset Quad) : Prop where
  told : ∀ l : Lookup, l.isProper = true → find l = .ok (answers l)
  members : ∀ l : Lookup, l.isProper = true →
    ∀ q, q ∈ answers l ↔ q ∈ Q ∧ q.subject = l.subject ∧ ∀ p ∈ l.predicate, q.predicate = p

theorem Tells.serves {find : Lookup → Answer} {answers : Lookup → List Quad} {Q : Finset Quad}
    (tells : Tells find answers Q) : Serves find Q :=
  fun l proper => ⟨answers l, tells.told l proper, tells.members l proper⟩

def listed (find : Lookup → Answer) (l : Lookup) : List Quad := (find l).toOption.getD []

theorem Serves.tells {find : Lookup → Answer} {Q : Finset Quad} (serves : Serves find Q) :
    Tells find (listed find) Q := by
  have each : ∀ l : Lookup, l.isProper = true → find l = .ok (listed find l) ∧
      ∀ q, q ∈ listed find l ↔ q ∈ Q ∧ q.subject = l.subject ∧ ∀ p ∈ l.predicate, q.predicate = p := by
    intro l proper
    obtain ⟨quads, answered, members⟩ := serves l proper
    rw [listed, answered]
    exact ⟨rfl, members⟩
  exact ⟨fun l proper => (each l proper).1, fun l proper => (each l proper).2⟩

open Classical in
noncomputable def reachable (Q : Finset Quad) (p s : Term) : Finset Term :=
  (insert s (Q.image Quad.object)).filter fun t => Reaches Q p s t

theorem mem_reachable {Q : Finset Quad} {p s t : Term} : t ∈ reachable Q p s ↔ Reaches Q p s t := by
  classical
  rw [reachable, Finset.mem_filter, and_iff_right_iff_imp, Finset.mem_insert, Finset.mem_image]
  intro reaches
  cases reaches with
  | start => exact .inl rfl
  | onward member => exact .inr ⟨_, member, rfl⟩

def starting (Q : Finset Quad) : Option Term → Finset Term
  | some s => {s}
  | none => Q.image Quad.subject

theorem mem_starting {Q : Finset Quad} {start : Option Term} {s : Term} :
    s ∈ starting Q start ↔ IsStart Q start s := by
  cases start with
  | some t => exact Finset.mem_singleton
  | none => exact Finset.mem_image

namespace Demand

def ofFilters (strict : Bool) (plan : Plan) (s : Term) : List Lookup :=
  ((Plan.filters plan strict).filterMap Spec.constraint?).map fun f => ⟨s, some f.1⟩

section

variable (answers : Lookup → List Quad) (Q : Finset Quad) (strict : Bool)

open Classical in
/-- The lookups of a level at a subject, given those of its specifiers other than filters. A subject that is
rejected demands no others; neither does a level whose filters cannot be told apart. -/
noncomputable def ofLevel (plan : Plan) (others : Multiset Lookup) (s : Term) : Multiset Lookup :=
  ofFilters strict plan s +
    if Accepts Q strict plan s ∧ ¬ Plan.Clashes (Plan.filters plan strict) then others else 0

mutual

noncomputable def ofOthers (plan : Plan) : List Spec → Term → Multiset Lookup
  | [], _ => 0
  | spec :: rest, s =>
    if Plan.filtersBy plan strict spec then ofOthers plan rest s
    else ofSpec spec s + ofOthers plan rest s

noncomputable def ofSpec : Spec → Term → Multiset Lookup
  | .property p, s => {⟨s, some p⟩}
  | .wildcard, s => {⟨s, none⟩}
  | .constraint p _, s => {⟨s, some p⟩}
  | .nested p plan, s => {⟨s, some p⟩} + (answers ⟨s, some p⟩ : Multiset Quad).bind fun link =>
      ofLevel Q strict plan (ofOthers plan plan link.object) link.object
  | .recursive p, s => (reachable Q p s).val.map fun t => ⟨t, some p⟩
  | .raw _, _ => 0

end

noncomputable def ofPlan (plan : Plan) (s : Term) : Multiset Lookup :=
  ofLevel Q strict plan (ofOthers answers Q strict plan plan s) s

noncomputable def ofRun (plan : Plan) (start : Option Term) : Multiset Lookup :=
  (starting Q start).val.bind (ofPlan answers Q strict plan)

end

end Demand

noncomputable def Source.demands (source : Source) (Q : Finset Quad) (strict : Bool) (plan : Plan)
    (start : Option Term) : Multiset Lookup :=
  Demand.ofRun (listed source.find) Q strict plan start

theorem Demand.ofOthers_eq {answers : Lookup → List Quad} {Q : Finset Quad} {strict : Bool}
    (plan specs : List Spec) (s : Term) : Demand.ofOthers answers Q strict plan specs s =
      (specs.filter fun spec => !Plan.filtersBy plan strict spec : Multiset Spec).bind fun spec =>
        Demand.ofSpec answers Q strict spec s := by
  induction specs with
  | nil => rfl
  | cons spec rest ih =>
    rw [Demand.ofOthers, List.filter_cons]
    by_cases filters : Plan.filtersBy plan strict spec = true
    · simp [filters, ih]
    · simp [filters, ih, ← Multiset.cons_coe]

/-- Parts that are waited for last make all their lookups, whether or not one of them fails. -/
theorem Inquiry.demands_gather_found {find : Lookup → Answer} (parts : List Inquiry)
    (result : List Finding → List Quad) :
    (gather parts fun findings => found (result findings)).demands find =
      parts.flatMap (·.demands find) := by
  rw [← demands_pursueAll, demands, pursue]
  cases Faults.collect ((pursueAll find parts).map (·.outcome)) with
  | ok findings => simp [found, pursue]
  | error faults => rfl

theorem lookup_isProper {p s : Term} (along : p.isProper = true) (start : s.isProper = true) :
    (⟨s, some p⟩ : Lookup).isProper = true := by
  simp [Lookup.isProper, start, along]

section

variable {find : Lookup → Answer} {answers : Lookup → List Quad} {Q : Finset Quad} {strict : Bool}
  {rounds : Nat} (tells : Tells find answers Q) (proper : ∀ q ∈ Q, q.isProper = true)
include tells proper

omit proper in
theorem demands_ask_found {l : Lookup} (lookup : l.isProper = true) (result : List Quad → List Quad) :
    (Inquiry.ask l fun quads => found (result quads)).demands find = [l] := by
  rw [Inquiry.demands_ask (tells.told l lookup), found, Inquiry.demands_done]

theorem level_demands {plan : Plan} (compiled : areCompiled plan = true) {s : Term}
    (start : s.isProper = true) {parts : List Inquiry} {others : Multiset Lookup}
    (demanded : (parts.flatMap (·.demands find) : List Lookup) = others) :
    ((level strict plan parts s).demands find : Multiset Lookup) =
      Demand.ofLevel Q strict plan others s := by
  have filters := filters_yield proper tells.serves strict compiled start
  obtain ⟨finding, outcomes, finds⟩ := findings_of_sound filters fun _ _ => not_false
  have rejects := rejects_iff finds
  have asked : (((Plan.filters plan strict).filterMap Spec.constraint?).map fun f =>
      constrained f.1 f.2 s).flatMap (·.demands find) = Demand.ofFilters strict plan s := by
    rw [List.flatMap_map, Demand.ofFilters, List.map_eq_flatMap]
    refine List.flatMap_congr fun f among => ?_
    have required := mem_constraints.1 among
    have along := isProper_of_isCompiled (isCompiled_of_mem compiled _ required.1) (p := f.1) rfl
    exact demands_ask_found tells (lookup_isProper along start) _
  rw [level, Inquiry.demands_gather outcomes, asked, ← Multiset.coe_add, Demand.ofLevel]
  congr 1
  by_cases accepts : Accepts Q strict plan s
  · rw [if_neg (mt rejects.1 (not_not_intro accepts))]
    rcases Plan.tellApart_iff (Plan.filters plan strict) with ⟨told, apart⟩ | ⟨failed, clash⟩
    · rw [told, if_pos ⟨accepts, apart⟩]
      dsimp only
      rw [Inquiry.demands_gather_found, demanded]
    · rw [failed, if_neg fun both => both.2 clash, Inquiry.demands_done]
      rfl
  · rw [if_pos (rejects.2 accepts), if_neg fun both => accepts both.1, Inquiry.demands_done]
    rfl

omit tells proper in
theorem contributions_demand {plan : Plan} {s : Term}
    (each : ∀ spec ∈ plan, ((contribution strict rounds spec s).demands find : Multiset Lookup) =
      Demand.ofSpec answers Q strict spec s) :
    ((contributions strict rounds plan plan s).flatMap (·.demands find) : Multiset Lookup) =
      Demand.ofOthers answers Q strict plan plan s := by
  rw [Demand.ofOthers_eq, contributions_self, List.flatMap_map, ← Multiset.coe_bind, others]
  exact Multiset.bind_congr fun spec member =>
    each spec (List.mem_of_mem_filter (Multiset.mem_coe.1 member))

theorem recursion_demands (enough : Q.card < rounds) {p s : Term} (along : p.isProper = true)
    (start : s.isProper = true) :
    ((contribution strict rounds (.recursive p) s).demands find : Multiset Lookup) =
      (reachable Q p s).val.map fun t => ⟨t, some p⟩ := by
  obtain ⟨n, asked, last, few, runs, explored, idle⟩ := Search.exhausts proper tells.serves along start
  -- Search asks for every term just once, so that the order in which it asks does not count.
  have once : asked.Nodup := (List.nodup_append.1 explored.each).1
  have all : (asked : Multiset Term) = (reachable Q p s).val := by
    refine (Multiset.Nodup.ext (Multiset.coe_nodup.2 once) (reachable Q p s).nodup).2 fun t => ?_
    rw [Multiset.mem_coe, explored.asked_iff idle, Finset.mem_val, mem_reachable]
  rw [(runs.contribution start strict (Nat.le_trans few enough)).2, ← all]
  rfl

theorem contribution_demands (enough : Q.card < rounds) : ∀ {spec : Spec}, isCompiled spec = true →
    ∀ {s : Term}, s.isProper = true →
      ((contribution strict rounds spec s).demands find : Multiset Lookup) =
        Demand.ofSpec answers Q strict spec s
  | .property p, compiled, s, start => by
    have along := isProper_of_isCompiled compiled (p := p) rfl
    rw [contribution, demands_ask_found tells (lookup_isProper along start), Demand.ofSpec]
    rfl
  | .wildcard, _, s, start => by
    have lookup : (⟨s, none⟩ : Lookup).isProper = true := by
      simp [Lookup.isProper, start]
    rw [contribution, demands_ask_found tells lookup, Demand.ofSpec]
    rfl
  | .constraint p v, compiled, s, start => by
    have along := isProper_of_isCompiled compiled (p := p) rfl
    rw [contribution, constrained, demands_ask_found tells (lookup_isProper along start), Demand.ofSpec]
    rfl
  | .nested p plan, compiled, s, start => by
    have along := isProper_of_isCompiled compiled (p := p) rfl
    have inner := areCompiled_of_nested compiled
    have lookup := lookup_isProper along start
    have levels : ∀ link ∈ answers ⟨s, some p⟩,
        ((level strict plan (contributions strict rounds plan plan link.object) link.object).demands find :
          Multiset Lookup) =
        Demand.ofLevel Q strict plan (Demand.ofOthers answers Q strict plan plan link.object) link.object := by
      intro link among
      have stored := ((tells.members _ lookup link).1 among).1
      have object := (Quad.isProper_iff.1 (proper link stored)).2.2.1
      exact level_demands tells proper inner object
        (contributions_demand fun spec member =>
          contribution_demands enough (isCompiled_of_mem inner spec member) object)
    rw [contribution, Inquiry.demands_ask (tells.told _ lookup), Demand.ofSpec, Inquiry.demands_gather_found,
      List.flatMap_map, ← Multiset.cons_coe, ← Multiset.coe_bind, Multiset.singleton_add]
    exact congrArg _ (Multiset.bind_congr fun link among => levels link (Multiset.mem_coe.1 among))
  | .recursive p, compiled, s, start => by
    have along := isProper_of_isCompiled compiled (p := p) rfl
    rw [recursion_demands tells proper enough along start, Demand.ofSpec]
  | .raw item, compiled, _, _ => by cases compiled
termination_by spec => sizeOf spec
decreasing_by
  have smaller := List.sizeOf_lt_of_mem member
  simp only [Spec.nested.sizeOf_spec]
  omega

theorem evaluate_demands (enough : Q.card < rounds) {plan : Plan} (compiled : areCompiled plan = true)
    {s : Term} (start : s.isProper = true) :
    ((evaluate strict rounds plan s).demands find : Multiset Lookup) =
      Demand.ofPlan answers Q strict plan s :=
  level_demands tells proper compiled start (contributions_demand fun spec member =>
    contribution_demands tells proper enough (isCompiled_of_mem compiled spec member) start)

theorem select_demands (enough : Q.card < rounds) {plan : Plan} (compiled : areCompiled plan = true)
    {start : Option Term} {subjects : List Term} (each : subjects.Nodup)
    (members : ∀ s, s ∈ subjects ↔ IsStart Q start s)
    (subject_proper : ∀ s ∈ subjects, s.isProper = true) :
    ((select strict rounds plan subjects).demands find : Multiset Lookup) =
      Demand.ofRun answers Q strict plan start := by
  have all : (subjects : Multiset Term) = (starting Q start).val := by
    refine (Multiset.Nodup.ext (Multiset.coe_nodup.2 each) (starting Q start).nodup).2 fun s => ?_
    rw [Multiset.mem_coe, members, Finset.mem_val, mem_starting]
  rw [select, Inquiry.demands_gather_found, List.flatMap_map, ← Multiset.coe_bind, Demand.ofRun, ← all]
  exact Multiset.bind_congr fun s member =>
    evaluate_demands tells proper enough compiled (subject_proper s (Multiset.mem_coe.1 member))

end

namespace Engine

theorem nodup_of_starts {source : Source} {start : Option Term} {subjects : List Term}
    (started : starts source start = .ok subjects) : subjects.Nodup := by
  cases start with
  | some s =>
    obtain rfl : [s] = subjects := Except.ok.inj started
    exact List.nodup_singleton s
  | none =>
    cases listed : source.quads with
    | error fault => simp [starts, listed, bind, Except.bind] at started
    | ok quads =>
      obtain rfl : subjectsOf quads = subjects := by
        rw [starts, listed] at started
        exact Except.ok.inj started
      exact List.Nodup.of_map _ Distinct.each_ofList

theorem started_demands {source : Source} {Q : Finset Quad} (holds : source.Holds Q)
    (proper : ∀ q ∈ Q, q.isProper = true) {plan : Plan} (compiled : areCompiled plan = true)
    {start : Option Term} (given : ∀ s ∈ start, s.isProper = true) (strict : Bool) {subjects : List Term}
    (started : starts source start = .ok subjects) :
    ((select strict (source.bound + 1) plan subjects).demands source.find : Multiset Lookup) =
      source.demands Q strict plan start := by
  have members := mem_of_starts holds proper started
  have subject_proper : ∀ s ∈ subjects, s.isProper = true := fun s member =>
    ((members s).1 member).isProper proper given
  have enough : Q.card < source.bound + 1 := Nat.lt_succ_of_le holds.bound
  have once := nodup_of_starts started
  exact select_demands holds.find.tells proper enough compiled once members subject_proper

end Engine

end QuadPull.Pull
