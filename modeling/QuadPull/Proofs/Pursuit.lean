import Mathlib.Data.Finset.Dedup
import QuadPull.Graph.Basic
import QuadPull.Proofs.Proper

namespace QuadPull.Pull

def Lookup.isProper (l : Lookup) : Bool := l.subject.isProper && l.predicate.all Term.isProper

/-- A store that answers every proper lookup with the quads of a set that have its subject, and its
predicate when it has one. -/
def Serves (find : Lookup → Answer) (Q : Finset Quad) : Prop :=
  ∀ l : Lookup, l.isProper = true → ∃ quads, find l = .ok quads ∧
    ∀ q, q ∈ quads ↔ q ∈ Q ∧ q.subject = l.subject ∧ ∀ p ∈ l.predicate, q.predicate = p

theorem accepts_of_isProper {bound : Option Term} (proper : bound.all Term.isProper = true) (t : Term) :
    accepts bound t = true ↔ ∀ b ∈ bound, t = b := by
  cases bound with
  | none => simp
  | some b =>
    rw [accepts_some]
    simp only [Option.mem_some_iff, forall_eq']
    exact ⟨Term.eq_of_settled_eq proper, congrArg Term.settled⟩

theorem Lookup.bound_isProper {l : Lookup} (proper : l.isProper = true) :
    ∀ t ∈ ({ subject := l.subject.given?, predicate := l.predicate } : Pattern).bound, t.isProper = true := by
  rw [Lookup.isProper, Bool.and_eq_true] at proper
  obtain ⟨subject, predicate⟩ := proper
  intro t among
  have either : t = l.subject ∨ l.predicate = some t := by
    simpa [Pattern.bound, Term.given?_of_isProper subject, eq_comm] using among
  rcases either with same | along
  · exact same ▸ subject
  · rw [along] at predicate
    exact predicate

theorem Lookup.mem_filter {l : Lookup} (proper : l.isProper = true) {quads : List Quad} {q : Quad} :
    q ∈ quads.filter (Pattern.matchesQuad { subject := l.subject.given?, predicate := l.predicate }) ↔
      q ∈ quads ∧ q.subject = l.subject ∧ ∀ p ∈ l.predicate, q.predicate = p := by
  rw [Lookup.isProper, Bool.and_eq_true] at proper
  obtain ⟨subject, predicate⟩ := proper
  have bound : (some l.subject).all Term.isProper = true := subject
  rw [List.mem_filter, Term.given?_of_isProper subject]
  simp [Pattern.matchesQuad, accepts_of_isProper bound, accepts_of_isProper predicate]

theorem serves_set (g : SetGraph) : Serves (Graph.set g).source.find g.quads.toFinset := by
  intro l proper
  refine ⟨_, rfl, ?_⟩
  intro q
  rw [SetGraph.find, Lookup.mem_filter proper, List.mem_toFinset]

namespace Faults

variable {α : Type} {rs : List (Except Faults α)}

theorem exists_collect_error {f : Faults} (member : .error f ∈ rs) : ∃ faults, collect rs = .error faults := by
  cases collected : collect rs with
  | error faults => exact ⟨faults, rfl⟩
  | ok as =>
    rw [collect_eq_ok.1 collected] at member
    obtain ⟨a, -, same⟩ := List.mem_map.1 member
    cases same

theorem mem_of_collect_error {faults : Faults} (collected : collect rs = .error faults) :
    ∀ e ∈ faults.toList, ∃ f, .error f ∈ rs ∧ e ∈ f.toList := by
  induction rs generalizing faults with
  | nil => cases collected
  | cons r rest ih =>
    intro e held
    cases r with
    | ok a =>
      cases others : collect rest with
      | ok as => simp [collect, others, Except.map] at collected
      | error g =>
        obtain rfl : g = faults := by simpa [collect, others, Except.map] using collected
        obtain ⟨f, member, among⟩ := ih others e held
        exact ⟨f, List.mem_cons_of_mem _ member, among⟩
    | error f =>
      cases others : collect rest with
      | ok as =>
        obtain rfl : f = faults := by simpa [collect, others] using collected
        exact ⟨f, List.mem_cons_self, held⟩
      | error g =>
        obtain rfl : ⟨f.first, f.others ++ g.toList⟩ = faults := by simpa [collect, others] using collected
        have either : e ∈ f.toList ∨ e ∈ g.toList := by simpa [toList, or_assoc] using held
        rcases either with own | later
        · exact ⟨f, List.mem_cons_self, own⟩
        · obtain ⟨h, member, among⟩ := ih others e later
          exact ⟨h, List.mem_cons_of_mem _ member, among⟩

end Faults

namespace Inquiry

variable {find : Lookup → Answer}

theorem demands_done (result : Except Error Finding) : (done result).demands find = [] := by
  cases result <;> rfl

theorem outcome_ask {l : Lookup} {next : List Quad → Inquiry} {quads : List Quad}
    (answered : find l = .ok quads) : (ask l next).outcome find = (next quads).outcome find := by
  simp [outcome, pursue, answered]

theorem demands_ask {l : Lookup} {next : List Quad → Inquiry} {quads : List Quad}
    (answered : find l = .ok quads) : (ask l next).demands find = l :: (next quads).demands find := by
  simp [demands, pursue, answered]

variable {parts : List Inquiry} {next : List Finding → Inquiry} {findings : List Finding}

theorem outcomes_pursueAll (find : Lookup → Answer) (parts : List Inquiry) :
    (pursueAll find parts).map (·.outcome) = parts.map (·.outcome find) := by
  rw [pursueAll_eq_map, List.map_map]
  rfl

theorem demands_pursueAll (find : Lookup → Answer) (parts : List Inquiry) :
    ((pursueAll find parts).flatMap (·.asked)).map (·.1) = parts.flatMap (·.demands find) := by
  rw [pursueAll_eq_map, List.flatMap_map, List.map_flatMap]
  rfl

theorem collect_outcomes (found : parts.map (·.outcome find) = findings.map .ok) :
    Faults.collect ((pursueAll find parts).map (·.outcome)) = .ok findings := by
  rw [Faults.collect_eq_ok, outcomes_pursueAll, found]

theorem outcome_gather (found : parts.map (·.outcome find) = findings.map .ok) :
    (gather parts next).outcome find = (next findings).outcome find := by
  simp [outcome, pursue, collect_outcomes found]

theorem demands_gather (found : parts.map (·.outcome find) = findings.map .ok) :
    (gather parts next).demands find = parts.flatMap (·.demands find) ++ (next findings).demands find := by
  rw [← demands_pursueAll, demands, pursue, collect_outcomes found, List.map_append]
  rfl

/-- Parts of which one has faults leave the inquiry with faults of theirs, and it goes on no further. -/
theorem gather_fails (next : List Finding → Inquiry) {part : Inquiry} (member : part ∈ parts)
    {fault : Faults} (failed : part.outcome find = .error fault) :
    (∃ faults, (gather parts next).outcome find = .error faults ∧
      ∀ e ∈ faults.toList, ∃ part ∈ parts, ∃ own, part.outcome find = .error own ∧ e ∈ own.toList) ∧
    (gather parts next).demands find = parts.flatMap (·.demands find) := by
  have among : Except.error fault ∈ (pursueAll find parts).map (·.outcome) := by
    rw [outcomes_pursueAll]
    exact List.mem_map.2 ⟨part, member, failed⟩
  obtain ⟨faults, collected⟩ := Faults.exists_collect_error among
  refine ⟨?_, ?_⟩
  · refine ⟨faults, by simp [outcome, pursue, collected], ?_⟩
    intro e held
    obtain ⟨own, other, inOwn⟩ := Faults.mem_of_collect_error collected e held
    rw [outcomes_pursueAll] at other
    obtain ⟨part, inParts, failed⟩ := List.mem_map.1 other
    exact ⟨part, inParts, own, failed, inOwn⟩
  · rw [← demands_pursueAll, demands, pursue, collected]

theorem outcome_fetch {l : Lookup} {quads : List Quad} (answered : find l = .ok quads) :
    (fetch l).outcome find = .ok (some quads) := outcome_ask answered

theorem demands_fetch {l : Lookup} {quads : List Quad} (answered : find l = .ok quads) :
    (fetch l).demands find = [l] := demands_ask answered

end Inquiry

end QuadPull.Pull
