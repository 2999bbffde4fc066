import QuadPull.Graph.SetGraph

namespace QuadPull

namespace Term

def isProper : Term → Bool
  | .loose _ => false
  | .quoted s p o g => s.isProper && p.isProper && o.isProper && g.isProper
  | _ => true

theorem settled_of_isProper {t : Term} (proper : t.isProper = true) : t.settled = t := by
  induction t with
  | quoted s p o g hs hp ho hg =>
    simp only [isProper, Bool.and_eq_true] at proper
    obtain ⟨⟨⟨s_proper, p_proper⟩, o_proper⟩, g_proper⟩ := proper
    rw [settled, hs s_proper, hp p_proper, ho o_proper, hg g_proper]
  | loose l => cases proper
  | _ => rfl

theorem hashable_of_isProper {t : Term} (proper : t.isProper = true) : t.hashable = true := by
  induction t with
  | quoted s p o g hs hp ho hg =>
    simp only [isProper, Bool.and_eq_true] at proper
    obtain ⟨⟨⟨s_proper, p_proper⟩, o_proper⟩, g_proper⟩ := proper
    simp [hashable, hs s_proper, hp p_proper, ho o_proper, hg g_proper]
  | loose l => cases proper
  | _ => rfl

theorem isProper_settled (t : Term) : t.settled.isProper = t.isProper := by
  induction t with
  | quoted s p o g hs hp ho hg => simp [settled, isProper, hs, hp, ho, hg]
  | _ => rfl

theorem eq_of_settled_eq {t u : Term} (proper : t.isProper = true) (same : u.settled = t.settled) :
    u = t := by
  have other : u.isProper = true := by rw [← isProper_settled, same, isProper_settled, proper]
  rw [← settled_of_isProper other, same, settled_of_isProper proper]

theorem same_iff {t u : Term} (proper : t.isProper = true) : t.same u = true ↔ t = u := by
  rw [Term.same, decide_eq_true_iff]
  constructor
  · intro same
    exact (eq_of_settled_eq proper same.symm).symm
  · exact congrArg settled

theorem given?_of_isProper {t : Term} (proper : t.isProper = true) : t.given? = some t := by
  cases t with
  | loose l => cases proper
  | _ => rfl

end Term

namespace Quad

def isProper (q : Quad) : Bool := q.terms.all Term.isProper

theorem isProper_iff {q : Quad} : q.isProper = true ↔ q.subject.isProper = true ∧
    q.predicate.isProper = true ∧ q.object.isProper = true ∧ q.graph.isProper = true := by
  simp [isProper, terms]

theorem settled_of_isProper {q : Quad} (proper : q.isProper = true) : q.settled = q := by
  obtain ⟨subject, predicate, object, graph⟩ := isProper_iff.1 proper
  rw [settled, Term.settled_of_isProper subject, Term.settled_of_isProper predicate,
    Term.settled_of_isProper object, Term.settled_of_isProper graph]

theorem hashable_of_isProper {q : Quad} (proper : q.isProper = true) : q.hashable = true := by
  rw [hashable, List.all_eq_true]
  intro t member
  exact Term.hashable_of_isProper (List.all_eq_true.1 proper t member)

theorem eq_of_settled_eq {q r : Quad} (proper : q.isProper = true) (same : r.settled = q.settled) :
    r = q := by
  obtain ⟨subject, predicate, object, graph⟩ := isProper_iff.1 proper
  simp only [settled, mk.injEq] at same
  obtain ⟨s, p, o, g⟩ := same
  cases q
  cases r
  rw [mk.injEq]
  exact ⟨Term.eq_of_settled_eq subject s, Term.eq_of_settled_eq predicate p,
    Term.eq_of_settled_eq object o, Term.eq_of_settled_eq graph g⟩

end Quad

def Pattern.bound (p : Pattern) : List Term :=
  [p.subject, p.predicate, p.object, p.graph].filterMap id

theorem mem_subjectsOf {quads : List Quad} (proper : ∀ q ∈ quads, q.isProper = true) {s : Term} :
    s ∈ subjectsOf quads ↔ ∃ q ∈ quads, q.subject = s := by
  have apart : ∀ t ∈ quads.map (·.subject), t.settled = s.settled → t = s := by
    intro t member same
    obtain ⟨q, among, rfl⟩ := List.mem_map.1 member
    have subject := (Quad.isProper_iff.1 (proper q among)).1
    exact (Term.eq_of_settled_eq subject same.symm).symm
  rw [subjectsOf, Distinct.mem_ofList apart, List.mem_map]

end QuadPull
