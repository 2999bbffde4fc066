import QuadPull.Proofs.Monotone
import QuadPull.Proofs.Outcome

namespace QuadPull.Pull

theorem card_subjects_lt {Q : Finset Quad} {link : Quad} (member : link ∈ Q) :
    ((Q.filter (·.subject ≠ link.subject)).image Quad.subject).card < (Q.image Quad.subject).card := by
  have gone : link.subject ∉ (Q.filter (·.subject ≠ link.subject)).image Quad.subject := by
    simp
  refine Finset.card_lt_card ⟨Finset.image_subset_image (Finset.filter_subset _ Q), ?_⟩
  intro inside
  exact gone (inside (Finset.mem_image_of_mem _ member))

def nestItems (p : Term) : Nat → List Value
  | 0 => [.term p]
  | k + 1 => [.tuple [.term p, .list (nestItems p k)]]

def nest (p : Term) (k : Nat) : Value := .list (nestItems p k)

def nestPlan (p : Term) : Nat → Plan
  | 0 => [.property p]
  | k + 1 => [.nested p (nestPlan p k)]

def follow (p : Term) : Value := .list [.tuple [.term p, .text onwardMark]]

theorem compileItems_nest (value : String) (k : Nat) :
    compileItems (nestItems (.iri value) k) = .ok (nestPlan (.iri value) k) := by
  induction k with
  | zero => rfl
  | succ k ih =>
    rw [nestItems, compileItems, compileItem, compilePair, ih]
    rfl

theorem compile_nest (value : String) (k : Nat) :
    compile (nest (.iri value) k) = .ok (nestPlan (.iri value) k) := by
  rw [nest, compile, compileItems_nest]

theorem compile_follow (value : String) : compile (follow (.iri value)) = .ok [.recursive (.iri value)] := rfl

theorem areCompiled_follow (value : String) : areCompiled [.recursive (.iri value)] = true := rfl

theorem areCompiled_nest (value : String) (k : Nat) : areCompiled (nestPlan (.iri value) k) = true := by
  induction k with
  | zero => rfl
  | succ k ih => rw [nestPlan, areCompiled, isCompiled, ih, areCompiled, Bool.and_self]

section

variable {Q : Finset Quad} {strict : Bool} {s : Term} {plan : Plan}
  (plain : ∀ spec ∈ plan, spec.isConstraint = false)
include plain

theorem accepts_of_plain : Accepts Q strict plan s := by
  intro p v required
  cases plain _ required.1

theorem not_clashes_of_plain : ¬ Plan.Clashes (Plan.filters plan strict) := by
  intro clashes
  obtain ⟨before, other, between, spec, after, split, -⟩ := clashes
  have member : spec ∈ Plan.filters plan strict := by simp [split]
  obtain ⟨p, v, rfl, required⟩ := mem_filters_iff.1 member
  cases plain _ required.1

theorem breaks_iff_of_plain : Breaks Q strict plan s ↔ StumblesAny Q strict plan s := by
  rw [Breaks, and_iff_right (accepts_of_plain plain), or_iff_right (not_clashes_of_plain plain)]

theorem selects_iff_of_plain {q : Quad} : Selects Q strict plan s q ↔ OffersAny Q strict plan s q := by
  rw [Selects, and_iff_right (accepts_of_plain plain)]

end

section

variable {Q : Finset Quad} {strict : Bool} {p s : Term}

theorem nestPlan_plain (p : Term) (k : Nat) : ∀ spec ∈ nestPlan p k, spec.isConstraint = false := by
  intro spec member
  cases k with
  | zero =>
    rw [List.mem_singleton.1 member]
    rfl
  | succ k =>
    rw [List.mem_singleton.1 member]
    rfl

theorem recursive_plain (p : Term) : ∀ spec ∈ [Spec.recursive p], spec.isConstraint = false := by
  intro spec member
  rw [List.mem_singleton.1 member]
  rfl

theorem not_stumblesAny_nest (k : Nat) : ¬ StumblesAny Q strict (nestPlan p k) s := by
  induction k generalizing s with
  | zero => simp [nestPlan, StumblesAny, Stumbles]
  | succ k ih =>
    have none : ¬ Plan.Clashes (Plan.filters (nestPlan p k) strict) :=
      not_clashes_of_plain (nestPlan_plain p k)
    simp [nestPlan, StumblesAny, Stumbles, none, ih]

theorem not_breaks_nest (k : Nat) : ¬ Breaks Q strict (nestPlan p k) s := by
  rw [breaks_iff_of_plain (nestPlan_plain p k)]
  exact not_stumblesAny_nest k

theorem not_breaks_recursive : ¬ Breaks Q strict [.recursive p] s := by
  rw [breaks_iff_of_plain (recursive_plain p)]
  simp [StumblesAny, Stumbles]

variable {q : Quad}

theorem selects_nest_iff (k : Nat) :
    Selects Q strict (nestPlan p k) s q ↔ OffersAny Q strict (nestPlan p k) s q :=
  selects_iff_of_plain (nestPlan_plain p k)

theorem selects_recursive_iff :
    Selects Q strict [.recursive p] s q ↔ q ∈ Q ∧ q.predicate = p ∧ Reaches Q p s q.subject := by
  rw [selects_iff_of_plain (recursive_plain p), OffersAny, OffersAny, or_false, Offers]

theorem offersAny_nest_zero :
    OffersAny Q strict (nestPlan p 0) s q ↔ q ∈ Q ∧ q.subject = s ∧ q.predicate = p := by
  rw [nestPlan, OffersAny, OffersAny, or_false, Offers]

theorem offersAny_nest_succ (k : Nat) : OffersAny Q strict (nestPlan p (k + 1)) s q ↔
    ∃ link ∈ Q, link.subject = s ∧ link.predicate = p ∧
      (q = link ∨ OffersAny Q strict (nestPlan p k) link.object q) := by
  have accepts : ∀ t, Accepts Q strict (nestPlan p k) t := fun t =>
    accepts_of_plain (nestPlan_plain p k)
  rw [nestPlan, OffersAny, OffersAny, or_false, Offers]
  simp only [accepts, true_and]

theorem offersAny_nest_of_link (member : q ∈ Q) (subject : q.subject = s) (along : q.predicate = p)
    (k : Nat) : OffersAny Q strict (nestPlan p k) s q := by
  cases k with
  | zero => exact offersAny_nest_zero.2 ⟨member, subject, along⟩
  | succ k => exact (offersAny_nest_succ k).2 ⟨q, member, subject, along, .inl rfl⟩

theorem offersAny_nest_step {k : Nat} (offered : OffersAny Q strict (nestPlan p k) s q) :
    OffersAny Q strict (nestPlan p (k + 1)) s q := by
  induction k generalizing s with
  | zero =>
    obtain ⟨member, subject, along⟩ := offersAny_nest_zero.1 offered
    exact offersAny_nest_of_link member subject along 1
  | succ k ih =>
    obtain ⟨link, member, subject, along, here⟩ := (offersAny_nest_succ k).1 offered
    exact (offersAny_nest_succ (k + 1)).2 ⟨link, member, subject, along, here.imp_right ih⟩

theorem offersAny_nest_of_le {j k : Nat} (le : j ≤ k) (offered : OffersAny Q strict (nestPlan p j) s q) :
    OffersAny Q strict (nestPlan p k) s q := by
  induction le with
  | refl => exact offered
  | step _ ih => exact offersAny_nest_step ih

theorem reaches_of_nest (subjects : ∀ q ∈ Q, GoesOn q.subject) {k : Nat}
    (offered : OffersAny Q strict (nestPlan p k) s q) :
    q ∈ Q ∧ q.predicate = p ∧ Reaches Q p s q.subject := by
  induction k generalizing s with
  | zero =>
    obtain ⟨member, rfl, along⟩ := offersAny_nest_zero.1 offered
    exact ⟨member, along, .start⟩
  | succ k ih =>
    obtain ⟨link, first, rfl, along, rfl | inner⟩ := (offersAny_nest_succ k).1 offered
    · exact ⟨first, along, .start⟩
    · obtain ⟨member, along', reaches⟩ := ih inner
      -- The object is the subject of a quad, of the one found or of one on the way to it.
      have object : GoesOn link.object := by
        rcases reaches.departs with here | ⟨next, onward, same, -⟩
        · exact here ▸ subjects q member
        · exact same ▸ subjects next onward
      exact ⟨member, along', .head first along object reaches⟩

/-- Nesting as deep as there are subjects finds what recursion does: each level takes one subject away. -/
theorem offersAny_nest_of_reaches {k : Nat} (deep : (Q.image Quad.subject).card ≤ k + 1) (member : q ∈ Q)
    (along : q.predicate = p) (reaches : Reaches Q p s q.subject) :
    OffersAny Q strict (nestPlan p k) s q := by
  induction k generalizing Q s with
  | zero =>
    rcases reaches.departs with here | ⟨link, first, rfl, -⟩
    · exact offersAny_nest_of_link member here along 0
    · -- There is one subject only, and the link leaves it.
      have same : q.subject = link.subject := Finset.card_le_one.1 deep _ (Finset.mem_image_of_mem _ member)
        _ (Finset.mem_image_of_mem _ first)
      exact offersAny_nest_of_link member same along 0
  | succ k ih =>
    by_cases here : q.subject = s
    · exact offersAny_nest_of_link member here along (k + 1)
    · obtain ⟨link, first, rfl, along', rest⟩ := reaches.departs.resolve_left here
      have fewer := card_subjects_lt first
      have inner : OffersAny (Q.filter (·.subject ≠ link.subject)) strict (nestPlan p k) link.object q :=
        ih (by omega) (Finset.mem_filter.2 ⟨member, here⟩) rest
      exact (offersAny_nest_succ k).2
        ⟨link, first, rfl, along', .inr (inner.mono (Finset.filter_subset _ Q))⟩

end

/-- Whatever the settings, the start and the kind of source: nesting finds nothing that recursion does not, no
less the deeper it goes, and all of it once it goes as deep as there are subjects. -/
theorem nesting_exhausts_recursion {source : Source} {Q : Finset Quad} (holds : source.Holds Q)
    (proper : ∀ q ∈ Q, q.isProper = true) (subjects : ∀ q ∈ Q, GoesOn q.subject)
    {settings : LookupSettings} (valid : settings.ensureValid = .ok ()) (predicate : String)
    {start : Option Term} (given : ∀ s ∈ start, s.isProper = true) (name : Term) :
    ∃ (levels : Nat → SetGraph) (closure : SetGraph),
      (∀ k, pull settings name source (nest (.iri predicate) k) start = .ok (levels k)) ∧
      pull settings name source (follow (.iri predicate)) start = .ok closure ∧
      (∀ k, (levels k).name = closure.name ∧ (levels k).quads ⊆ closure.quads) ∧
      (∀ j k, j ≤ k → (levels j).quads ⊆ (levels k).quads) ∧
      ∀ k, (Q.image Quad.subject).card ≤ k + 1 → ∀ q, q ∈ (levels k).quads ↔ q ∈ closure.quads := by
  have compiled : ∀ {expression : Value} {plan : Plan}, compile expression = .ok plan →
      areCompiled plan = true → ∀ other, compile expression = .ok other → areCompiled other = true := by
    intro expression plan compiles sound other same
    obtain rfl := Except.ok.inj (compiles.symm.trans same)
    exact sound
  have level : ∀ k, ∃ g, pull settings name source (nest (.iri predicate) k) start = .ok g ∧
      g.name = name.orDefault ∧ ∀ q, q ∈ g.quads ↔ ∃ s, IsStart Q start s ∧
        OffersAny Q settings.strict.truthy (nestPlan (.iri predicate) k) s q := by
    intro k
    have pulls := pulls_of_compiled holds proper
      (compiled (compile_nest predicate k) (areCompiled_nest predicate k)) given settings name
    simp only [Pulls, compile_nest, valid, selects_nest_iff] at pulls
    exact pulls.2 fun s _ => not_breaks_nest k
  obtain ⟨closure, pulled, named, followed⟩ : ∃ g,
      pull settings name source (follow (.iri predicate)) start = .ok g ∧ g.name = name.orDefault ∧
        ∀ q, q ∈ g.quads ↔ ∃ s, IsStart Q start s ∧
          q ∈ Q ∧ q.predicate = .iri predicate ∧ Reaches Q (.iri predicate) s q.subject := by
    have pulls := pulls_of_compiled holds proper
      (compiled (compile_follow predicate) (areCompiled_follow predicate)) given settings name
    simp only [Pulls, compile_follow, valid, selects_recursive_iff] at pulls
    exact pulls.2 fun s _ => not_breaks_recursive
  choose levels pulled' named' nested using level
  refine ⟨levels, closure, pulled', pulled, ?_, ?_, ?_⟩
  · intro k
    refine ⟨(named' k).trans named.symm, ?_⟩
    intro q member
    obtain ⟨s, starts, offered⟩ := (nested k q).1 member
    exact (followed q).2 ⟨s, starts, reaches_of_nest subjects offered⟩
  · intro j k le q member
    obtain ⟨s, starts, offered⟩ := (nested j q).1 member
    exact (nested k q).2 ⟨s, starts, offersAny_nest_of_le le offered⟩
  · intro k deep q
    refine ⟨?_, ?_⟩
    · intro member
      obtain ⟨s, starts, offered⟩ := (nested k q).1 member
      exact (followed q).2 ⟨s, starts, reaches_of_nest subjects offered⟩
    · intro member
      obtain ⟨s, starts, stored, along, reaches⟩ := (followed q).1 member
      exact (nested k q).2 ⟨s, starts, offersAny_nest_of_reaches deep stored along reaches⟩

def ring : SetGraph :=
  let told : Quad := ⟨.iri "a", .iri "p", .blank "b", .defaultGraph⟩
  .ofList .defaultGraph
    [told, ⟨.blank "b", .iri "p", told.quote, .iri "g"⟩, ⟨told.quote, .iri "p", .iri "a", .defaultGraph⟩,
      ⟨told.quote, .iri "p", .typed "1" Vocabulary.xsdInteger, .defaultGraph⟩]

theorem pulls_of_ring : ∃ (levels : Nat → SetGraph) (closure : SetGraph),
    (∀ k, pull {} .defaultGraph (Graph.set ring).source (nest (.iri "p") k) (some (.iri "a")) =
      .ok (levels k)) ∧
    pull {} .defaultGraph (Graph.set ring).source (follow (.iri "p")) (some (.iri "a")) = .ok closure ∧
    (levels 1).quads.length = 2 ∧ closure.quads.length = 4 ∧
    ∀ k, 2 ≤ k → ∀ q, q ∈ (levels k).quads ↔ q ∈ closure.quads := by
  have proper : ∀ q ∈ ring.quads.toFinset, q.isProper = true := by decide
  have expandable : ∀ q ∈ ring.quads.toFinset, q.subject.isExpandable = true := by decide
  have subjects : ∀ q ∈ ring.quads.toFinset, GoesOn q.subject := by
    intro q member
    exact (goesOn_iff (Quad.isProper_iff.1 (proper q member)).1).2 (expandable q member)
  have valid : ({} : LookupSettings).ensureValid = .ok () := by decide
  have given : ∀ s ∈ some (Term.iri "a"), s.isProper = true := by decide
  obtain ⟨levels, closure, pulled, followed, -, -, exhausted⟩ :=
    nesting_exhausts_recursion (holds_set ring) proper subjects valid "p" given .defaultGraph
  have one : (pull {} .defaultGraph (Graph.set ring).source (nest (.iri "p") 1) (some (.iri "a"))).map
      (·.quads.length) = .ok 2 := by decide +kernel
  have all : (pull {} .defaultGraph (Graph.set ring).source (follow (.iri "p")) (some (.iri "a"))).map
      (·.quads.length) = .ok 4 := by decide +kernel
  rw [pulled 1] at one
  rw [followed] at all
  refine ⟨levels, closure, pulled, followed, Except.ok.inj one, Except.ok.inj all, ?_⟩
  intro k le
  have three : (ring.quads.toFinset.image Quad.subject).card = 3 := by decide
  exact exhausted k (by omega)

end QuadPull.Pull
