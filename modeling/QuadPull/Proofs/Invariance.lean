import QuadPull.Proofs.Extraction
import QuadPull.Proofs.Levels
import QuadPull.Proofs.NativeValues
import QuadPull.Proofs.Renaming

namespace QuadPull.Pull

/-- Names that are all different and that no quad has for its subject or object. -/
structure Fresh (names : Names) (Q : Finset Quad) : Prop where
  injective : ∀ a b name, names a = some name → names b = some name → a = b
  subjects : ∀ q ∈ Q, q.subject.Free names
  objects : ∀ q ∈ Q, q.object.Free names

variable {names : Names} {Q : Finset Quad} {strict : Bool} {s : Term} {q r : Quad}

theorem same_literal_renamed (names : Names) (t : Term) (l : Literal) :
    (t.renamed names).same (.literal l) = t.same (.literal l) := by
  rcases t.renamed_cases names with stays | ⟨label, name, rfl, -, named⟩
  · rw [stays]
  · rw [named]
    simp [Term.same, Term.settled]

theorem renamed_of_native {v : Value} (native : ∀ t, v ≠ .term t) : v.renamed names = v := by
  cases v with
  | term t => exact absurd rfl (native t)
  | _ => rfl

theorem satisfies_renamed (injective : ∀ a b name, names a = some name → names b = some name → a = b)
    {t : Term} (proper : t.isProper = true) (free : t.Free names) {v : Value}
    (asked : ∀ u, v = .term u → u.Free names) :
    satisfies (t.renamed names) (v.renamed names) = satisfies t v := by
  by_cases native : ∃ u, v = .term u
  · obtain ⟨u, rfl⟩ := native
    have same : (t.renamed names).same (u.renamed names) = t.same u := by
      rw [Bool.eq_iff_iff, Term.same_iff (Term.isProper_renamed names proper), Term.same_iff proper,
        Term.renamed_inj injective free (asked u rfl)]
    exact congrArg (fun same => holdsTrue (.ok same)) same
  · have native : ∀ u, v ≠ .term u := fun u same => native ⟨u, same⟩
    rw [renamed_of_native native, satisfies, satisfies]
    refine congrArg holdsTrue ?_
    unfold comparison
    split
    · rfl
    · split
      · rfl
      · split
        · rename_i expected made
          obtain ⟨l, rfl⟩ := Term.literal_of_ofValue native made
          rw [same_literal_renamed]
        · rfl

theorem required_renamed {plan : Plan} {p : Term} {w : Value} :
    Required strict (Spec.allRenamed names plan) p w ↔
      ∃ v, Required strict plan p v ∧ v.renamed names = w := by
  have bound :
      (∀ spec ∈ Spec.allRenamed names plan, ∃ q u, spec = .constraint q u ∧ u ≠ .absent) ↔
      ∀ spec ∈ plan, ∃ q u, spec = .constraint q u ∧ u ≠ .absent := by
    rw [Spec.allRenamed_eq_map]
    constructor
    · intro bound spec member
      obtain ⟨q, u, same, given⟩ := bound _ (List.mem_map_of_mem member)
      obtain ⟨v, rfl, rfl⟩ := Spec.constraint_of_renamed same
      exact ⟨q, v, rfl, fun absent => given (Value.renamed_eq_absent.2 absent)⟩
    · intro bound spec member
      obtain ⟨original, among, rfl⟩ := List.mem_map.1 member
      obtain ⟨q, u, rfl, given⟩ := bound original among
      exact ⟨q, u.renamed names, rfl, fun absent => given (Value.renamed_eq_absent.1 absent)⟩
  rw [Required, bound, Spec.allRenamed_eq_map, List.mem_map]
  constructor
  · rintro ⟨⟨spec, member, same⟩, filters⟩
    obtain ⟨v, rfl, rfl⟩ := Spec.constraint_of_renamed same
    exact ⟨v, ⟨member, filters⟩, rfl⟩
  · rintro ⟨v, ⟨member, filters⟩, rfl⟩
    exact ⟨⟨.constraint p v, member, rfl⟩, filters⟩

theorem isConstraint_renamed (names : Names) (spec : Spec) :
    (spec.renamed names).isConstraint = spec.isConstraint := by
  cases spec <;> simp [Spec.renamed, Spec.isConstraint]

theorem isBound_renamed (names : Names) (spec : Spec) : (spec.renamed names).isBound = spec.isBound := by
  cases spec with
  | constraint p v => cases v <;> simp [Spec.renamed, Spec.isBound, Value.renamed, Value.isAbsent]
  | _ => simp [Spec.renamed, Spec.isBound]

theorem filters_renamed (plan : Plan) : Plan.filters (Spec.allRenamed names plan) strict =
    (Plan.filters plan strict).map (·.renamed names) := by
  have level : Plan.isFilter (Spec.allRenamed names plan) = Plan.isFilter plan := by
    rw [Spec.allRenamed_eq_map, Plan.isFilter, Plan.isFilter, List.isEmpty_map, List.all_map]
    simp only [Function.comp_def, isBound_renamed]
  have each : ∀ spec : Spec, Plan.filtersBy (Spec.allRenamed names plan) strict (spec.renamed names) =
      Plan.filtersBy plan strict spec := by
    intro spec
    rw [Plan.filtersBy, Plan.filtersBy, level, isConstraint_renamed]
  rw [Plan.filters, Plan.filters]
  conv_lhs => rw [Spec.allRenamed_eq_map, List.filter_map]
  simp only [Function.comp_def, ← Spec.allRenamed_eq_map, each]

theorem nested_of_renamed {plan : Plan} {p : Term} {renamed : Plan}
    (member : .nested p renamed ∈ Spec.allRenamed names plan) :
    ∃ level, .nested p level ∈ plan ∧ Spec.allRenamed names level = renamed := by
  rw [Spec.allRenamed_eq_map] at member
  obtain ⟨spec, among, same⟩ := List.mem_map.1 member
  cases spec with
  | nested o level =>
    rw [Spec.renamed] at same
    obtain ⟨rfl, rfl⟩ := Spec.nested.inj same
    exact ⟨level, among, rfl⟩
  | _ => simp [Spec.renamed] at same

theorem renamed_of_nested {plan : Plan} {p : Term} {level : Plan} (member : .nested p level ∈ plan) :
    .nested p (Spec.allRenamed names level) ∈ Spec.allRenamed names plan := by
  have among := List.mem_map_of_mem (f := Spec.renamed names) member
  rwa [← Spec.allRenamed_eq_map, Spec.renamed] at among

theorem native_of_fails {v w : Value} {e : Error} (failed : v.equals w = .error e) :
    (∀ t, v ≠ .term t) ∧ (∀ t, w ≠ .term t) ∧ ∀ n, w ≠ .handle n := by
  refine ⟨?_, ?_, ?_⟩
  · rintro t rfl
    cases w <;> simp [Value.equals, Value.sameObject, Value.sameNumber, Value.number?] at failed
  · rintro t rfl
    cases v <;> simp [Value.equals, Value.sameObject, Value.sameNumber, Value.number?] at failed
  · rintro n rfl
    cases v <;> simp [Value.equals, Value.sameObject, Value.sameNumber, Value.number?] at failed

theorem term_equals {v : Value} (native : ∀ t, v ≠ .term t) (plain : ∀ n, v ≠ .handle n) (t : Term) :
    (Value.term t).equals v = .ok false := by
  cases v with
  | term u => exact absurd rfl (native u)
  | handle n => exact absurd rfl (plain n)
  | _ => simp [Value.equals, Value.sameObject, Value.sameNumber, Value.number?]

theorem native_renamed {v : Value} : (∀ t, v.renamed names ≠ .term t) ↔ ∀ t, v ≠ .term t := by
  cases v <;> simp [Value.renamed]

/-- A constraint that cannot be compared with some other is no term, so a name in the place of a blank node
changes no comparison with it. -/
theorem equals_renamed (names : Names) {v u : Value} (w : Value) {e : Error}
    (failed : u.equals v = .error e) :
    v.renamed names = v ∧ (w.renamed names).equals v = w.equals v := by
  obtain ⟨-, native, plain⟩ := native_of_fails failed
  refine ⟨renamed_of_native native, ?_⟩
  by_cases term : ∃ t, w = .term t
  · obtain ⟨t, rfl⟩ := term
    rw [Value.renamed, term_equals native plain, term_equals native plain]
  · rw [renamed_of_native fun t same => term ⟨t, same⟩]

def IsConstraint (spec : Spec) : Prop := ∃ p v, spec = .constraint p v

theorem isConstraint_of_mem_filters {plan : Plan} {spec : Spec} (member : spec ∈ Plan.filters plan strict) :
    IsConstraint spec := by
  obtain ⟨p, v, rfl, -⟩ := mem_filters_iff.1 member
  exact ⟨p, v, rfl⟩

theorem constraint_equals (p q : Term) (v w : Value) :
    (Spec.constraint p v).equals (.constraint q w) = if p.same q = true then v.equals w else .ok false := by
  rw [Spec.equals]
  cases p.same q <;> rfl

theorem fails_renamed {a b : Spec} (one : IsConstraint a) (other : IsConstraint b) :
    (∃ e, (a.renamed names).equals (b.renamed names) = .error e) ↔ ∃ e, a.equals b = .error e := by
  obtain ⟨p, v, rfl⟩ := one
  obtain ⟨q, w, rfl⟩ := other
  rw [Spec.renamed, Spec.renamed, constraint_equals, constraint_equals]
  by_cases same : p.same q = true
  · rw [if_pos same, if_pos same]
    constructor
    · rintro ⟨e, failed⟩
      obtain ⟨v_native, w_native, -⟩ := native_of_fails failed
      rw [renamed_of_native (native_renamed.1 v_native), renamed_of_native (native_renamed.1 w_native)]
        at failed
      exact ⟨e, failed⟩
    · rintro ⟨e, failed⟩
      obtain ⟨v_native, w_native, -⟩ := native_of_fails failed
      exact ⟨e, by rwa [renamed_of_native v_native, renamed_of_native w_native]⟩
  · rw [if_neg same, if_neg same]

theorem compared_renamed {a b c : Spec} (one : IsConstraint a) (other : IsConstraint b)
    (third : IsConstraint c) (failed : ∃ e, c.equals a = .error e) :
    (b.renamed names).equals (a.renamed names) = b.equals a := by
  obtain ⟨p, v, rfl⟩ := one
  obtain ⟨q, w, rfl⟩ := other
  obtain ⟨o, u, rfl⟩ := third
  obtain ⟨e, failed⟩ := failed
  rw [constraint_equals] at failed
  split at failed
  · obtain ⟨stays, same⟩ := equals_renamed names w failed
    rw [Spec.renamed, Spec.renamed, constraint_equals, constraint_equals, stays, same]
  · cases failed

theorem clashes_renamed {specs : List Spec} (constraints : ∀ spec ∈ specs, IsConstraint spec) :
    Plan.Clashes (specs.map (·.renamed names)) ↔ Plan.Clashes specs := by
  constructor
  · rintro ⟨before, other, between, spec, after, split, failed, unequal⟩
    obtain ⟨early, rest, rfl, rfl, rest_split⟩ := List.map_eq_append_iff.1 split
    obtain ⟨first, later, rfl, rfl, later_split⟩ := List.map_eq_cons_iff.1 rest_split
    obtain ⟨middle, last, rfl, rfl, last_split⟩ := List.map_eq_append_iff.1 later_split
    obtain ⟨second, tail, rfl, rfl, rfl⟩ := List.map_eq_cons_iff.1 last_split
    have one := constraints first (by simp)
    have two := constraints second (by simp)
    have failed' := (fails_renamed one two).1 failed
    refine ⟨early, first, middle, second, tail, rfl, failed', ?_⟩
    intro b member
    rw [← compared_renamed two (constraints b (by simp [member])) one failed']
    exact unequal _ (List.mem_map_of_mem member)
  · rintro ⟨before, other, between, spec, after, rfl, failed, unequal⟩
    have one := constraints other (by simp)
    have two := constraints spec (by simp)
    refine ⟨before.map (·.renamed names), other.renamed names, between.map (·.renamed names),
      spec.renamed names, after.map (·.renamed names), by simp, (fails_renamed one two).2 failed, ?_⟩
    intro b member
    obtain ⟨c, among, rfl⟩ := List.mem_map.1 member
    rw [compared_renamed two (constraints c (by simp [among])) one failed]
    exact unequal c among

theorem goesOn_renamed {t : Term} (names : Names) : GoesOn (t.renamed names) ↔ GoesOn t := by
  rcases t.renamed_cases names with stays | ⟨label, name, rfl, -, named⟩
  · rw [stays]
  · rw [named]
    exact ⟨fun _ => .inr (.inl ⟨label, rfl⟩), fun _ => .inl ⟨name, rfl⟩⟩

theorem Reaches.renamed {p t : Term} (reaches : Reaches Q p s t) :
    Reaches (Q.image (·.renamed names)) p (s.renamed names) (t.renamed names) := by
  induction reaches with
  | start => exact .start
  | @onward q member along subject object ih =>
    exact .onward (Finset.mem_image_of_mem _ member) along ih ((goesOn_renamed names).2 object)

section

variable (fresh : Fresh names Q)
include fresh

theorem Fresh.subject_iff (member : q ∈ Q) (free : s.Free names) :
    (q.renamed names).subject = s.renamed names ↔ q.subject = s :=
  Term.renamed_inj fresh.injective (fresh.subjects q member) free

/-- A renamed quad that starts at a renamed term is one that started at the term. -/
theorem Fresh.exists_iff {matching : Quad → Prop} (free : s.Free names) :
    (∃ r ∈ Q.image (·.renamed names), r.subject = s.renamed names ∧ matching r) ↔
      ∃ q ∈ Q, q.subject = s ∧ matching (q.renamed names) := by
  constructor
  · rintro ⟨r, member, subject, fits⟩
    obtain ⟨q, among, rfl⟩ := Finset.mem_image.1 member
    exact ⟨q, among, (fresh.subject_iff among free).1 subject, fits⟩
  · rintro ⟨q, among, subject, fits⟩
    exact ⟨_, Finset.mem_image_of_mem _ among, (fresh.subject_iff among free).2 subject, fits⟩

variable (proper : ∀ q ∈ Q, q.isProper = true)

theorem Fresh.mem_iff (matching before : Quad → Prop) (free : s.Free names)
    (same : ∀ q ∈ Q, matching (q.renamed names) ↔ before q) :
    (r ∈ Q.image (·.renamed names) ∧ r.subject = s.renamed names ∧ matching r) ↔
      ∃ q, (q ∈ Q ∧ q.subject = s ∧ before q) ∧ q.renamed names = r := by
  constructor
  · rintro ⟨member, subject, fits⟩
    obtain ⟨q, among, rfl⟩ := Finset.mem_image.1 member
    exact ⟨q, ⟨among, (fresh.subject_iff among free).1 subject, (same q among).1 fits⟩, rfl⟩
  · rintro ⟨q, ⟨among, subject, fits⟩, rfl⟩
    exact ⟨Finset.mem_image_of_mem _ among, (fresh.subject_iff among free).2 subject,
      (same q among).2 fits⟩

theorem Reaches.of_renamed {p t : Term} (free : s.Free names)
    (reaches : Reaches (Q.image (·.renamed names)) p (s.renamed names) t) :
    ∃ u, u.renamed names = t ∧ u.Free names ∧ Reaches Q p s u := by
  induction reaches with
  | start => exact ⟨s, rfl, free, .start⟩
  | @onward r member along subject object ih =>
    obtain ⟨q, among, rfl⟩ := Finset.mem_image.1 member
    obtain ⟨u, same, u_free, reached⟩ := ih
    obtain rfl : q.subject = u := (fresh.subject_iff among u_free).1 same.symm
    exact ⟨q.object, rfl, fresh.objects q among,
      .onward among along reached ((goesOn_renamed names).1 object)⟩

theorem recursion_renamed {p : Term} (free : s.Free names) :
    Offers (Q.image (·.renamed names)) strict (.recursive p) (s.renamed names) r ↔
      ∃ q, Offers Q strict (.recursive p) s q ∧ q.renamed names = r := by
  -- A name is gone on from as the blank node was, so search meets the names of what it met.
  simp only [Offers]
  refine ⟨?_, ?_⟩
  · intro offered
    obtain ⟨member, along, reached⟩ := offered
    obtain ⟨q, among, rfl⟩ := Finset.mem_image.1 member
    obtain ⟨u, same, u_free, before⟩ := reached.of_renamed fresh free
    obtain rfl : q.subject = u := (fresh.subject_iff among u_free).1 same.symm
    exact ⟨q, ⟨among, along, before⟩, rfl⟩
  · intro offered
    obtain ⟨q, ⟨member, along, reached⟩, rfl⟩ := offered
    exact ⟨Finset.mem_image_of_mem _ member, along, reached.renamed⟩

include proper

theorem satisfied_renamed {v : Value} (member : q ∈ Q) (asked : ∀ u, v = .term u → u.Free names) :
    satisfies (q.renamed names).object (v.renamed names) = satisfies q.object v :=
  satisfies_renamed fresh.injective (Quad.isProper_iff.1 (proper q member)).2.2.1
    (fresh.objects q member) asked

theorem accepts_renamed {plan : Plan} (asked : Spec.AllFree names plan) (free : s.Free names) :
    Accepts (Q.image (·.renamed names)) strict (Spec.allRenamed names plan) (s.renamed names) ↔
      Accepts Q strict plan s := by
  have satisfied : ∀ {v : Value} {p : Term}, Required strict plan p v → ∀ q ∈ Q,
      satisfies (q.renamed names).object (v.renamed names) = satisfies q.object v := by
    intro v p required q member
    have free := Spec.free_of_mem asked _ required.1
    rw [Spec.Free] at free
    exact satisfied_renamed fresh proper member free
  constructor
  · intro accepts p v required
    obtain ⟨q, member, subject, along, meets⟩ :=
      (fresh.exists_iff free).1 (accepts p _ (required_renamed.2 ⟨v, required, rfl⟩))
    exact ⟨q, member, subject, along, by rwa [satisfied required q member] at meets⟩
  · intro accepts p w required
    obtain ⟨v, original, rfl⟩ := required_renamed.1 required
    obtain ⟨q, member, subject, along, meets⟩ := accepts p v original
    refine (fresh.exists_iff free).2 ⟨q, member, subject, along, ?_⟩
    rwa [satisfied original q member]

theorem links_renamed {p : Term} {level : Plan} (asked : Spec.AllFree names level) (free : s.Free names)
    (inside : ∀ link ∈ Q,
      (OffersAny (Q.image (·.renamed names)) strict (Spec.allRenamed names level)
        (link.renamed names).object r ↔
          ∃ q, OffersAny Q strict level link.object q ∧ q.renamed names = r)) :
    Offers (Q.image (·.renamed names)) strict (.nested p (Spec.allRenamed names level)) (s.renamed names) r ↔
      ∃ q, Offers Q strict (.nested p level) s q ∧ q.renamed names = r := by
  -- Links to renamed objects are kept or dropped as those to the objects, and lead on to renamed quads.
  have kept : ∀ link ∈ Q, (Accepts (Q.image (·.renamed names)) strict (Spec.allRenamed names level)
      (link.renamed names).object ↔ Accepts Q strict level link.object) := fun link member =>
    accepts_renamed fresh proper asked (fresh.objects link member)
  rw [Offers, fresh.exists_iff free]
  simp only [Offers]
  refine ⟨?_, ?_⟩
  · intro offered
    obtain ⟨link, member, subject, along, accepts, rfl | onward⟩ := offered
    · exact ⟨link, ⟨link, member, subject, along, (kept link member).1 accepts, .inl rfl⟩, rfl⟩
    · obtain ⟨q, before, rfl⟩ := (inside link member).1 onward
      exact ⟨q, ⟨link, member, subject, along, (kept link member).1 accepts, .inr before⟩, rfl⟩
  · intro offered
    obtain ⟨q, ⟨link, member, subject, along, accepts, rfl | onward⟩, rfl⟩ := offered
    · exact ⟨q, member, subject, along, (kept q member).2 accepts, .inl rfl⟩
    · exact ⟨link, member, subject, along, (kept link member).2 accepts,
        .inr ((inside link member).2 ⟨q, onward, rfl⟩)⟩

theorem offers_renamed {spec : Spec} (asked : spec.Free names) (free : s.Free names)
    (inside : ∀ p level, spec = .nested p level → ∀ link ∈ Q,
      (OffersAny (Q.image (·.renamed names)) strict (Spec.allRenamed names level)
        (link.renamed names).object r ↔
          ∃ q, OffersAny Q strict level link.object q ∧ q.renamed names = r)) :
    Offers (Q.image (·.renamed names)) strict (spec.renamed names) (s.renamed names) r ↔
      ∃ q, Offers Q strict spec s q ∧ q.renamed names = r := by
  cases spec with
  | property p =>
    simp only [Spec.renamed, Offers]
    exact fresh.mem_iff (fun q => q.predicate = p) (fun q => q.predicate = p) free fun q _ => Iff.rfl
  | wildcard =>
    simp only [Spec.renamed, Offers]
    simpa using fresh.mem_iff (fun _ => True) (fun _ => True) free fun q _ => Iff.rfl
  | constraint p v =>
    rw [Spec.Free] at asked
    simp only [Spec.renamed, Offers]
    apply fresh.mem_iff (fun q => q.predicate = p ∧ satisfies q.object (v.renamed names) = true)
      (fun q => q.predicate = p ∧ satisfies q.object v = true) free
    intro q member
    rw [satisfied_renamed fresh proper member asked]
    exact Iff.rfl
  | nested p level =>
    rw [Spec.Free] at asked
    rw [Spec.renamed]
    exact links_renamed fresh proper asked free (inside p level rfl)
  | recursive p =>
    simp only [Spec.renamed]
    exact recursion_renamed fresh free
  | raw item => simp [Spec.renamed, Offers]

theorem offersAny_renamed {plan : Plan} (asked : Spec.AllFree names plan) (free : s.Free names) :
    OffersAny (Q.image (·.renamed names)) strict (Spec.allRenamed names plan) (s.renamed names) r ↔
      ∃ q, OffersAny Q strict plan s q ∧ q.renamed names = r := by
  induction plan using level_induction generalizing s r with
  | step plan ih =>
    have each : ∀ spec ∈ plan,
        (Offers (Q.image (·.renamed names)) strict (spec.renamed names) (s.renamed names) r ↔
          ∃ q, Offers Q strict spec s q ∧ q.renamed names = r) := by
      intro spec member
      have asked_there := Spec.free_of_mem asked spec member
      refine offers_renamed fresh proper asked_there free ?_
      rintro p level rfl link among
      rw [Spec.Free] at asked_there
      exact ih p level member asked_there (fresh.objects link among)
    simp only [Spec.allRenamed_eq_map, offersAny_iff]
    constructor
    · rintro ⟨renamed, among, offered⟩
      obtain ⟨spec, member, rfl⟩ := List.mem_map.1 among
      obtain ⟨q, before, same⟩ := (each spec member).1 offered
      exact ⟨q, ⟨spec, member, before⟩, same⟩
    · rintro ⟨q, ⟨spec, member, before⟩, same⟩
      exact ⟨_, List.mem_map_of_mem member, (each spec member).2 ⟨q, before, same⟩⟩

theorem breaks_renamed {plan : Plan} (asked : Spec.AllFree names plan) (free : s.Free names) :
    Breaks (Q.image (·.renamed names)) strict (Spec.allRenamed names plan) (s.renamed names) ↔
      Breaks Q strict plan s := by
  induction plan using level_induction generalizing s with
  | step plan ih =>
    have inside : ∀ p level, Spec.nested p level ∈ plan → ∀ link ∈ Q,
        (Breaks (Q.image (·.renamed names)) strict (Spec.allRenamed names level) (link.renamed names).object ↔
          Breaks Q strict level link.object) := by
      intro p level member link among
      have asked_there := Spec.free_of_mem asked _ member
      rw [Spec.Free] at asked_there
      exact ih p level member asked_there (fresh.objects link among)
    have stumbles : StumblesAny (Q.image (·.renamed names)) strict (Spec.allRenamed names plan)
        (s.renamed names) ↔ StumblesAny Q strict plan s := by
      rw [stumblesAny_iff_nested, stumblesAny_iff_nested]
      constructor
      · rintro ⟨p, renamed, among, broken⟩
        obtain ⟨level, member, rfl⟩ := nested_of_renamed among
        obtain ⟨link, stored, subject, along, broken⟩ := (fresh.exists_iff free).1 broken
        exact ⟨p, level, member, link, stored, subject, along, (inside p level member link stored).1 broken⟩
      · rintro ⟨p, level, member, link, stored, subject, along, broken⟩
        have broken := (inside p level member link stored).2 broken
        exact ⟨p, _, renamed_of_nested member, (fresh.exists_iff free).2 ⟨link, stored, subject, along, broken⟩⟩
    rw [Breaks, Breaks, accepts_renamed fresh proper asked free, stumbles, filters_renamed,
      clashes_renamed fun spec => isConstraint_of_mem_filters]

theorem selects_renamed {plan : Plan} (asked : Spec.AllFree names plan) (free : s.Free names) :
    Selects (Q.image (·.renamed names)) strict (Spec.allRenamed names plan) (s.renamed names) r ↔
      ∃ q, Selects Q strict plan s q ∧ q.renamed names = r := by
  rw [Selects, accepts_renamed fresh proper asked free, offersAny_renamed fresh proper asked free]
  simp only [Selects, exists_and_left, and_assoc]

end

theorem isStart_renamed {start : Option Term} {t : Term} :
    IsStart (Q.image (·.renamed names)) (start.map (·.renamed names)) t ↔
      ∃ s, IsStart Q start s ∧ s.renamed names = t := by
  cases start with
  | some u => simp [IsStart, eq_comm]
  | none => simp [IsStart, Quad.renamed]

end QuadPull.Pull
