import QuadPull.Proofs.Growth
import QuadPull.Proofs.Levels
/-!
Strict pulls against lenient ones. A strict level has the filters of the lenient one and more, so it accepts
fewer subjects, and what it drops takes links above it along. Where the two have the same filters at every
depth, the pulls come to the same.
-/

namespace QuadPull.Pull

/-- A level on which strictness makes no difference: it has no constraint, or bound constraints only. -/
def IsUniform (level : Plan) : Prop :=
  (∀ spec ∈ level, spec.isConstraint = false) ∨ ∀ spec ∈ level, ∃ p v, spec = .constraint p v ∧ v ≠ .absent

section

variable {Q : Finset Quad} {plan : Plan} {p s : Term} {v : Value} {q : Quad}

theorem Required.strict (required : Required false plan p v) : Required true plan p v :=
  ⟨required.1, .inl rfl⟩

theorem Accepts.lenient (accepts : Accepts Q true plan s) : Accepts Q false plan s :=
  fun p v required => accepts p v required.strict

theorem OffersAny.lenient (offered : OffersAny Q true plan s q) : OffersAny Q false plan s q := by
  induction plan using level_induction generalizing s q with
  | step plan ih =>
    obtain ⟨spec, member, offered⟩ := offersAny_iff.1 offered
    refine offersAny_iff.2 ⟨spec, member, ?_⟩
    cases spec with
    | nested p level =>
      rw [Offers] at offered ⊢
      obtain ⟨link, stored, subject, along, accepts, here⟩ := offered
      exact ⟨link, stored, subject, along, accepts.lenient, here.imp_right (ih p level member)⟩
    | _ =>
      rw [Offers] at offered ⊢
      exact offered

theorem Selects.lenient (selected : Selects Q true plan s q) : Selects Q false plan s q :=
  ⟨selected.1.lenient, selected.2.lenient⟩

theorem IsUniform.required (uniform : IsUniform plan) : Required true plan p v ↔ Required false plan p v := by
  refine ⟨?_, Required.strict⟩
  intro required
  refine ⟨required.1, .inr ?_⟩
  rcases uniform with plain | bound
  · cases plain _ required.1
  · exact bound

theorem IsUniform.filters (uniform : IsUniform plan) : Plan.filters plan true = Plan.filters plan false := by
  refine List.filter_congr fun spec member => ?_
  have level : ∀ b, Plan.isFilter plan = b → Plan.filtersBy plan false spec = b := fun b same => same
  rw [Plan.filtersBy, if_pos rfl]
  rcases uniform with plain | bound
  · rw [plain spec member, level false]
    -- A constraint that is none cannot be bound, and the level has a specifier.
    have unbound : spec.isBound = false := by
      have none := plain spec member
      cases spec <;> first | rfl | cases none
    rw [Plan.isFilter, Bool.and_eq_false_iff]
    exact .inr (List.all_eq_false.2 ⟨spec, member, by rw [unbound]; decide⟩)
  · obtain ⟨p, v, rfl, -⟩ := bound spec member
    have all_bound : plan.all Spec.isBound = true :=
      List.all_eq_true.2 fun other among => isBound_iff.2 (bound other among)
    rw [level true]
    · rfl
    · rw [Plan.isFilter, all_bound, Bool.and_true, Bool.not_eq_true', List.isEmpty_eq_false_iff]
      exact List.ne_nil_of_mem member

theorem IsUniform.accepts (uniform : IsUniform plan) : Accepts Q true plan s ↔ Accepts Q false plan s := by
  simp only [Accepts, uniform.required]

variable (every : EveryLevel IsUniform plan)
include every

theorem offersAny_of_uniform : OffersAny Q true plan s q ↔ OffersAny Q false plan s q := by
  induction every generalizing s q with
  | @intro plan _ inner ih =>
    rw [offersAny_iff, offersAny_iff]
    refine exists_congr fun spec => and_congr_right fun member => ?_
    cases spec with
    | nested p level =>
      have uniform := (inner p level member).here
      simp only [Offers, uniform.accepts, ih p level member]
    | _ => simp only [Offers]

theorem selects_of_uniform : Selects Q true plan s q ↔ Selects Q false plan s q := by
  rw [Selects, Selects, every.here.accepts, offersAny_of_uniform every]

theorem breaks_of_uniform : Breaks Q true plan s ↔ Breaks Q false plan s := by
  induction every generalizing s with
  | @intro plan here _ ih =>
    have inner : StumblesAny Q true plan s ↔ StumblesAny Q false plan s := by
      rw [stumblesAny_iff_nested, stumblesAny_iff_nested]
      refine exists_congr fun p => exists_congr fun level => and_congr_right fun member => ?_
      simp only [ih p level member]
    rw [Breaks, Breaks, here.accepts, here.filters, inner]

end

section

variable {source : Source} {Q : Finset Quad} (holds : source.Holds Q)
  (proper : ∀ q ∈ Q, q.isProper = true) {strict lenient : LookupSettings}
  (isStrict : strict.strict.truthy = true) (isLenient : lenient.strict.truthy = false)
include holds proper isStrict isLenient

/-- A subject that a level accepts when strict it accepts when lenient, with all that it contributed, unless
the lenient level breaks there. -/
theorem evaluate_lenient {level : Plan} (compiled : areCompiled level = true) {s : Term}
    (subject : s.isProper = true) {found : List Quad}
    (accepted : (({ settings := strict } : Engine).evaluate source level s).1 = .ok (some found)) :
    (∃ more, (({ settings := lenient } : Engine).evaluate source level s).1 = .ok (some more) ∧
      found ⊆ more) ∨
    Breaks Q false level s ∧
      (({ settings := lenient } : Engine).evaluate source level s).1 = .error .incomparable := by
  have narrow := Engine.evaluate_of_holds holds proper strict compiled subject
  have wide := Engine.evaluate_of_holds holds proper lenient compiled subject
  rw [isStrict] at narrow
  rw [isLenient] at wide
  by_cases breaks : Breaks Q false level s
  · exact .inr ⟨breaks, wide.1 breaks⟩
  · left
    have sound : ¬ Breaks Q true level s := by
      intro broken
      rw [narrow.1 broken] at accepted
      cases accepted
    obtain ⟨finding, ended, finds⟩ := narrow.2 sound
    rw [accepted] at ended
    obtain ⟨accepts, offered⟩ := finds.of_some (Except.ok.inj ended).symm
    obtain ⟨wider, ended', finds'⟩ := wide.2 breaks
    obtain ⟨more, rfl, offered'⟩ := finds'.1 accepts.lenient
    refine ⟨more, ended', ?_⟩
    intro q member
    exact (offered' q).2 ((offered q).1 member).lenient

theorem strict_pull_within (valid : strict.ensureValid = .ok ()) (valid' : lenient.ensureValid = .ok ())
    {plan : Plan} (compiled : areCompiled plan = true) {start : Option Term}
    (given : ∀ s ∈ start, s.isProper = true) (name : Term) :
    -- What a level accepts when strict it accepts when lenient, and no less comes of it.
    (∀ level s found, areCompiled level = true → s.isProper = true →
      (({ settings := strict } : Engine).evaluate source level s).1 = .ok (some found) →
      (∃ more, (({ settings := lenient } : Engine).evaluate source level s).1 = .ok (some more) ∧
        found ⊆ more) ∨
      Breaks Q false level s ∧
        (({ settings := lenient } : Engine).evaluate source level s).1 = .error .incomparable) ∧
    -- The strict pull finds no more than the lenient one; each fails in one case only.
    ((∀ s, IsStart Q start s → ¬ Breaks Q true plan s ∧ ¬ Breaks Q false plan s) →
      ∃ small large, pull strict name source (.plan plan) start = .ok small ∧
        pull lenient name source (.plan plan) start = .ok large ∧
        small.name = large.name ∧ small.quads ⊆ large.quads) ∧
    ((∃ s, IsStart Q start s ∧ Breaks Q true plan s) →
      pull strict name source (.plan plan) start = .error .incomparable) ∧
    ((∃ s, IsStart Q start s ∧ Breaks Q false plan s) →
      pull lenient name source (.plan plan) start = .error .incomparable) ∧
    (Spec.areQuiet plan = true → ∀ s, ¬ Breaks Q true plan s ∧ ¬ Breaks Q false plan s) ∧
    -- On levels that are uniform at every depth the two come to the same, faults included.
    (EveryLevel IsUniform plan → Alike (pull strict name source (.plan plan) start)
      (pull lenient name source (.plan plan) start)) := by
  have narrow := pull_of_plan holds proper valid compiled given name
  have wide := pull_of_plan holds proper valid' compiled given name
  rw [isStrict] at narrow
  rw [isLenient] at wide
  refine ⟨?_, ?_, narrow.1, wide.1, ?_, ?_⟩
  · intro level s found compiled subject accepted
    exact evaluate_lenient holds proper isStrict isLenient compiled subject accepted
  · intro sound
    obtain ⟨small, pulled, named, members⟩ := narrow.2 fun s starts => (sound s starts).1
    obtain ⟨large, pulled', named', members'⟩ := wide.2 fun s starts => (sound s starts).2
    refine ⟨small, large, pulled, pulled', named.trans named'.symm, ?_⟩
    intro q member
    obtain ⟨s, starts, selected⟩ := (members q).1 member
    exact (members' q).2 ⟨s, starts, selected.lenient⟩
  · intro quiet s
    exact ⟨not_breaks_of_quiet quiet s, not_breaks_of_quiet quiet s⟩
  · intro every
    simp only [breaks_of_uniform every, selects_of_uniform every] at narrow
    exact alike_of_same narrow wide

end

def sternly : LookupSettings := { strict := .bool true }

def thirtyWithKnown : Plan := [.constraint (.iri "age") (.int 30), .property (.iri "knows")]

def astray : Plan :=
  [.property (.iri "q"), .nested (.iri "a") [.nested (.iri "a") unlike, .constraint (.iri "q") (.int 7)]]

theorem strict_pull_of_friends :
    (∃ small large,
      pull sternly .defaultGraph (Graph.set friends).source (.plan thirtyWithKnown) none = .ok small ∧
      pull {} .defaultGraph (Graph.set friends).source (.plan thirtyWithKnown) none = .ok large ∧
      small.quads.length = 2 ∧ large.quads.length = 3 ∧ small.quads ⊆ large.quads) ∧
    -- The strict pull never comes to the values that the lenient one cannot compare.
    (pull sternly .defaultGraph (Graph.set (.ofList .defaultGraph (early :: late))).source (.plan astray)
      none).map (·.quads) = .ok [early] ∧
    (pull {} .defaultGraph (Graph.set (.ofList .defaultGraph (early :: late))).source (.plan astray)
      none).map (·.quads) = .error .incomparable := by
  have proper : ∀ q ∈ friends.quads.toFinset, q.isProper = true := by decide
  have given : ∀ s ∈ (none : Option Term), s.isProper = true := by simp
  have isStrict : sternly.strict.truthy = true := rfl
  have isLenient : ({} : LookupSettings).strict.truthy = false := rfl
  have compiled : areCompiled thirtyWithKnown = true := by decide
  obtain ⟨-, within, -, -, sound, -⟩ := strict_pull_within (holds_set friends) proper isStrict isLenient
    (by decide) (by decide) compiled given .defaultGraph
  obtain ⟨small, large, pulled, pulled', -, inside⟩ := within fun s _ => sound (by decide) s
  have two : (pull sternly .defaultGraph (Graph.set friends).source (.plan thirtyWithKnown) none).map
      (·.quads.length) = .ok 2 := by decide +kernel
  have three : (pull {} .defaultGraph (Graph.set friends).source (.plan thirtyWithKnown) none).map
      (·.quads.length) = .ok 3 := by decide +kernel
  refine ⟨?_, by decide +kernel, by decide +kernel⟩
  rw [pulled] at two
  rw [pulled'] at three
  exact ⟨small, large, pulled, pulled', Except.ok.inj two, Except.ok.inj three, inside⟩

end QuadPull.Pull
