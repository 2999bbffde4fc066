import QuadPull.Proofs.Selection

namespace QuadPull.Pull

inductive EveryLevel (holds : Plan → Prop) : Plan → Prop
  | intro {plan : Plan} (here : holds plan)
      (inner : ∀ p level, Spec.nested p level ∈ plan → EveryLevel holds level) : EveryLevel holds plan

namespace EveryLevel

variable {holds : Plan → Prop} {plan : Plan}

theorem here (every : EveryLevel holds plan) : holds plan := by
  obtain ⟨here, -⟩ := every
  exact here

theorem inner (every : EveryLevel holds plan) {p : Term} {level : Plan}
    (member : Spec.nested p level ∈ plan) : EveryLevel holds level := by
  obtain ⟨-, inner⟩ := every
  exact inner p level member

theorem of_forall (all : ∀ level, holds level) (plan : Plan) : EveryLevel holds plan := by
  refine .intro (all plan) ?_
  intro p level member
  exact of_forall all level
termination_by sizeOf plan
decreasing_by
  have smaller := List.sizeOf_lt_of_mem member
  simp only [Spec.nested.sizeOf_spec] at smaller
  omega

theorem mono {weaker : Plan → Prop} (every : EveryLevel holds plan)
    (implies : ∀ level, holds level → weaker level) : EveryLevel weaker plan := by
  induction every with
  | intro here _ ih => exact .intro (implies _ here) ih

end EveryLevel

/-- Induction on plans by the plans that are nested in them. -/
theorem level_induction {motive : Plan → Prop}
    (step : ∀ plan, (∀ p level, Spec.nested p level ∈ plan → motive level) → motive plan) (plan : Plan) :
    motive plan := by
  induction EveryLevel.of_forall (fun _ => True.intro) plan with
  | intro _ _ ih => exact step _ ih

theorem everyLevel_quiet {plan : Plan} (quiet : Spec.areQuiet plan = true) :
    EveryLevel (fun level => ∀ spec ∈ level, spec.isQuiet = true) plan := by
  induction plan using level_induction with
  | step plan ih =>
    have each := Spec.areQuiet_iff.1 quiet
    refine .intro each ?_
    intro p level member
    have level_quiet := each _ member
    rw [Spec.isQuiet] at level_quiet
    exact ih p level member level_quiet

variable {Q : Finset Quad} {strict : Bool} {plan : Plan}

theorem stumblesAny_iff_nested {s : Term} : StumblesAny Q strict plan s ↔
    ∃ p level, Spec.nested p level ∈ plan ∧ ∃ link ∈ Q, link.subject = s ∧ link.predicate = p ∧
      Breaks Q strict level link.object := by
  rw [stumblesAny_iff]
  refine ⟨?_, ?_⟩
  · intro held
    obtain ⟨spec, member, stumbles⟩ := held
    cases spec with
    | nested p level =>
      rw [Stumbles] at stumbles
      exact ⟨p, level, member, stumbles⟩
    | _ => simp [Stumbles] at stumbles
  · intro held
    obtain ⟨p, level, member, stumbles⟩ := held
    refine ⟨_, member, ?_⟩
    rw [Stumbles]
    exact stumbles

theorem not_breaks_of_everyLevel
    (every : EveryLevel (fun level => ¬ Plan.Clashes (Plan.filters level strict)) plan) (s : Term) :
    ¬ Breaks Q strict plan s := by
  induction every generalizing s with
  | intro here _ ih =>
    intro breaks
    obtain ⟨-, clashes | stumbles⟩ := breaks
    · exact here clashes
    · obtain ⟨p, level, member, link, -, -, -, breaks⟩ := stumblesAny_iff_nested.1 stumbles
      exact ih p level member link.object breaks

theorem not_breaks_of_quiet (quiet : Spec.areQuiet plan = true) (s : Term) : ¬ Breaks Q strict plan s := by
  refine not_breaks_of_everyLevel ((everyLevel_quiet quiet).mono fun level each => ?_) s
  exact Plan.not_clashes_of_quiet fun spec member => each spec (List.mem_of_mem_filter member)

end QuadPull.Pull
