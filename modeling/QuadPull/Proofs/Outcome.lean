import QuadPull.Proofs.Storage
import QuadPull.Proofs.Typing

namespace QuadPull.Pull

theorem IsStart.isProper {Q : Finset Quad} (proper : ∀ q ∈ Q, q.isProper = true) {start : Option Term}
    (given : ∀ s ∈ start, s.isProper = true) {s : Term} (starts : IsStart Q start s) :
    s.isProper = true := by
  cases start with
  | some t => exact given s (congrArg some starts.symm)
  | none =>
    obtain ⟨q, stored, rfl⟩ := starts
    exact (Quad.isProper_iff.1 (proper q stored)).1

namespace Engine

variable {source : Source} {Q : Finset Quad} (holds : source.Holds Q)
  (proper : ∀ q ∈ Q, q.isProper = true)
  (settings : LookupSettings) {plan : Plan} (compiled : areCompiled plan = true) {start : Option Term}
  (given : ∀ s ∈ start, s.isProper = true)

theorem run_eq {e : Engine} {subjects : List Term} (started : starts source start = .ok subjects) :
    e.run source plan start =
      e.collect source (select e.settings.strict.truthy (e.rounds source) plan subjects) := by
  rw [run, started]

include holds proper compiled given

theorem started_yields {find : Lookup → Answer} (serves : Serves find Q) (strict : Bool)
    {subjects : List Term} (started : starts source start = .ok subjects) :
    Yields find (select strict (source.bound + 1) plan subjects)
      (∃ s, IsStart Q start s ∧ Breaks Q strict plan s) True
      (fun q => ∃ s, IsStart Q start s ∧ Selects Q strict plan s q) := by
  have members := mem_of_starts holds proper started
  have subject_proper : ∀ s ∈ subjects, s.isProper = true := fun s member =>
    ((members s).1 member).isProper proper given
  have enough : Q.card < source.bound + 1 := Nat.lt_succ_of_le holds.bound
  have yields : Yields find (select strict (source.bound + 1) plan subjects) _ _ _ :=
    select_yields serves proper enough compiled subject_proper
  simpa only [members] using yields

theorem run_of_holds :
    ((∃ s, IsStart Q start s ∧ Breaks Q settings.strict.truthy plan s) →
      (({ settings : Engine }).run source plan start).1 = .error .incomparable) ∧
    ((∀ s, IsStart Q start s → ¬ Breaks Q settings.strict.truthy plan s) →
      ∃ quads, (({ settings : Engine }).run source plan start).1 = .ok quads ∧
        ∀ q, q ∈ quads ↔ ∃ s, IsStart Q start s ∧ Selects Q settings.strict.truthy plan s q) := by
  obtain ⟨subjects, started, -⟩ := starts_spec holds proper start
  have served : Serves (({ settings : Engine }).answer source.find) Q := serves_answer rfl holds.find
  obtain ⟨fails, comes⟩ := perform_of_yields
    (started_yields holds proper compiled given served settings.strict.truthy started)
  have ran : (({ settings : Engine }).run source plan start).1 = (({ settings : Engine }).perform source
      (select settings.strict.truthy (source.bound + 1) plan subjects)).1.map (·.getD []) := by
    rw [run_eq started]
    rfl
  rw [ran]
  refine ⟨?_, ?_⟩
  · intro held
    rw [fails held]
    rfl
  · intro sound
    have never : ¬ ∃ s, IsStart Q start s ∧ Breaks Q settings.strict.truthy plan s := by
      intro held
      obtain ⟨s, starts, breaks⟩ := held
      exact sound s starts breaks
    obtain ⟨finding, outcome, finds⟩ := comes never
    obtain ⟨quads, rfl, selected⟩ := finds.1 trivial
    rw [outcome]
    exact ⟨quads, rfl, selected⟩

omit given in
theorem evaluate_of_holds {s : Term} (subject : s.isProper = true) :
    (Breaks Q settings.strict.truthy plan s →
      (({ settings : Engine }).evaluate source plan s).1 = .error .incomparable) ∧
    (¬ Breaks Q settings.strict.truthy plan s →
      ∃ finding, (({ settings : Engine }).evaluate source plan s).1 = .ok finding ∧
        Finds (Accepts Q settings.strict.truthy plan s) (OffersAny Q settings.strict.truthy plan s)
          finding) := by
  have served : Serves (({ settings : Engine }).answer source.find) Q := serves_answer rfl holds.find
  have enough : Q.card < source.bound + 1 := Nat.lt_succ_of_le holds.bound
  have yields : Yields _ (Pull.evaluate settings.strict.truthy (source.bound + 1) plan s) _ _ _ :=
    evaluate_yields served proper enough compiled subject
  exact perform_of_yields yields

end Engine

theorem pull_of_run {settings : LookupSettings} {expression : Value} {plan : Plan} (name : Term)
    (source : Source) (start : Option Term) (valid : settings.ensureValid = .ok ())
    (compiles : compile expression = .ok plan) :
    pull settings name source expression start =
      (({ settings : Engine }).run source plan start).1.map (SetGraph.ofList name) := by
  have made : Engine.ofSettings settings = .ok { settings } := by
    rw [Engine.ofSettings, valid]
    rfl
  simp only [pull, pullWith, compiles, made, bind, Except.bind]
  cases (({ settings : Engine }).run source plan start).1 <;> rfl

theorem pull_eq_map (settings : LookupSettings) (name : Term) (source : Source) (expression : Value)
    (start : Option Term) :
    pull settings name source expression start =
      (pullWith settings name source expression start).map (·.1) := by
  unfold pull
  cases pullWith settings name source expression start <;> rfl

theorem pullWith_of_pull {settings : LookupSettings} {name : Term} {source : Source} {expression : Value}
    {start : Option Term} {g : SetGraph} (pulled : pull settings name source expression start = .ok g) :
    ∃ engine, pullWith settings name source expression start = .ok (g, engine) := by
  rw [pull_eq_map] at pulled
  cases ended : pullWith settings name source expression start with
  | error e => simp [ended, Except.map] at pulled
  | ok result =>
    obtain rfl : result.1 = g := by simpa [ended, Except.map] using pulled
    exact ⟨result.2, rfl⟩

/-- What comes of a pull from a set of quads: the fault of the expression, or that of the settings; values
without a comparison where a level breaks; and otherwise a graph of just the selected quads. -/
def Pulls (Q : Finset Quad) (settings : LookupSettings) (name : Term) (expression : Value)
    (start : Option Term) (r : Except Error SetGraph) : Prop :=
  match compile expression, settings.ensureValid with
  | .error fault, _ => r = .error fault
  | .ok _, .error fault => r = .error fault
  | .ok plan, .ok () =>
    ((∃ s, IsStart Q start s ∧ Breaks Q settings.strict.truthy plan s) → r = .error .incomparable) ∧
    ((∀ s, IsStart Q start s → ¬ Breaks Q settings.strict.truthy plan s) →
      ∃ g, r = .ok g ∧ g.name = name.orDefault ∧
        ∀ q, q ∈ g.quads ↔ ∃ s, IsStart Q start s ∧ Selects Q settings.strict.truthy plan s q)

section

variable {source : Source} {Q : Finset Quad} {settings : LookupSettings} {expression : Value}
  {start : Option Term}

theorem pulls_of_compiled (holds : source.Holds Q) (proper : ∀ q ∈ Q, q.isProper = true)
    (compiled : ∀ plan, compile expression = .ok plan → areCompiled plan = true)
    (given : ∀ s ∈ start, s.isProper = true) (settings : LookupSettings) (name : Term) :
    Pulls Q settings name expression start (pull settings name source expression start) := by
  unfold Pulls
  cases compiles : compile expression with
  | error fault => simp only [pull, pullWith, compiles, bind, Except.bind]
  | ok plan =>
    cases valid : settings.ensureValid with
    | error fault => simp only [pull, pullWith, compiles, Engine.ofSettings, valid, bind, Except.bind]
    | ok =>
      obtain ⟨fails, comes⟩ := Engine.run_of_holds holds proper settings (compiled plan compiles) given
      rw [pull_of_run name source start valid compiles]
      refine ⟨?_, ?_⟩
      · intro breaks
        rw [fails breaks]
        rfl
      · intro sound
        obtain ⟨quads, ended, members⟩ := comes sound
        rw [ended]
        refine ⟨.ofList name quads, rfl, rfl, ?_⟩
        intro q
        have within : ∀ r ∈ quads, r ∈ Q := by
          intro r among
          obtain ⟨s, -, -, offered⟩ := (members r).1 among
          exact mem_of_offersAny offered
        rw [SetGraph.ofList, mem_distinct proper within, members]

theorem pulls_of_holds (holds : source.Holds Q) (proper : ∀ q ∈ Q, q.isProper = true)
    (typed : isTyped expression = true) (given : ∀ s ∈ start, s.isProper = true) (settings : LookupSettings)
    (name : Term) :
    Pulls Q settings name expression start (pull settings name source expression start) :=
  pulls_of_compiled holds proper (fun _ compiles => areCompiled_of_compile compiles typed) given settings name

theorem pull_of_plan (holds : source.Holds Q) (proper : ∀ q ∈ Q, q.isProper = true)
    (valid : settings.ensureValid = .ok ()) {plan : Plan} (compiled : areCompiled plan = true)
    (given : ∀ s ∈ start, s.isProper = true) (name : Term) :
    ((∃ s, IsStart Q start s ∧ Breaks Q settings.strict.truthy plan s) →
      pull settings name source (.plan plan) start = .error .incomparable) ∧
    ((∀ s, IsStart Q start s → ¬ Breaks Q settings.strict.truthy plan s) →
      ∃ g, pull settings name source (.plan plan) start = .ok g ∧ g.name = name.orDefault ∧
        ∀ q, q ∈ g.quads ↔ ∃ s, IsStart Q start s ∧ Selects Q settings.strict.truthy plan s q) := by
  have compiles : compile (.plan plan) = .ok plan := rfl
  have only : ∀ other, compile (.plan plan) = .ok other → areCompiled other = true := by
    intro other same
    exact Except.ok.inj (compiles.symm.trans same) ▸ compiled
  have pulls := pulls_of_compiled holds proper only given settings name
  simpa only [Pulls, compiles, valid] using pulls

theorem Pulls.of_ok {name : Term} {g : SetGraph} (pulls : Pulls Q settings name expression start (.ok g)) :
    ∃ plan, compile expression = .ok plan ∧ settings.ensureValid = .ok () ∧
      (∀ s, IsStart Q start s → ¬ Breaks Q settings.strict.truthy plan s) ∧ g.name = name.orDefault ∧
      ∀ q, q ∈ g.quads ↔ ∃ s, IsStart Q start s ∧ Selects Q settings.strict.truthy plan s q := by
  unfold Pulls at pulls
  cases compiles : compile expression with
  | error fault => simp [compiles] at pulls
  | ok plan =>
    cases valid : settings.ensureValid with
    | error fault => simp [compiles, valid] at pulls
    | ok =>
      simp only [compiles, valid] at pulls
      have sound : ∀ s, IsStart Q start s → ¬ Breaks Q settings.strict.truthy plan s := by
        intro s starts breaks
        cases pulls.1 ⟨s, starts, breaks⟩
      obtain ⟨h, same, named, members⟩ := pulls.2 sound
      obtain rfl := Except.ok.inj same
      exact ⟨plan, rfl, rfl, sound, named, members⟩

def Alike : Except Error SetGraph → Except Error SetGraph → Prop
  | .ok g, .ok h => g.name = h.name ∧ ∀ q, q ∈ g.quads ↔ q ∈ h.quads
  | .error e, .error f => e = f
  | _, _ => False

theorem alike_of_same {starts breaks : Term → Prop} {name : Term} {selected : Quad → Prop}
    {r t : Except Error SetGraph}
    (one : ((∃ s, starts s ∧ breaks s) → r = .error .incomparable) ∧
      ((∀ s, starts s → ¬ breaks s) → ∃ g, r = .ok g ∧ g.name = name ∧ ∀ q, q ∈ g.quads ↔ selected q))
    (other : ((∃ s, starts s ∧ breaks s) → t = .error .incomparable) ∧
      ((∀ s, starts s → ¬ breaks s) → ∃ g, t = .ok g ∧ g.name = name ∧ ∀ q, q ∈ g.quads ↔ selected q)) :
    Alike r t := by
  by_cases broken : ∃ s, starts s ∧ breaks s
  · rw [one.1 broken, other.1 broken]
    rfl
  · have sound : ∀ s, starts s → ¬ breaks s := fun s begins fails => broken ⟨s, begins, fails⟩
    obtain ⟨g, rfl, named, members⟩ := one.2 sound
    obtain ⟨h, rfl, named', members'⟩ := other.2 sound
    exact ⟨named.trans named'.symm, fun q => (members q).trans (members' q).symm⟩

theorem Pulls.alike {name : Term} {r t : Except Error SetGraph}
    (one : Pulls Q settings name expression start r) (other : Pulls Q settings name expression start t) :
    Alike r t := by
  unfold Pulls at one other
  cases compiles : compile expression with
  | error fault =>
    simp only [compiles] at one other
    rw [one, other]
    rfl
  | ok plan =>
    cases valid : settings.ensureValid with
    | error fault =>
      simp only [compiles, valid] at one other
      rw [one, other]
      rfl
    | ok =>
      simp only [compiles, valid] at one other
      exact alike_of_same one other

end

end QuadPull.Pull
