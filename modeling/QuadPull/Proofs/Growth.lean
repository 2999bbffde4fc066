import QuadPull.Proofs.Idempotence

namespace QuadPull.Pull

section

variable {g h : Graph} {few many : List Quad}

theorem toFinset_subset (grows : few ⊆ many) : few.toFinset ⊆ many.toFinset := by
  intro q member
  exact List.mem_toFinset.2 (grows (List.mem_toFinset.1 member))

/-- A subject that a level accepts over the first graph is accepted over the second, with all that it
contributed, unless the level breaks there. -/
theorem evaluate_mono (from_few : g.Stores few) (from_many : h.Stores many) (grows : few ⊆ many)
    (proper : ∀ q ∈ many, q.isProper = true) (settings : LookupSettings) {level : Plan}
    (compiled : areCompiled level = true) {s : Term} (subject : s.isProper = true) {found : List Quad}
    (accepted : (({ settings : Engine }).evaluate g.source level s).1 = .ok (some found)) :
    (∃ more, (({ settings : Engine }).evaluate h.source level s).1 = .ok (some more) ∧ found ⊆ more) ∨
    Breaks many.toFinset settings.strict.truthy level s ∧
      (({ settings : Engine }).evaluate h.source level s).1 = .error .incomparable := by
  have inside : few.toFinset ⊆ many.toFinset := toFinset_subset grows
  have many_proper : ∀ q ∈ many.toFinset, q.isProper = true := fun q member =>
    proper q (List.mem_toFinset.1 member)
  have few_proper : ∀ q ∈ few.toFinset, q.isProper = true := fun q member =>
    many_proper q (inside member)
  have before := Engine.evaluate_of_holds from_few.holds few_proper settings compiled subject
  have after := Engine.evaluate_of_holds from_many.holds many_proper settings compiled subject
  by_cases breaks : Breaks many.toFinset settings.strict.truthy level s
  · exact .inr ⟨breaks, after.1 breaks⟩
  · left
    obtain ⟨finding, ended, finds⟩ := before.2 fun broken => breaks (broken.mono inside)
    rw [accepted] at ended
    obtain ⟨accepts, offered⟩ := finds.of_some (Except.ok.inj ended).symm
    obtain ⟨grown, ended', finds'⟩ := after.2 breaks
    obtain ⟨more, rfl, offered'⟩ := finds'.1 (accepts.mono inside)
    refine ⟨more, ended', ?_⟩
    intro q member
    exact (offered' q).2 (((offered q).1 member).mono inside)

theorem pull_grows (from_few : g.Stores few) (from_many : h.Stores many) (grows : few ⊆ many)
    (proper : ∀ q ∈ many, q.isProper = true) {expression : Value} (typed : isTyped expression = true)
    {plan : Plan} (compiles : compile expression = .ok plan) {settings : LookupSettings}
    (valid : settings.ensureValid = .ok ()) {start : Option Term}
    (given : ∀ s ∈ start, s.isProper = true) :
    -- What a level accepted it accepts, and no less comes of it.
    (∀ level s found, areCompiled level = true → s.isProper = true →
      (({ settings : Engine }).evaluate g.source level s).1 = .ok (some found) →
      (∃ more, (({ settings : Engine }).evaluate h.source level s).1 = .ok (some more) ∧
        found ⊆ more) ∨
      Breaks many.toFinset settings.strict.truthy level s ∧
        (({ settings : Engine }).evaluate h.source level s).1 = .error .incomparable) ∧
    -- What was pulled is pulled, and the pull from more quads fails in one case only.
    ((∀ s, IsStart many.toFinset start s → ¬ Breaks many.toFinset settings.strict.truthy plan s) →
      ∃ small large, (g.pullWith settings expression start).map (·.1) = .ok small ∧
        (h.pullWith settings expression start).map (·.1) = .ok large ∧ small.quads ⊆ large.quads) ∧
    ((∃ s, IsStart many.toFinset start s ∧ Breaks many.toFinset settings.strict.truthy plan s) →
      (h.pullWith settings expression start).map (·.1) = .error .incomparable) := by
  have inside : few.toFinset ⊆ many.toFinset := toFinset_subset grows
  have many_proper : ∀ q ∈ many.toFinset, q.isProper = true := fun q member =>
    proper q (List.mem_toFinset.1 member)
  have few_proper : ∀ q ∈ few.toFinset, q.isProper = true := fun q member =>
    many_proper q (inside member)
  have small_pull := pulls_of_holds from_few.holds few_proper typed given settings
    (g.name?.getD .defaultGraph)
  have large_pull := pulls_of_holds from_many.holds many_proper typed given settings
    (h.name?.getD .defaultGraph)
  rw [pull_eq_map, ← Graph.pullWith] at small_pull large_pull
  simp only [Pulls, compiles, valid] at small_pull large_pull
  refine ⟨?_, ?_, large_pull.1⟩
  · intro level s found compiled subject accepted
    exact evaluate_mono from_few from_many grows proper settings compiled subject accepted
  · intro sound
    have sound_before : ∀ s, IsStart few.toFinset start s →
        ¬ Breaks few.toFinset settings.strict.truthy plan s :=
      fun s starts breaks => sound s (starts.mono inside) (breaks.mono inside)
    obtain ⟨small, pulled, -, members⟩ := small_pull.2 sound_before
    obtain ⟨large, pulled', -, members'⟩ := large_pull.2 sound
    refine ⟨small, large, pulled, pulled', ?_⟩
    intro q member
    obtain ⟨s, starts, selected⟩ := (members q).1 member
    exact (members' q).2 ⟨s, starts.mono inside, selected.mono inside⟩

end

def strangers : SetGraph :=
  .ofList .defaultGraph
    [⟨.iri "a", .iri "knows", .iri "b", .defaultGraph⟩,
      ⟨.iri "b", .iri "age", .typed "30" Vocabulary.xsdInteger, .defaultGraph⟩]

def early : Quad := ⟨.iri "s", .iri "q", .iri "o", .defaultGraph⟩

def late : List Quad := ⟨.iri "s", .iri "a", .iri "s", .defaultGraph⟩ :: numbers.quads

def eitherOf : Value := .plan [.property (.iri "q"), .nested (.iri "a") unlike]

theorem pull_of_strangers :
    (∃ small large, ((Graph.set strangers).pullWith {} whomAtThirty none).map (·.1) = .ok small ∧
      ((Graph.served .stream none friends).pullWith {} whomAtThirty none).map (·.1) = .ok large ∧
      small.quads.length = 2 ∧ small.quads ⊆ large.quads) ∧
    -- Once a level accepts the subject its values are compared, and nothing is found any more.
    ((Graph.set (.ofList .defaultGraph [early])).pullWith {} eitherOf none).map (·.1.quads) =
      .ok [early] ∧
    ((Graph.set (.ofList .defaultGraph (early :: late))).pullWith {} eitherOf none).map (·.1.quads) =
      .error .incomparable := by
  have proper : ∀ q ∈ friends.quads, q.isProper = true := by decide
  have given : ∀ s ∈ (none : Option Term), s.isProper = true := by simp
  have grows : strangers.quads ⊆ friends.quads := by decide
  have two : (((Graph.set strangers).pullWith {} whomAtThirty none).map (·.1)).map
      (·.quads.length) = .ok 2 := by decide +kernel
  have never : (((Graph.served .stream none friends).pullWith {} whomAtThirty none).map (·.1)).map
      (·.quads.length) ≠ .error .incomparable := by decide +kernel
  have streams : Access.stream.answers = true := rfl
  have valid : ({} : LookupSettings).ensureValid = .ok () := by decide
  obtain ⟨plan, compiles⟩ : ∃ plan, compile whomAtThirty = .ok plan := ⟨_, rfl⟩
  obtain ⟨-, grown, fails⟩ := pull_grows (.set strangers) (.served streams none friends) grows proper
    (by decide) compiles valid given
  refine ⟨?_, by decide +kernel, by decide +kernel⟩
  have sound : ∀ s, IsStart friends.quads.toFinset none s →
      ¬ Breaks friends.quads.toFinset ({} : LookupSettings).strict.truthy plan s := by
    intro s starts breaks
    rw [fails ⟨s, starts, breaks⟩] at never
    exact never rfl
  obtain ⟨small, large, pulled, pulled', kept⟩ := grown sound
  rw [pulled] at two
  exact ⟨small, large, pulled, pulled', Except.ok.inj two, kept⟩

end QuadPull.Pull
