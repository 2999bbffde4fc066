import QuadPull.Proofs.Pursuit

namespace QuadPull.Pull

theorem Faults.mem_collect_error {α : Type} {rs : List (Except Faults α)} {f faults : Faults}
    (member : .error f ∈ rs) (collected : collect rs = .error faults) :
    ∀ e ∈ f.toList, e ∈ faults.toList := by
  induction rs generalizing faults with
  | nil => cases member
  | cons r rest ih =>
    intro e held
    cases r with
    | ok a =>
      have later : .error f ∈ rest := by simpa using member
      cases others : collect rest with
      | ok as => simp [collect, others, Except.map] at collected
      | error g =>
        obtain rfl : g = faults := by simpa [collect, others, Except.map] using collected
        exact ih later others e held
    | error own =>
      cases others : collect rest with
      | ok as =>
        obtain rfl : own = faults := by simpa [collect, others] using collected
        rcases List.mem_cons.1 member with same | later
        · cases same
          exact held
        · obtain ⟨g, failed⟩ := exists_collect_error later
          rw [others] at failed
          cases failed
      | error g =>
        obtain rfl : ⟨own.first, own.others ++ g.toList⟩ = faults := by
          simpa [collect, others] using collected
        have either : e ∈ own.toList ∨ e ∈ g.toList := by
          rcases List.mem_cons.1 member with same | later
          · cases same
            exact .inl held
          · exact .inr (ih later others e held)
        simpa [toList, or_assoc] using either

namespace Inquiry

theorem induct {P : Inquiry → Prop} (done : ∀ result, P (.done result))
    (ask : ∀ l next, (∀ quads, P (next quads)) → P (.ask l next))
    (gather : ∀ parts next, (∀ part ∈ parts, P part) → (∀ findings, P (next findings)) →
      P (.gather parts next)) (i : Inquiry) : P i :=
  @Inquiry.rec P (fun parts => ∀ part ∈ parts, P part) done ask gather (List.forall_mem_nil _)
    (fun _ _ one others => List.forall_mem_cons.2 ⟨one, others⟩) i

theorem mem_demands_ask (find : Lookup → Answer) (l : Lookup) (next : List Quad → Inquiry) :
    l ∈ (ask l next).demands find := by
  rw [demands, pursue]
  cases find l <;> simp

variable {find find' : Lookup → Answer}

theorem demands_part {parts : List Inquiry} {part : Inquiry} (member : part ∈ parts)
    (next : List Finding → Inquiry) {l : Lookup} (asked : l ∈ part.demands find) :
    l ∈ (gather parts next).demands find := by
  have first : l ∈ ((pursueAll find parts).flatMap (·.asked)).map (·.1) := by
    rw [demands_pursueAll]
    exact List.mem_flatMap_of_mem member asked
  rw [demands, pursue]
  cases Faults.collect ((pursueAll find parts).map (·.outcome)) with
  | ok findings =>
    rw [List.map_append]
    exact List.mem_append_left _ first
  | error faults => exact first

theorem pursueAll_congr {parts : List Inquiry}
    (each : ∀ part ∈ parts, part.pursue find' = part.pursue find) :
    pursueAll find' parts = pursueAll find parts := by
  rw [pursueAll_eq_map, pursueAll_eq_map]
  exact List.map_congr_left each

theorem outcomes_of_collect {parts : List Inquiry} {findings : List Finding}
    (collected : Faults.collect ((pursueAll find parts).map (·.outcome)) = .ok findings) :
    parts.map (·.outcome find) = findings.map .ok := by
  rw [← outcomes_pursueAll]
  exact Faults.collect_eq_ok.1 collected

theorem demands_next {parts : List Inquiry} {findings : List Finding}
    (collected : Faults.collect ((pursueAll find parts).map (·.outcome)) = .ok findings)
    {next : List Finding → Inquiry} {l : Lookup} (asked : l ∈ (next findings).demands find) :
    l ∈ (gather parts next).demands find := by
  rw [demands, pursue, collected, List.map_append]
  exact List.mem_append_right _ asked

theorem pursue_congr (i : Inquiry) (same : ∀ l ∈ i.demands find, find' l = find l) :
    i.pursue find' = i.pursue find := by
  induction i using induct with
  | done result => cases result <;> rfl
  | ask l next ih =>
    rw [pursue, pursue, same l (mem_demands_ask find l next)]
    cases answered : find l with
    | error e => rfl
    | ok quads =>
      have rest : (next quads).pursue find' = (next quads).pursue find := by
        refine ih quads fun m asked => same m ?_
        rw [demands_ask answered]
        exact List.mem_cons_of_mem _ asked
      simp only [rest]
  | gather parts next parts_ih next_ih =>
    have parts_same : pursueAll find' parts = pursueAll find parts := pursueAll_congr fun part member =>
      parts_ih part member fun l asked => same l (demands_part member next asked)
    rw [pursue, pursue, parts_same]
    cases collected : Faults.collect ((pursueAll find parts).map (·.outcome)) with
    | error faults => rfl
    | ok findings =>
      have rest : (next findings).pursue find' = (next findings).pursue find :=
        next_ih findings fun l asked => same l (demands_next collected asked)
      simp only [rest]

/-- What a store that fails some lookups makes of an inquiry: the same as another store that does not, or a
failure with faults of those lookups and faults of its own. -/
structure Fails (find find' : Lookup → Answer) (i : Inquiry) : Prop where
  fewer : ∀ l ∈ i.demands find', l ∈ i.demands find
  comes : (∀ l ∈ i.demands find, find' l = find l) ∨
    ∃ faults, i.outcome find' = .error faults ∧ ∀ e ∈ faults.toList,
      (∃ l ∈ i.demands find, find' l ≠ find l ∧ find' l = .error e) ∨
      ∃ own, i.outcome find = .error own ∧ e ∈ own.toList

theorem fails_of_same {i : Inquiry} (same : ∀ l ∈ i.demands find, find' l = find l) :
    Fails find find' i where
  fewer := by
    intro l asked
    rwa [demands, pursue_congr i same] at asked
  comes := .inl same

theorem mem_faults_part {parts : List Inquiry} {part : Inquiry} (member : part ∈ parts) {own : Faults}
    (failed : part.outcome find = .error own) (next : List Finding → Inquiry) :
    ∃ faults, (gather parts next).outcome find = .error faults ∧
      ∀ e ∈ own.toList, e ∈ faults.toList := by
  have among : Except.error own ∈ (pursueAll find parts).map (·.outcome) := by
    rw [outcomes_pursueAll]
    exact List.mem_map.2 ⟨part, member, failed⟩
  obtain ⟨faults, collected⟩ := Faults.exists_collect_error among
  exact ⟨faults, by simp [outcome, pursue, collected], Faults.mem_collect_error among collected⟩

theorem fails_ask (l : Lookup) {next : List Quad → Inquiry}
    (broken : find' l = find l ∨ ∃ e, find' l = .error e)
    (later : ∀ quads, find l = .ok quads → Fails find find' (next quads)) :
    Fails find find' (ask l next) := by
  have first := mem_demands_ask find l next
  by_cases alike : find' l = find l
  · cases answered : find l with
    | error e =>
      refine fails_of_same fun m asked => ?_
      obtain rfl : m = l := by simpa [demands, pursue, answered] using asked
      exact alike
    | ok quads =>
      have answered' : find' l = .ok quads := alike.trans answered
      obtain ⟨fewer, comes⟩ := later quads answered
      refine ⟨?_, ?_⟩
      · rw [demands_ask answered', demands_ask answered]
        exact fun m asked => List.cons_subset_cons l fewer asked
      · rw [outcome_ask answered', outcome_ask answered, demands_ask answered]
        rcases comes with same | ⟨faults, failed, known⟩
        · exact .inl (List.forall_mem_cons.2 ⟨alike, same⟩)
        · refine .inr ⟨faults, failed, fun e held => ?_⟩
          rcases known e held with ⟨m, asked, differs, fault⟩ | own
          · exact .inl ⟨m, List.mem_cons_of_mem _ asked, differs, fault⟩
          · exact .inr own
  · obtain ⟨e, failed⟩ := broken.resolve_left alike
    refine ⟨?_, .inr ⟨{ first := e }, ?_, ?_⟩⟩
    · intro m asked
      obtain rfl : m = l := by simpa [demands, pursue, failed] using asked
      exact first
    · simp [outcome, pursue, failed, Inquiry.failed]
    · intro f held
      obtain rfl : f = e := by simpa [Faults.toList] using held
      exact .inl ⟨l, first, alike, failed⟩

section

variable {parts : List Inquiry} (next : List Finding → Inquiry)

theorem fails_part (each : ∀ part ∈ parts, Fails find find' part) {part : Inquiry} (member : part ∈ parts)
    {fault : Faults} (failed : part.outcome find' = .error fault) :
    Fails find find' (gather parts next) := by
  obtain ⟨⟨faults, outcome, origin⟩, demands⟩ := gather_fails next member failed
  refine ⟨?_, .inr ⟨faults, outcome, ?_⟩⟩
  · rw [demands]
    intro l asked
    obtain ⟨other, among, asked⟩ := List.mem_flatMap.1 asked
    exact demands_part among next ((each other among).fewer l asked)
  · intro e held
    obtain ⟨other, among, own, failed, said⟩ := origin e held
    rcases (each other among).comes with same | ⟨theirs, failed', known⟩
    · have before : other.outcome find = .error own := by
        rw [← failed, Inquiry.outcome, Inquiry.outcome, pursue_congr other same]
      obtain ⟨all, failing, kept⟩ := mem_faults_part among before next
      exact .inr ⟨all, failing, kept e said⟩
    · obtain rfl : own = theirs := Except.error.inj (failed.symm.trans failed')
      rcases known e said with ⟨l, asked, differs, fault⟩ | ⟨before, failing, said⟩
      · exact .inl ⟨l, demands_part among next asked, differs, fault⟩
      · obtain ⟨all, failing, kept⟩ := mem_faults_part among failing next
        exact .inr ⟨all, failing, kept e said⟩

theorem fails_next (alike : ∀ part ∈ parts, ∀ l ∈ part.demands find, find' l = find l)
    (later : ∀ findings, parts.map (·.outcome find) = List.map .ok findings →
      Fails find find' (next findings)) : Fails find find' (gather parts next) := by
  have parts_same : pursueAll find' parts = pursueAll find parts := pursueAll_congr fun part member =>
    pursue_congr part (alike part member)
  cases collected : Faults.collect ((pursueAll find parts).map (·.outcome)) with
  | error faults =>
    refine fails_of_same fun l asked => ?_
    rw [demands, pursue, collected, demands_pursueAll] at asked
    obtain ⟨part, member, asked⟩ := List.mem_flatMap.1 asked
    exact alike part member l asked
  | ok findings =>
    have found := outcomes_of_collect collected
    have found' : parts.map (·.outcome find') = List.map .ok findings := by
      rw [← outcomes_pursueAll, parts_same, outcomes_pursueAll, found]
    have first : parts.flatMap (·.demands find') = parts.flatMap (·.demands find) := by
      rw [← demands_pursueAll, ← demands_pursueAll, parts_same]
    obtain ⟨fewer, comes⟩ := later findings found
    refine ⟨?_, ?_⟩
    · rw [demands_gather found', demands_gather found, first]
      exact fun l asked => List.mem_append.2 ((List.mem_append.1 asked).imp_right (fewer l))
    · rw [outcome_gather found', outcome_gather found, demands_gather found]
      rcases comes with same | ⟨faults, failed, known⟩
      · refine .inl fun l asked => ?_
        rcases List.mem_append.1 asked with early | late
        · obtain ⟨part, member, asked⟩ := List.mem_flatMap.1 early
          exact alike part member l asked
        · exact same l late
      · refine .inr ⟨faults, failed, fun e held => ?_⟩
        rcases known e held with ⟨l, asked, differs, fault⟩ | own
        · exact .inl ⟨l, List.mem_append_right _ asked, differs, fault⟩
        · exact .inr own

end

/-- A store that fails some of the lookups of an inquiry fails it as well, and changes nothing when it fails
none of them. -/
theorem fails (i : Inquiry) (broken : ∀ l ∈ i.demands find, find' l = find l ∨ ∃ e, find' l = .error e) :
    Fails find find' i := by
  induction i using induct with
  | done result => exact fails_of_same (by simp [demands_done])
  | ask l next ih =>
    refine fails_ask l (broken l (mem_demands_ask find l next)) fun quads answered => ?_
    refine ih quads fun m asked => broken m ?_
    rw [demands_ask answered]
    exact List.mem_cons_of_mem _ asked
  | gather parts next parts_ih next_ih =>
    have each : ∀ part ∈ parts, Fails find find' part := fun part member =>
      parts_ih part member fun l asked => broken l (demands_part member next asked)
    -- Only parts that meet no failure leave it to the rest; any other one has ended the whole already.
    by_cases alike : ∀ part ∈ parts, ∀ l ∈ part.demands find, find' l = find l
    · refine fails_next next alike fun findings found => next_ih findings fun l asked => broken l ?_
      rw [demands_gather found]
      exact List.mem_append_right _ asked
    · obtain ⟨part, member, differs⟩ :
          ∃ part ∈ parts, ¬ ∀ l ∈ part.demands find, find' l = find l := by
        simpa using alike
      obtain ⟨faults, failed, -⟩ := (each part member).comes.resolve_left differs
      exact fails_part next each member failed

end Inquiry

end QuadPull.Pull
