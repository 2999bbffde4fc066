import QuadPull.Proofs.Growth
import QuadPull.Proofs.Levels
import QuadPull.Proofs.Repetition
/-!
Levels whose specifiers are the same, in another order or some of them more than once, at any depth,
select the same. One object that is repeated does not even make a pull fail: `in` finds it before `==` is
asked.
-/

namespace QuadPull.Pull

/-- Plans that differ by the order of specifiers and by how often they stand there, at any depth. -/
inductive Rearranged : Plan → Plan → Prop
  | refl (plan : Plan) : Rearranged plan plan
  | keep (spec : Spec) {plan other : Plan} (same : Rearranged plan other) :
      Rearranged (spec :: plan) (spec :: other)
  | swap (first second : Spec) (rest : Plan) : Rearranged (first :: second :: rest) (second :: first :: rest)
  | again (spec : Spec) (rest : Plan) : Rearranged (spec :: rest) (spec :: spec :: rest)
  | within (p : Term) {level other : Plan} (same : Rearranged level other) (rest : Plan) :
      Rearranged (.nested p level :: rest) (.nested p other :: rest)
  | symm {plan other : Plan} (same : Rearranged plan other) : Rearranged other plan
  | trans {plan other third : Plan} (same : Rearranged plan other) (same' : Rearranged other third) :
      Rearranged plan third

namespace Rearranged

variable {plan other : Plan}

/-- A question about single specifiers has the same answer on both plans, if on nested plans that are
rearranged it has the same answer whenever it has on their specifiers. The question may be about some subject,
and then about others further in. -/
theorem exists_iff {α : Type} {P : α → Spec → Prop} (same : Rearranged plan other)
    (nested : ∀ {p level level'}, Rearranged level level' →
      (∀ a, (∃ spec ∈ level, P a spec) ↔ ∃ spec ∈ level', P a spec) →
      ∀ a, P a (.nested p level) ↔ P a (.nested p level')) (a : α) :
    (∃ spec ∈ plan, P a spec) ↔ ∃ spec ∈ other, P a spec := by
  induction same generalizing a with
  | refl plan => rfl
  | keep spec _ ih => simp only [List.exists_mem_cons_iff, ih]
  | swap first second rest => simp only [List.exists_mem_cons_iff, or_left_comm]
  | again spec rest => simp only [List.exists_mem_cons_iff, or_self_left]
  | within p same rest ih => simp only [List.exists_mem_cons_iff, nested same ih a]
  | symm _ ih => exact (ih a).symm
  | trans _ _ ih ih' => exact (ih a).trans (ih' a)

theorem forall_iff {P : Spec → Prop} (same : Rearranged plan other)
    (nested : ∀ {p level level'}, Rearranged level level' →
      ((∀ spec ∈ level, P spec) ↔ ∀ spec ∈ level', P spec) →
      (P (.nested p level) ↔ P (.nested p level'))) :
    (∀ spec ∈ plan, P spec) ↔ ∀ spec ∈ other, P spec := by
  have refuted : ∀ level : Plan, (∀ spec ∈ level, P spec) ↔ ¬ ∃ spec ∈ level, ¬ P spec := by
    intro level
    simp only [not_exists, not_and, not_not]
  rw [refuted, refuted]
  refine not_congr (exists_iff (P := fun _ : Unit => fun spec => ¬ P spec) same ?_ ())
  intro p level level' same inner a
  refine not_congr (nested same ?_)
  rw [refuted, refuted]
  exact not_congr (inner a)

theorem compiled (same : Rearranged plan other) (compiled : areCompiled plan = true) :
    areCompiled other = true := by
  rw [areCompiled_iff] at compiled ⊢
  refine (forall_iff same fun {p level level'} _ inner => ?_).1 compiled
  rw [← areCompiled_iff, ← areCompiled_iff] at inner
  cases p <;> simp only [isCompiled, inner]

theorem quiet (same : Rearranged plan other) (quiet : Spec.areQuiet plan = true) :
    Spec.areQuiet other = true := by
  rw [Spec.areQuiet_iff] at quiet ⊢
  refine (forall_iff same fun {p level level'} _ inner => ?_).1 quiet
  rw [← Spec.areQuiet_iff, ← Spec.areQuiet_iff] at inner
  simp only [Spec.isQuiet, inner]

variable {strict : Bool}

theorem required {p : Term} {v : Value} (same : Rearranged plan other) :
    Required strict plan p v ↔ Required strict other p v := by
  have member : .constraint p v ∈ plan ↔ .constraint p v ∈ other := by
    have equal := exists_iff (P := fun _ : Unit => fun spec => spec = .constraint p v) same (by simp) ()
    simpa only [exists_eq_right] using equal
  have bound := forall_iff (P := fun spec => ∃ q w, spec = .constraint q w ∧ w ≠ .absent) same (by simp)
  rw [Required, Required, member, bound]

variable {Q : Finset Quad}

theorem accepts {s : Term} (same : Rearranged plan other) :
    Accepts Q strict plan s ↔ Accepts Q strict other s := by
  simp only [Accepts, same.required]

theorem offersAny {s : Term} {q : Quad} (same : Rearranged plan other) :
    OffersAny Q strict plan s q ↔ OffersAny Q strict other s q := by
  rw [offersAny_iff, offersAny_iff]
  refine exists_iff (P := fun s => fun spec => Offers Q strict spec s q) same ?_ s
  intro p level level' same inner s
  simp only [← offersAny_iff] at inner
  simp only [Offers, same.accepts, inner]

theorem selects {s : Term} {q : Quad} (same : Rearranged plan other) :
    Selects Q strict plan s q ↔ Selects Q strict other s q := by
  rw [Selects, Selects, same.accepts, same.offersAny]

theorem of_perm (same : plan.Perm other) : Rearranged plan other := by
  induction same with
  | nil => exact .refl []
  | cons spec _ ih => exact .keep spec ih
  | swap first second rest => exact .swap second first rest
  | trans _ _ ih ih' => exact .trans ih ih'

theorem behind (same : Rearranged plan other) (before : Plan) :
    Rearranged (before ++ plan) (before ++ other) := by
  induction before with
  | nil => exact same
  | cons spec rest ih => exact .keep spec ih

end Rearranged

/-- The second plan has, at one level, one specifier once more, behind its first place. It is one object, so
where that counts its values bear marks. -/
inductive Repeats : Plan → Plan → Prop
  | again {before : Plan} {spec : Spec} (earlier : spec ∈ before) (marked : spec.isMarked = true)
      (after : Plan) : Repeats (before ++ after) (before ++ spec :: after)
  | within (before : Plan) (p : Term) {level other : Plan} (same : Repeats level other) (after : Plan) :
      Repeats (before ++ .nested p level :: after) (before ++ .nested p other :: after)

namespace Repeats

variable {plan other : Plan}

theorem rearranged (repeats : Repeats plan other) : Rearranged plan other := by
  induction repeats with
  | @again before spec earlier _ after =>
    obtain ⟨start, rest, rfl⟩ := List.append_of_mem earlier
    have front : (start ++ spec :: rest ++ after).Perm (spec :: (start ++ rest ++ after)) :=
      List.perm_middle.append_right after
    have twice : (start ++ spec :: rest ++ spec :: after).Perm (spec :: spec :: (start ++ rest ++ after)) :=
      (List.perm_middle.append_right _).trans (List.perm_middle.cons spec)
    exact .trans (.of_perm front) (.trans (.again spec _) (.symm (.of_perm twice)))
  | within before p _ after ih => exact .behind (.within p ih after) before

variable {strict : Bool}

theorem isFilter_again {before : Plan} {spec : Spec} (earlier : spec ∈ before) (after : Plan) :
    Plan.isFilter (before ++ spec :: after) = Plan.isFilter (before ++ after) := by
  have filled : ∀ more : Plan, (before ++ more).isEmpty = false := fun more =>
    List.isEmpty_eq_false_iff.2 (List.ne_nil_of_mem (List.mem_append_left more earlier))
  rw [Plan.isFilter, Plan.isFilter, filled, filled, Bool.eq_iff_iff]
  simp only [Bool.not_false, Bool.true_and, List.all_eq_true, List.forall_mem_append, List.forall_mem_cons]
  refine ⟨?_, ?_⟩
  · intro bound
    obtain ⟨front, -, back⟩ := bound
    exact ⟨front, back⟩
  · intro bound
    obtain ⟨front, back⟩ := bound
    exact ⟨front, front spec earlier, back⟩

theorem clashes_iff (repeats : Repeats plan other) :
    Plan.Clashes (Plan.filters plan strict) ↔ Plan.Clashes (Plan.filters other strict) := by
  cases repeats with
  | @again before spec earlier marked after =>
    have filters_by : Plan.filtersBy (before ++ spec :: after) strict =
        Plan.filtersBy (before ++ after) strict := by
      funext one
      simp only [Plan.filtersBy, isFilter_again earlier]
    rw [Plan.filters, Plan.filters, filters_by]
    by_cases filters : Plan.filtersBy (before ++ after) strict spec = true
    · rw [List.filter_append, List.filter_append, List.filter_cons_of_pos filters]
      exact (Plan.clashes_repeated (List.mem_filter.2 ⟨earlier, filters⟩)
        (Spec.equals_self marked) _).symm
    · rw [List.filter_append, List.filter_append, List.filter_cons_of_neg filters]
  | within before p same after =>
    have filters_by : ∀ level : Plan, Plan.filters (before ++ .nested p level :: after) strict =
        if strict then before.filter Spec.isConstraint ++ after.filter Spec.isConstraint else [] := by
      intro level
      cases strict with
      | true =>
        have by_kind : Plan.filtersBy (before ++ .nested p level :: after) true = Spec.isConstraint := rfl
        rw [Plan.filters, by_kind, List.filter_append]
        rfl
      | false => simp [Plan.filters, Plan.filtersBy, Plan.isFilter, Spec.isBound]
    rw [filters_by, filters_by]

theorem stumblesAny_iff {Q : Finset Quad} {s : Term} (repeats : Repeats plan other) :
    StumblesAny Q strict plan s ↔ StumblesAny Q strict other s := by
  induction repeats generalizing s with
  | again earlier _ after =>
    simp only [Pull.stumblesAny_iff, List.mem_append, List.mem_cons]
    refine ⟨?_, ?_⟩
    · intro held
      obtain ⟨one, front | back, stumbles⟩ := held
      · exact ⟨one, .inl front, stumbles⟩
      · exact ⟨one, .inr (.inr back), stumbles⟩
    · intro held
      obtain ⟨one, front | rfl | back, stumbles⟩ := held
      · exact ⟨one, .inl front, stumbles⟩
      · exact ⟨one, .inl earlier, stumbles⟩
      · exact ⟨one, .inr back, stumbles⟩
  | @within before p level other same after ih =>
    have inner : Stumbles Q strict (.nested p level) s ↔ Stumbles Q strict (.nested p other) s := by
      simp only [Stumbles, same.rearranged.accepts, same.clashes_iff, ih]
    simp only [Pull.stumblesAny_iff, List.mem_append, List.mem_cons, or_and_right, exists_or, exists_eq_left,
      inner]

theorem breaks_iff {Q : Finset Quad} {s : Term} (repeats : Repeats plan other) :
    Breaks Q strict plan s ↔ Breaks Q strict other s := by
  rw [Breaks, Breaks, repeats.rearranged.accepts, repeats.clashes_iff, repeats.stumblesAny_iff]

end Repeats

section

variable {Q : Finset Quad} {strict : Bool} {spec : Spec} {level : Plan} {s : Term} {q : Quad}

theorem selects_alone : Selects Q strict [spec] s q ↔ Offers Q strict spec s q := by
  rw [Selects, OffersAny, OffersAny, or_false]
  refine ⟨fun selected => selected.2, fun offered => ⟨?_, offered⟩⟩
  intro p v required
  obtain rfl : Spec.constraint p v = spec := List.mem_singleton.1 required.1
  rw [Offers] at offered
  exact ⟨q, offered⟩

theorem breaks_alone : Breaks Q strict [spec] s ↔ Stumbles Q strict spec s := by
  have few : (Plan.filters [spec] strict).length ≤ 1 := List.length_filter_le _ _
  have apart : ¬ Plan.Clashes (Plan.filters [spec] strict) := by
    intro clashes
    obtain ⟨before, other, between, last, after, split, -⟩ := clashes
    rw [split] at few
    simp at few
    omega
  rw [Breaks, or_iff_right apart, StumblesAny, StumblesAny, or_false]
  refine ⟨fun breaks => breaks.2, fun stumbles => ⟨?_, stumbles⟩⟩
  intro p v required
  obtain rfl : Spec.constraint p v = spec := List.mem_singleton.1 required.1
  simp [Stumbles] at stumbles

theorem accepts_of_filters_nil (none : Plan.filters level strict = []) : Accepts Q strict level s := by
  intro p v required
  have member : .constraint p v ∈ Plan.filters level strict := mem_filters_iff.2 ⟨p, v, rfl, required⟩
  rw [none] at member
  cases member

theorem selects_of_filters_nil (none : Plan.filters level strict = []) :
    Selects Q strict level s q ↔ ∃ spec ∈ level, Selects Q strict [spec] s q := by
  simp only [selects_alone, ← offersAny_iff]
  exact and_iff_right (accepts_of_filters_nil none)

theorem breaks_of_filters_nil (none : Plan.filters level strict = []) :
    Breaks Q strict level s ↔ ∃ spec ∈ level, Breaks Q strict [spec] s := by
  have apart : ¬ Plan.Clashes (Plan.filters level strict) := by
    rw [none]
    exact Plan.not_clashes_of_quiet (by simp)
  simp only [breaks_alone, ← stumblesAny_iff]
  rw [Breaks, and_iff_right (accepts_of_filters_nil none), or_iff_right apart]

end

section

variable {source : Source} {Q : Finset Quad} (holds : source.Holds Q)
  (proper : ∀ q ∈ Q, q.isProper = true) {settings : LookupSettings}
  (valid : settings.ensureValid = .ok ()) {start : Option Term}
  (given : ∀ s ∈ start, s.isProper = true) (name : Term)
include holds proper valid given

/-- A level without filters comes to what its specifiers come to one by one, and fails when one of them does. -/
theorem pull_of_filters_nil {level : Plan} (compiled : areCompiled level = true)
    (none : Plan.filters level settings.strict.truthy = []) :
    ((∀ spec ∈ level, ∃ part, pull settings name source (.plan [spec]) start = .ok part) →
      ∃ whole, pull settings name source (.plan level) start = .ok whole ∧ whole.name = name.orDefault ∧
        ∀ q, q ∈ whole.quads ↔ ∃ spec ∈ level, ∃ part,
          pull settings name source (.plan [spec]) start = .ok part ∧ q ∈ part.quads) ∧
    (∀ spec ∈ level, ∀ e, pull settings name source (.plan [spec]) start = .error e →
      pull settings name source (.plan level) start = .error e) := by
  obtain ⟨fails, comes⟩ := pull_of_plan holds proper valid compiled given name
  simp only [breaks_of_filters_nil none] at fails comes
  have compiled_alone : ∀ spec ∈ level, areCompiled [spec] = true := fun spec member =>
    areCompiled_iff.2 (by simpa using isCompiled_of_mem compiled spec member)
  have alone : ∀ spec ∈ level, _ := fun spec member =>
    pull_of_plan holds proper valid (compiled_alone spec member) given name
  refine ⟨?_, ?_⟩
  · intro ended
    have sound : ∀ spec ∈ level, ∀ s, IsStart Q start s → ¬ Breaks Q settings.strict.truthy [spec] s := by
      intro spec member s starts breaks
      obtain ⟨part, pulled⟩ := ended spec member
      rw [(alone spec member).1 ⟨s, starts, breaks⟩] at pulled
      cases pulled
    obtain ⟨whole, pulled, named, members⟩ := comes fun s starts breaks => by
      obtain ⟨spec, member, broken⟩ := breaks
      exact sound spec member s starts broken
    refine ⟨whole, pulled, named, ?_⟩
    intro q
    rw [members]
    refine ⟨?_, ?_⟩
    · intro held
      obtain ⟨s, starts, selected⟩ := held
      obtain ⟨spec, member, selected⟩ := (selects_of_filters_nil none).1 selected
      obtain ⟨part, pulled', -, members'⟩ := (alone spec member).2 (sound spec member)
      exact ⟨spec, member, part, pulled', (members' q).2 ⟨s, starts, selected⟩⟩
    · intro held
      obtain ⟨spec, member, part, pulled', among⟩ := held
      obtain ⟨part', pulled'', -, members'⟩ := (alone spec member).2 (sound spec member)
      obtain rfl := Except.ok.inj (pulled'.symm.trans pulled'')
      obtain ⟨s, starts, selected⟩ := (members' q).1 among
      exact ⟨s, starts, (selects_of_filters_nil none).2 ⟨spec, member, selected⟩⟩
  · intro spec member e failed
    by_cases breaks : ∃ s, IsStart Q start s ∧ Breaks Q settings.strict.truthy [spec] s
    · obtain ⟨s, starts, broken⟩ := breaks
      rw [← failed, (alone spec member).1 ⟨s, starts, broken⟩]
      exact fails ⟨s, starts, spec, member, broken⟩
    · obtain ⟨part, pulled, -⟩ := (alone spec member).2 fun s starts broken => breaks ⟨s, starts, broken⟩
      rw [pulled] at failed
      cases failed

theorem pull_of_repeats {plan other : Plan} (repeats : Repeats plan other) (compiled : areCompiled plan = true) :
    Alike (pull settings name source (.plan plan) start) (pull settings name source (.plan other) start) := by
  have one := pull_of_plan holds proper valid compiled given name
  have more := pull_of_plan holds proper valid (repeats.rearranged.compiled compiled) given name
  simp only [← repeats.breaks_iff, ← repeats.rearranged.selects] at more
  exact alike_of_same one more

theorem arrangement_irrelevant :
    -- The order and the repetition of specifiers, at any depth, only count for which values are compared.
    (∀ plan other, Rearranged plan other → areCompiled plan = true →
      ((∀ s, IsStart Q start s →
          ¬ Breaks Q settings.strict.truthy plan s ∧ ¬ Breaks Q settings.strict.truthy other s) →
        ∃ g h, pull settings name source (.plan plan) start = .ok g ∧
          pull settings name source (.plan other) start = .ok h ∧
          g.name = h.name ∧ ∀ q, q ∈ g.quads ↔ q ∈ h.quads) ∧
      ((∃ s, IsStart Q start s ∧ Breaks Q settings.strict.truthy plan s) →
        pull settings name source (.plan plan) start = .error .incomparable) ∧
      ((∃ s, IsStart Q start s ∧ Breaks Q settings.strict.truthy other s) →
        pull settings name source (.plan other) start = .error .incomparable) ∧
      (Spec.areQuiet plan = true → ∀ s,
        ¬ Breaks Q settings.strict.truthy plan s ∧ ¬ Breaks Q settings.strict.truthy other s)) ∧
    -- One object that is repeated, at any depth, changes nothing, faults included.
    (∀ plan other, Repeats plan other → areCompiled plan = true →
      Alike (pull settings name source (.plan plan) start) (pull settings name source (.plan other) start)) ∧
    -- A level without filters is the union of its specifiers, faults included.
    (∀ level, areCompiled level = true → Plan.filters level settings.strict.truthy = [] →
      ((∀ spec ∈ level, ∃ part, pull settings name source (.plan [spec]) start = .ok part) →
        ∃ whole, pull settings name source (.plan level) start = .ok whole ∧ whole.name = name.orDefault ∧
          ∀ q, q ∈ whole.quads ↔ ∃ spec ∈ level, ∃ part,
            pull settings name source (.plan [spec]) start = .ok part ∧ q ∈ part.quads) ∧
      ∀ spec ∈ level, ∀ e, pull settings name source (.plan [spec]) start = .error e →
        pull settings name source (.plan level) start = .error e) := by
  refine ⟨?_, fun plan other => pull_of_repeats holds proper valid given name,
    fun level compiled none => pull_of_filters_nil holds proper valid given name compiled none⟩
  intro plan other same compiled
  obtain ⟨fails, comes⟩ := pull_of_plan holds proper valid compiled given name
  obtain ⟨fails', comes'⟩ := pull_of_plan holds proper valid (same.compiled compiled) given name
  refine ⟨?_, fails, fails', ?_⟩
  · intro sound
    obtain ⟨g, pulled, named, members⟩ := comes fun s starts => (sound s starts).1
    obtain ⟨h, pulled', named', members'⟩ := comes' fun s starts => (sound s starts).2
    refine ⟨g, h, pulled, pulled', named.trans named'.symm, ?_⟩
    intro q
    simp only [members, members', same.selects]
  · intro quiet s
    exact ⟨not_breaks_of_quiet quiet s, not_breaks_of_quiet (same.quiet quiet) s⟩

end

def knownOrThirty : Plan := [.property (.iri "knows"), .constraint (.iri "age") (.int 30)]

def thirtyOrKnown : Plan :=
  [.constraint (.iri "age") (.int 30), .property (.iri "knows"), .constraint (.iri "age") (.int 30)]

def signaling (object : Option Nat) : Spec := .constraint (.iri "p") (.decimal (.nan false true []) object)

theorem pulls_of_rearranged :
    (∃ g h, pull {} .defaultGraph (Graph.set friends).source (.plan knownOrThirty) none = .ok g ∧
      pull {} .defaultGraph (Graph.set friends).source (.plan thirtyOrKnown) none = .ok h ∧
      g.quads.length = 3 ∧ ∀ q, q ∈ g.quads ↔ q ∈ h.quads) ∧
    (∃ whole, pull {} .defaultGraph (Graph.set friends).source (.plan knownOrThirty) none = .ok whole ∧
      ∀ q, q ∈ whole.quads ↔ ∃ spec ∈ knownOrThirty, ∃ part,
        pull {} .defaultGraph (Graph.set friends).source (.plan [spec]) none = .ok part ∧ q ∈ part.quads) ∧
    -- Two signaling decimals are compared with each other, and one that is asked for twice is not.
    (pull {} .defaultGraph (Graph.set numbers).source (.plan [signaling none]) none).map (·.quads) =
      .ok [numbered "sNaN" Vocabulary.xsdDecimal] ∧
    (pull {} .defaultGraph (Graph.set numbers).source (.plan [signaling none, signaling none]) none).map
      (·.quads) = .error .incomparable ∧
    (pull {} .defaultGraph (Graph.set numbers).source (.plan [signaling (some 0), signaling (some 0)]) none).map
      (·.quads) = .ok [numbered "sNaN" Vocabulary.xsdDecimal] := by
  have proper : ∀ q ∈ friends.quads.toFinset, q.isProper = true := by decide
  have given : ∀ s ∈ (none : Option Term), s.isProper = true := by simp
  have valid : ({} : LookupSettings).ensureValid = .ok () := by decide
  obtain ⟨rearranged, -, decomposed⟩ := arrangement_irrelevant (holds_set friends) proper valid given
    .defaultGraph
  have same : Rearranged knownOrThirty thirtyOrKnown :=
    .trans (.swap _ _ _) (.trans (.again _ _) (.keep _ (.swap _ _ _)))
  obtain ⟨alike, -, -, sound⟩ := rearranged knownOrThirty thirtyOrKnown same (by decide)
  obtain ⟨g, h, pulled, pulled', -, members⟩ := alike fun s _ => sound (by decide) s
  have three : (pull {} .defaultGraph (Graph.set friends).source (.plan knownOrThirty) none).map
      (·.quads.length) = .ok 3 := by decide +kernel
  rw [pulled] at three
  refine ⟨⟨g, h, pulled, pulled', Except.ok.inj three, members⟩, ?_, by decide +kernel, by decide +kernel,
    by decide +kernel⟩
  obtain ⟨union, -⟩ := decomposed knownOrThirty (by decide) rfl
  obtain ⟨whole, ended, -, parts⟩ := union fun spec member => by
    have returns : ∀ spec ∈ knownOrThirty, (pull {} .defaultGraph (Graph.set friends).source
        (.plan [spec]) none).toOption.isSome = true := by decide +kernel
    have ended := returns spec member
    cases pulled : pull {} .defaultGraph (Graph.set friends).source (.plan [spec]) none with
    | ok part => exact ⟨part, rfl⟩
    | error e =>
      rw [pulled] at ended
      cases ended
  exact ⟨whole, ended, parts⟩

end QuadPull.Pull
