import QuadPull.Proofs.Locality
import QuadPull.Proofs.Outcome
/-!
The books of an engine do not depend on whether an inquiry makes its lookups together or one after
another.
-/

namespace QuadPull.Pull

theorem Inquiry.asked_answers {find : Lookup → Answer} (i : Inquiry) :
    ∀ a ∈ (i.pursue find).asked, a.2 = find a.1 := by
  induction i using Inquiry.induct with
  | done result => cases result <;> simp [pursue]
  | ask l next ih =>
    rw [pursue]
    cases answered : find l with
    | error e => simp [answered]
    | ok quads => exact List.forall_mem_cons.2 ⟨answered.symm, ih quads⟩
  | gather parts next parts_ih next_ih =>
    have first : ∀ a ∈ (pursueAll find parts).flatMap (·.asked), a.2 = find a.1 := by
      rw [pursueAll_eq_map, List.flatMap_map]
      intro a among
      obtain ⟨part, member, asked⟩ := List.mem_flatMap.1 among
      exact parts_ih part member a asked
    rw [pursue]
    cases Faults.collect ((pursueAll find parts).map (·.outcome)) with
    | error faults => exact first
    | ok findings => exact List.forall_mem_append.2 ⟨first, next_ih findings⟩

namespace Engine

/-- What an engine has come to that has made some proper lookups: one that remembers answers remembers just
theirs, each once, and has charged as many. -/
structure Books (source : Source) (settings : LookupSettings) (asked : List Lookup) (e : Engine) : Prop where
  same : e.settings = settings
  proper : ∀ l ∈ asked, l.isProper = true
  keys : ∀ l, l ∈ e.memory.map (·.1) ↔ settings.cached.truthy = true ∧ l ∈ asked
  each : (e.memory.map (·.1)).Nodup
  answers : ∀ m ∈ e.memory, m.2 = source.find m.1
  lookups : e.lookups = if settings.cached.truthy then e.memory.length else asked.length

theorem books_fresh (source : Source) (settings : LookupSettings) : Books source settings [] { settings } where
  same := rfl
  proper := by simp
  keys := by simp
  each := List.nodup_nil
  answers := by simp
  lookups := by simp

theorem distinct_lookups {made : List (Lookup × Answer)} (lookups : ∀ a ∈ made, a.1.isProper = true) :
    ((Distinct.ofList (·.1.settled) made).map (·.1)).Nodup ∧
      ∀ l, l ∈ (Distinct.ofList (·.1.settled) made).map (·.1) ↔ l ∈ made.map (·.1) := by
  have settled : ∀ a ∈ Distinct.ofList (·.1.settled) made, a.1.settled = a.1 := fun a among =>
    Lookup.settled_of_isProper (lookups a (Distinct.mem_of_mem_ofList among))
  refine ⟨?_, ?_⟩
  · have each : ((Distinct.ofList (·.1.settled) made).map (·.1.settled)).Nodup := Distinct.each_ofList
    rwa [List.map_congr_left settled] at each
  · intro l
    refine ⟨?_, ?_⟩
    · intro held
      obtain ⟨a, among, rfl⟩ := List.mem_map.1 held
      exact List.mem_map_of_mem (Distinct.mem_of_mem_ofList among)
    · intro held
      obtain ⟨a, member, rfl⟩ := List.mem_map.1 held
      have kept : Distinct.holds (·.1.settled) (Distinct.ofList (·.1.settled) made) a = true :=
        Distinct.holds_ofList.2 (Distinct.holds_of_mem member)
      obtain ⟨b, among, same⟩ := Distinct.holds_iff.1 kept
      rw [settled b among, Lookup.settled_of_isProper (lookups a member)] at same
      exact same ▸ List.mem_map_of_mem among

section

variable {source : Source} {settings : LookupSettings} {asked : List Lookup} {e : Engine}
  (books : Books source settings asked e)
include books

theorem Books.lookups_cached (cached : settings.cached.truthy = true) :
    e.lookups = asked.toFinset.card := by
  have same : (e.memory.map (·.1)).toFinset = asked.toFinset := by
    ext l
    rw [List.mem_toFinset, List.mem_toFinset, books.keys, and_iff_right cached]
  rw [books.lookups, if_pos cached, ← same, List.toFinset_card_of_nodup books.each, List.length_map]

theorem Books.lookups_plain (plain : settings.cached.truthy = false) : e.lookups = asked.length := by
  rw [books.lookups, plain, if_neg Bool.false_ne_true]

theorem Books.settled {m : Lookup × Answer} (kept : m ∈ e.memory) : m.1.settled = m.1 := by
  have known := (books.keys m.1).1 (List.mem_map_of_mem kept)
  exact Lookup.settled_of_isProper (books.proper m.1 known.2)

theorem Books.unknown_iff {l : Lookup} (lookup : l.isProper = true)
    (cached : settings.cached.truthy = true) : (e.remembered? l).isNone = true ↔ l ∉ asked := by
  obtain rfl := books.same
  have keys : l ∈ e.memory.map (·.1) ↔ l ∈ asked := (books.keys l).trans (and_iff_right cached)
  rw [remembered?, if_pos cached, Lookup.remembered?, Option.isNone_iff_eq_none, Keyed.get?_eq_none_iff,
    ← keys]
  refine ⟨?_, ?_⟩
  · intro none among
    obtain ⟨m, kept, rfl⟩ := List.mem_map.1 among
    exact none m kept rfl
  · intro absent m kept same
    rw [books.settled kept, Lookup.settled_of_isProper lookup] at same
    exact absent (same ▸ List.mem_map_of_mem kept)

theorem Books.answer {l : Lookup} (lookup : l.isProper = true) :
    e.answer source.find l = source.find l := by
  have remembered : ∀ a, e.remembered? l = some a → a = source.find l := by
    intro a known
    unfold remembered? at known
    split at known
    · obtain ⟨m, kept, same⟩ := Keyed.mem_of_get?_eq_some known
      have proper := books.settled kept
      rw [proper, Lookup.settled_of_isProper lookup] at same
      have told : a = source.find m := books.answers (m, a) kept
      exact told.trans (congrArg source.find same)
    · cases known
  rw [Engine.answer, Lookup.hashable_of_isProper lookup, Bool.not_true, Bool.and_false,
    if_neg Bool.false_ne_true]
  cases known : e.remembered? l with
  | none => rfl
  | some a => exact remembered a known

theorem Books.charged (cached : settings.cached.truthy = true) {made : List (Lookup × Answer)}
    (lookups : ∀ a ∈ made, a.1.isProper = true) :
    (∀ a ∈ e.charged made, a ∈ made) ∧ ((e.charged made).map (·.1)).Nodup ∧
      ∀ l, l ∈ (e.charged made).map (·.1) ↔ l ∈ made.map (·.1) ∧ l ∉ asked := by
  obtain rfl := books.same
  have unknown : ∀ a ∈ made, (e.remembered? a.1).isNone = true ↔ a.1 ∉ asked := fun a member =>
    books.unknown_iff (lookups a member) cached
  have fresh : ∀ a ∈ made.filter fun a => (e.remembered? a.1).isNone, a.1.isProper = true :=
    fun a among => lookups a (List.mem_of_mem_filter among)
  obtain ⟨each, members⟩ := distinct_lookups fresh
  rw [Engine.charged, if_pos cached]
  refine ⟨fun a among => List.mem_of_mem_filter (Distinct.mem_of_mem_ofList among), each, ?_⟩
  intro l
  rw [members]
  refine ⟨?_, ?_⟩
  · intro held
    obtain ⟨a, among, rfl⟩ := List.mem_map.1 held
    obtain ⟨member, new⟩ := List.mem_filter.1 among
    exact ⟨List.mem_map_of_mem member, (unknown a member).1 new⟩
  · intro held
    obtain ⟨among, new⟩ := held
    obtain ⟨a, member, rfl⟩ := List.mem_map.1 among
    exact List.mem_map_of_mem (List.mem_filter.2 ⟨member, (unknown a member).2 new⟩)

theorem Books.after {made : List (Lookup × Answer)} (lookups : ∀ a ∈ made, a.1.isProper = true)
    (told : ∀ a ∈ made, a.2 = source.find a.1) :
    Books source settings (asked ++ made.map (·.1)) (e.after made) := by
  obtain rfl := books.same
  have proper : ∀ l ∈ asked ++ made.map (·.1), l.isProper = true := by
    refine List.forall_mem_append.2 ⟨books.proper, ?_⟩
    intro l among
    obtain ⟨a, member, rfl⟩ := List.mem_map.1 among
    exact lookups a member
  cases cached : e.settings.cached.truthy with
  | false =>
    have none : e.memory = [] := by
      rw [List.eq_nil_iff_forall_not_mem]
      intro m kept
      have known := (books.keys m.1).1 (List.mem_map_of_mem kept)
      rw [cached] at known
      cases known.1
    have made_all : e.charged made = made := by
      rw [Engine.charged, cached, if_neg Bool.false_ne_true]
    refine ⟨rfl, proper, ?_, ?_, ?_, ?_⟩
    all_goals simp [Engine.after, cached, none, made_all, books.lookups]
  | true =>
    -- Only what was unknown is charged, so nothing is remembered twice.
    obtain ⟨within, each, keys⟩ := books.charged cached lookups
    refine ⟨rfl, proper, ?_, ?_, ?_, ?_⟩
    · intro l
      simp only [Engine.after, cached, if_true, List.map_append, List.mem_append, keys, books.keys]
      tauto
    · simp only [Engine.after, cached, if_true, List.map_append]
      refine each.append books.each ?_
      intro l new old
      exact ((keys l).1 new).2 ((books.keys l).1 old).2
    · simp only [Engine.after, cached, if_true]
      exact List.forall_mem_append.2 ⟨fun a among => told a (within a among), books.answers⟩
    · simp [Engine.after, cached, books.lookups, Nat.add_comm]

theorem Books.pursue {i : Inquiry} (proper : ∀ l ∈ i.demands source.find, l.isProper = true) :
    i.pursue (e.answer source.find) = i.pursue source.find :=
  Inquiry.pursue_congr i fun l made => books.answer (proper l made)

theorem Books.perform {i : Inquiry} (proper : ∀ l ∈ i.demands source.find, l.isProper = true)
    {finding : Finding} (outcome : i.outcome source.find = .ok finding) :
    ∃ e', e.perform source i = (.ok finding, e') ∧
      Books source settings (asked ++ i.demands source.find) e' := by
  have same := books.pursue proper
  have lookups : ∀ a ∈ (i.pursue source.find).asked, a.1.isProper = true := fun a among =>
    proper a.1 (List.mem_map_of_mem among)
  have alike : areAlike (i.pursue source.find).asked = true := areAlike_of_proper proper
  have ended : (i.pursue source.find).outcome = .ok finding := outcome
  refine ⟨e.after (i.pursue source.find).asked, ?_, books.after lookups i.asked_answers⟩
  rw [Engine.perform, same, alike, Bool.not_true, Bool.and_false, ended]
  rfl

end

section

variable (source : Source)

mutual

/-- Makes the lookups of an inquiry one by one, those of its parts in their order. -/
def inSequence : Inquiry → Engine → Except Error Finding × Engine
  | .done result, e => (result, e)
  | .ask l next, e =>
    match e.lookup source l with
    | (.ok quads, e) => inSequence (next quads) e
    | (.error fault, e) => (.error fault, e)
  | .gather parts next, e =>
    match allInSequence parts e with
    | (.ok findings, e) => inSequence (next findings) e
    | (.error fault, e) => (.error fault, e)

def allInSequence : List Inquiry → Engine → Except Error (List Finding) × Engine
  | [], e => (.ok [], e)
  | part :: rest, e =>
    match inSequence part e with
    | (.error fault, e) => (.error fault, e)
    | (.ok finding, e) =>
      match allInSequence rest e with
      | (.ok findings, e) => (.ok (finding :: findings), e)
      | (.error fault, e) => (.error fault, e)

end

end

variable {source : Source} {settings : LookupSettings} {asked : List Lookup} {e : Engine}

theorem Books.lookup (books : Books source settings asked e) {l : Lookup} (proper : l.isProper = true)
    {quads : List Quad} (answered : source.find l = .ok quads) :
    ∃ e', e.lookup source l = (.ok quads, e') ∧ Books source settings (asked ++ [l]) e' := by
  have made : (Inquiry.fetch l).demands source.find = [l] := Inquiry.demands_fetch answered
  have lookups : ∀ m ∈ (Inquiry.fetch l).demands source.find, m.isProper = true := by
    rw [made]
    exact List.forall_mem_singleton.2 proper
  obtain ⟨e', ended, after⟩ := books.perform lookups (Inquiry.outcome_fetch answered)
  rw [made] at after
  refine ⟨e', ?_, after⟩
  rw [Engine.lookup, Engine.collect, ended]
  rfl

/-- One by one, an engine comes to the finding of an inquiry that ends well, with its lookups in the books. -/
def Follows (source : Source) (i : Inquiry) : Prop :=
  ∀ {settings : LookupSettings} {asked : List Lookup} {e : Engine}, Books source settings asked e →
    (∀ l ∈ i.demands source.find, l.isProper = true) →
    ∀ {finding : Finding}, i.outcome source.find = .ok finding →
      ∃ e', inSequence source i e = (.ok finding, e') ∧
        Books source settings (asked ++ i.demands source.find) e'

theorem follows_all {parts : List Inquiry} (follows : ∀ part ∈ parts, Follows source part)
    (books : Books source settings asked e)
    (proper : ∀ l ∈ parts.flatMap (·.demands source.find), l.isProper = true) {findings : List Finding}
    (found : parts.map (·.outcome source.find) = findings.map .ok) :
    ∃ e', allInSequence source parts e = (.ok findings, e') ∧
      Books source settings (asked ++ parts.flatMap (·.demands source.find)) e' := by
  induction parts generalizing asked e findings with
  | nil =>
    obtain rfl : findings = [] := by simpa using found.symm
    refine ⟨e, rfl, ?_⟩
    rwa [List.flatMap_nil, List.append_nil]
  | cons part rest ih =>
    obtain ⟨finding, others, rfl, first, later⟩ : ∃ finding others, findings = finding :: others ∧
        part.outcome source.find = .ok finding ∧ rest.map (·.outcome source.find) = others.map .ok := by
      cases findings with
      | nil => simp at found
      | cons finding others => exact ⟨finding, others, rfl, by simpa using found⟩
    rw [List.flatMap_cons, List.forall_mem_append] at proper
    obtain ⟨e₁, came, books₁⟩ := follows part List.mem_cons_self books proper.1 first
    obtain ⟨e₂, went, books₂⟩ :=
      ih (fun other member => follows other (List.mem_cons_of_mem _ member)) books₁ proper.2 later
    refine ⟨e₂, ?_, ?_⟩
    · simp only [allInSequence, came, went]
    · rwa [List.flatMap_cons, ← List.append_assoc]

theorem follows (i : Inquiry) : Follows source i := by
  induction i using Inquiry.induct with
  | done result =>
    intro settings asked e books _ finding outcome
    cases result with
    | error fault => cases outcome
    | ok given =>
      obtain rfl : given = finding := Except.ok.inj outcome
      refine ⟨e, rfl, ?_⟩
      rwa [Inquiry.demands_done, List.append_nil]
  | ask l next ih =>
    intro settings asked e books proper finding outcome
    cases answered : source.find l with
    | error fault => simp [Inquiry.outcome, Inquiry.pursue, answered, Inquiry.failed] at outcome
    | ok quads =>
      rw [Inquiry.demands_ask answered, List.forall_mem_cons] at proper
      rw [Inquiry.outcome_ask answered] at outcome
      obtain ⟨e₁, told, books₁⟩ := books.lookup proper.1 answered
      obtain ⟨e₂, came, books₂⟩ := ih quads books₁ proper.2 outcome
      refine ⟨e₂, ?_, ?_⟩
      · simp only [inSequence, told, came]
      · rwa [Inquiry.demands_ask answered, List.append_cons]
  | gather parts next parts_ih next_ih =>
    intro settings asked e books proper finding outcome
    cases collected : Faults.collect ((Inquiry.pursueAll source.find parts).map (·.outcome)) with
    | error faults => simp [Inquiry.outcome, Inquiry.pursue, collected] at outcome
    | ok findings =>
      have found := Inquiry.outcomes_of_collect collected
      rw [Inquiry.demands_gather found, List.forall_mem_append] at proper
      rw [Inquiry.outcome_gather found] at outcome
      obtain ⟨e₁, came, books₁⟩ := follows_all parts_ih books proper.1 found
      obtain ⟨e₂, went, books₂⟩ := next_ih findings books₁ proper.2 outcome
      refine ⟨e₂, ?_, ?_⟩
      · simp only [inSequence, came, went]
      · rwa [Inquiry.demands_gather found, ← List.append_assoc]

end Engine

end QuadPull.Pull
