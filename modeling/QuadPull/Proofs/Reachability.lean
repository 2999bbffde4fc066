import Mathlib.Data.Finset.Card
import Mathlib.Data.Finset.Image
import Mathlib.Data.List.Nodup
import QuadPull.Proofs.Pursuit
import QuadPull.Pull.Evaluate

namespace QuadPull.Pull

def GoesOn (t : Term) : Prop :=
  (∃ value, t = .iri value) ∨ (∃ label, t = .blank label) ∨ ∃ q : Quad, t = q.quote

/-- What can be reached from a start along a predicate. -/
inductive Reaches (Q : Finset Quad) (p s : Term) : Term → Prop where
  | start : Reaches Q p s s
  | onward {q : Quad} (member : q ∈ Q) (along : q.predicate = p) (subject : Reaches Q p s q.subject)
      (object : GoesOn q.object) : Reaches Q p s q.object

theorem Reaches.isProper {Q : Finset Quad} (proper : ∀ q ∈ Q, q.isProper = true) {p s t : Term}
    (start : s.isProper = true) (reaches : Reaches Q p s t) : t.isProper = true := by
  cases reaches with
  | start => exact start
  | onward member => exact (Quad.isProper_iff.1 (proper _ member)).2.2.1

theorem Reaches.head {Q : Finset Quad} {p t : Term} {link : Quad} (member : link ∈ Q)
    (along : link.predicate = p) (object : GoesOn link.object) (reaches : Reaches Q p link.object t) :
    Reaches Q p link.subject t := by
  induction reaches with
  | start => exact .onward member along .start object
  | onward member along _ object ih => exact .onward member along ih object

/-- What can be reached is the start, or can be reached through one link from there without the start being
left again. -/
theorem Reaches.departs {Q : Finset Quad} {p s t : Term} (reaches : Reaches Q p s t) :
    t = s ∨ ∃ link ∈ Q, link.subject = s ∧ link.predicate = p ∧
      Reaches (Q.filter (·.subject ≠ s)) p link.object t := by
  induction reaches with
  | start => exact .inl rfl
  | @onward r member along _ object ih =>
    right
    -- Whenever the path is back at the start, all that came before is dropped.
    by_cases back : r.subject = s
    · exact ⟨r, member, back, along, .start⟩
    · obtain ⟨link, first, subject, along', rest⟩ := ih.resolve_left back
      exact ⟨link, first, subject, along', .onward (Finset.mem_filter.2 ⟨member, back⟩) along rest object⟩

theorem goesOn_iff {t : Term} (proper : t.isProper = true) : GoesOn t ↔ t.isExpandable = true := by
  cases t with
  | iri value => exact ⟨fun _ => rfl, fun _ => .inl ⟨value, rfl⟩⟩
  | blank label => exact ⟨fun _ => rfl, fun _ => .inr (.inl ⟨label, rfl⟩)⟩
  | quoted s p o g => exact ⟨fun _ => rfl, fun _ => .inr (.inr ⟨⟨s, p, o, g⟩, rfl⟩)⟩
  | loose l => cases proper
  | _ => simp [GoesOn, Quad.quote, Term.isExpandable, Term.isIri, Term.isBlank]

namespace Search

inductive Runs (find : Lookup → Answer) (p : Term) : Search → Nat → List Term → Search → Prop where
  | done {b : Search} (idle : b.frontier = []) : Runs find p b 0 [] b
  | round {b last : Search} {answers : Term → List Quad} {n : Nat} {asked : List Term}
      (busy : b.frontier ≠ []) (answered : ∀ t ∈ b.frontier, find ⟨t, some p⟩ = .ok (answers t))
      (rest : Runs find p (b.next (b.frontier.flatMap answers)) n asked last) :
      Runs find p b (n + 1) (b.frontier ++ asked) last

theorem Runs.closure {find : Lookup → Answer} {p : Term} {b last : Search} {n : Nat} {asked : List Term}
    (runs : Runs find p b n asked last) {rounds : Nat} (enough : n ≤ rounds) :
    (closure p rounds b).outcome find = .ok (some last.quads) ∧
      (closure p rounds b).demands find = asked.map fun t => ⟨t, some p⟩ := by
  induction runs generalizing rounds with
  | @done b idle =>
    have ended : Pull.closure p rounds b = found b.quads := by
      cases rounds <;> simp [Pull.closure, idle]
    rw [ended]
    exact ⟨rfl, rfl⟩
  | @round b last answers n asked busy answered rest ih =>
    obtain ⟨rounds, rfl⟩ := Nat.exists_eq_add_of_le' (Nat.le_trans (Nat.le_add_left 1 n) enough)
    have fetched : (b.frontier.map fun t => Inquiry.fetch ⟨t, some p⟩).map (·.outcome find) =
        (b.frontier.map fun t => some (answers t)).map .ok := by
      rw [List.map_map, List.map_map]
      exact List.map_congr_left fun t member => Inquiry.outcome_fetch (answered t member)
    have asks : (b.frontier.map fun t => Inquiry.fetch ⟨t, some p⟩).flatMap (·.demands find) =
        b.frontier.map fun t => ⟨t, some p⟩ := by
      rw [List.flatMap_map, List.map_eq_flatMap]
      exact List.flatMap_congr fun t member => Inquiry.demands_fetch (answered t member)
    have quads : (allFound (b.frontier.map fun t => some (answers t))).flatten =
        b.frontier.flatMap answers := by
      rw [allFound, List.map_map, List.flatMap_def]
      rfl
    obtain ⟨outcome, demands⟩ := ih (Nat.le_of_succ_le_succ enough)
    rw [Pull.closure, if_neg (by simpa using busy)]
    refine ⟨?_, ?_⟩
    · rw [Inquiry.outcome_gather fetched, quads, outcome]
    · rw [Inquiry.demands_gather fetched, quads, demands, asks, List.map_append]

variable {Q : Finset Quad} {p s : Term} {asked : List Term} {b : Search}

/-- What holds of a search between two visits, given the terms for which it has asked: it is to ask for
just those that it has met and from which it goes on, and met nothing but what is there to be met. -/
structure Orderly (Q : Finset Quad) (p s : Term) (asked : List Term) (b : Search) : Prop where
  start : s ∈ b.met
  each : (asked ++ b.frontier).Nodup
  queued : ∀ t, t ∈ asked ++ b.frontier ↔ t ∈ b.met ∧ (t = s ∨ GoesOn t)
  reached : ∀ t ∈ b.met, t = s ∨ ∃ q ∈ Q, q.predicate = p ∧ q.object = t ∧ Reaches Q p s q.subject
  closed : ∀ q ∈ b.quads, q.object ∈ b.met
  distinct : Distinct.Each Quad.settled b.quads

theorem Orderly.reaches (orderly : Orderly Q p s asked b) {t : Term} (member : t ∈ asked ++ b.frontier) :
    Reaches Q p s t := by
  obtain ⟨met, onward⟩ := (orderly.queued t).1 member
  rcases orderly.reached t met with rfl | ⟨q, among, along, rfl, subject⟩
  · exact .start
  · rcases onward with same | object
    · rw [same]
      exact .start
    · exact .onward among along subject object

def onward (t : Term) : List Term := if t.isExpandable then [t] else []

theorem mem_onward {t u : Term} (proper : u.isProper = true) : t ∈ onward u ↔ t = u ∧ GoesOn t := by
  unfold onward
  split
  · rename_i expandable
    rw [List.mem_singleton]
    exact ⟨fun same => ⟨same, same ▸ (goesOn_iff proper).2 expandable⟩, And.left⟩
  · rename_i final
    refine ⟨fun none => absurd none List.not_mem_nil, ?_⟩
    intro held
    obtain ⟨rfl, onward⟩ := held
    exact absurd ((goesOn_iff proper).1 onward) final

theorem visit_quads (b : Search) (q : Quad) :
    (b.visit q).quads = Distinct.push Quad.settled b.quads q := by
  unfold visit
  split <;> rfl

theorem visit_of_met {q : Quad} (met : q.object ∈ b.met) :
    (b.visit q).met = b.met ∧ (b.visit q).frontier = b.frontier := by
  have held : Distinct.holds Term.settled b.met q.object = true := Distinct.holds_of_mem met
  rw [visit, if_pos held]
  exact ⟨rfl, rfl⟩

theorem visit_of_new {q : Quad} (proper : q.object.isProper = true) (new : q.object ∉ b.met) :
    (b.visit q).met = b.met ++ [q.object] ∧ (b.visit q).frontier = b.frontier ++ onward q.object := by
  have free : ¬ Distinct.holds Term.settled b.met q.object = true := by
    rw [← Distinct.mem_iff_holds fun t _ same => Term.eq_of_settled_eq proper same]
    exact new
  rw [visit, if_neg free]
  refine ⟨rfl, ?_⟩
  unfold onward
  split
  · rfl
  · exact (List.append_nil _).symm

theorem mem_visit_met {q : Quad} (proper : q.object.isProper = true) {t : Term} :
    t ∈ (b.visit q).met ↔ t ∈ b.met ∨ t = q.object := by
  by_cases met : q.object ∈ b.met
  · rw [(visit_of_met met).1]
    refine ⟨.inl, ?_⟩
    intro held
    rcases held with old | rfl
    · exact old
    · exact met
  · rw [(visit_of_new proper met).1, List.mem_append, List.mem_singleton]

theorem Orderly.visit (orderly : Orderly Q p s asked b) {q : Quad} (member : q ∈ Q)
    (proper : q.isProper = true) (along : q.predicate = p) (subject : Reaches Q p s q.subject) :
    Orderly Q p s asked (b.visit q) := by
  have object := (Quad.isProper_iff.1 proper).2.2.1
  have met_iff : ∀ t, t ∈ (b.visit q).met ↔ t ∈ b.met ∨ t = q.object := fun t => mem_visit_met object
  have queue : (asked ++ (b.visit q).frontier).Nodup ∧
      ∀ t, t ∈ asked ++ (b.visit q).frontier ↔ t ∈ (b.visit q).met ∧ (t = s ∨ GoesOn t) := by
    -- An object that was met before is not queued again, whether or not search goes on from it.
    by_cases met : q.object ∈ b.met
    · rw [(visit_of_met met).1, (visit_of_met met).2]
      exact ⟨orderly.each, orderly.queued⟩
    · have fresh : q.object ∉ asked ++ b.frontier := fun queued => met ((orderly.queued _).1 queued).1
      have other : q.object ≠ s := fun same => met (same ▸ orderly.start)
      rw [(visit_of_new object met).2, ← List.append_assoc]
      refine ⟨?_, ?_⟩
      · refine orderly.each.append ?_ ?_
        · unfold onward
          split
          · exact List.nodup_singleton _
          · exact List.nodup_nil
        · intro t old new
          obtain ⟨rfl, -⟩ := (mem_onward object).1 new
          exact fresh old
      · intro t
        rw [List.mem_append, orderly.queued, mem_onward object, met_iff]
        refine ⟨?_, ?_⟩
        · intro held
          rcases held with ⟨old, why⟩ | ⟨rfl, onward⟩
          · exact ⟨.inl old, why⟩
          · exact ⟨.inr rfl, .inr onward⟩
        · intro held
          rcases held with ⟨old | rfl, why⟩
          · exact .inl ⟨old, why⟩
          · exact .inr ⟨rfl, why.resolve_left other⟩
  refine ⟨(met_iff s).2 (.inl orderly.start), queue.1, queue.2, ?_, ?_, ?_⟩
  · intro t among
    rcases (met_iff t).1 among with old | rfl
    · exact orderly.reached t old
    · exact .inr ⟨q, member, along, rfl, subject⟩
  · intro r among
    rw [visit_quads] at among
    rcases Distinct.mem_of_mem_push among with old | rfl
    · exact (met_iff _).2 (.inl (orderly.closed r old))
    · exact (met_iff _).2 (.inr rfl)
  · rw [visit_quads]
    exact Distinct.each_push orderly.distinct

def Found (Q : Finset Quad) (p s : Term) (found : List Quad) : Prop :=
  ∀ q ∈ found, q ∈ Q ∧ q.isProper = true ∧ q.predicate = p ∧ Reaches Q p s q.subject

theorem Orderly.visits (orderly : Orderly Q p s asked b) {found : List Quad} (good : Found Q p s found) :
    Orderly Q p s asked (found.foldl Search.visit b) := by
  induction found generalizing b with
  | nil => exact orderly
  | cons q found ih =>
    obtain ⟨member, proper, along, subject⟩ := good q List.mem_cons_self
    exact ih (orderly.visit member proper along subject) fun r among => good r (List.mem_cons_of_mem _ among)

theorem visits_quads (b : Search) (found : List Quad) :
    (found.foldl visit b).quads = Distinct.pushAll Quad.settled b.quads found := by
  induction found generalizing b with
  | nil => rfl
  | cons q found ih =>
    rw [List.foldl_cons, ih, visit_quads]
    rfl

theorem visits_met (b : Search) {found : List Quad} (proper : ∀ q ∈ found, q.isProper = true) {t : Term}
    (met : t ∈ b.met) : t ∈ (found.foldl visit b).met := by
  induction found generalizing b with
  | nil => exact met
  | cons q found ih =>
    have object := (Quad.isProper_iff.1 (proper q List.mem_cons_self)).2.2.1
    exact ih _ (fun r among => proper r (List.mem_cons_of_mem _ among)) ((mem_visit_met object).2 (.inl met))

structure Explores (Q : Finset Quad) (p s : Term) (asked : List Term) (b : Search) : Prop
    extends Orderly Q p s asked b where
  selected : ∀ q, q ∈ b.quads ↔ q ∈ Q ∧ q.predicate = p ∧ q.subject ∈ asked

theorem explores_start : Explores Q p s [] (.start s) where
  start := List.mem_singleton_self s
  each := List.nodup_singleton s
  queued := by
    intro t
    simp only [Search.start, List.nil_append, List.mem_singleton]
    exact ⟨fun same => ⟨same, .inl same⟩, And.left⟩
  reached := fun t met => .inl (List.mem_singleton.1 met)
  closed := by simp [Search.start]
  distinct := Distinct.each_nil
  selected := by simp [Search.start]

section

variable (proper : ∀ q ∈ Q, q.isProper = true)
include proper

theorem Explores.next (explores : Explores Q p s asked b) {found : List Quad}
    (answers : ∀ q, q ∈ found ↔ q ∈ Q ∧ q.predicate = p ∧ q.subject ∈ b.frontier) :
    Explores Q p s (asked ++ b.frontier) (b.next found) := by
  have good : Found Q p s found := by
    intro q among
    obtain ⟨member, along, subject⟩ := (answers q).1 among
    exact ⟨member, proper q member, along, explores.reaches (List.mem_append_right _ subject)⟩
  have idle : Orderly Q p s (asked ++ b.frontier) { b with frontier := [] } := by
    refine ⟨explores.start, ?_, ?_, explores.reached, explores.closed, explores.distinct⟩
    · rw [List.append_nil]
      exact explores.each
    · intro t
      rw [List.append_nil]
      exact explores.queued t
  refine ⟨idle.visits good, ?_⟩
  intro q
  have apart : ∀ r : Quad, r ∈ Q → r.settled = q.settled → r = q := by
    intro r member same
    exact (Quad.eq_of_settled_eq (proper r member) same.symm).symm
  have either := Distinct.mem_pushAll (fun r old => apart r ((explores.selected r).1 old).1)
    fun r new => apart r ((answers r).1 new).1
  rw [Search.next, visits_quads, either, explores.selected, answers, List.mem_append]
  tauto

def unmet (Q : Finset Quad) (b : Search) : Finset Term := (Q.image Quad.object).filter (· ∉ b.met)

omit proper in
theorem card_unmet_le (b : Search) : (unmet Q b).card ≤ Q.card :=
  Nat.le_trans (Finset.card_filter_le _ _) Finset.card_image_le

theorem Explores.unmet_lt (explores : Explores Q p s asked b) {found : List Quad}
    (answers : ∀ q, q ∈ found ↔ q ∈ Q ∧ q.predicate = p ∧ q.subject ∈ b.frontier)
    (busy : (b.next found).frontier ≠ []) : (unmet Q (b.next found)).card < (unmet Q b).card := by
  -- A term on the new frontier was met in this round: had it been met before, it would have been asked
  -- for, and nothing is queued twice.
  have later := explores.next proper answers
  obtain ⟨t, queued⟩ := List.exists_mem_of_ne_nil _ busy
  obtain ⟨met, why⟩ := (later.queued t).1 (List.mem_append_right _ queued)
  have old : t ∉ b.met := by
    intro before
    have asked := (explores.queued t).2 ⟨before, why⟩
    exact (List.nodup_append.1 later.each).2.2 t asked t queued rfl
  have object : t ∈ Q.image Quad.object := by
    rcases later.reached t met with rfl | ⟨q, member, -, rfl, -⟩
    · exact absurd explores.start old
    · exact Finset.mem_image_of_mem _ member
  refine Finset.card_lt_card ⟨?_, ?_⟩
  · intro u free
    rw [unmet, Finset.mem_filter] at free ⊢
    refine ⟨free.1, fun before => free.2 ?_⟩
    exact visits_met _ (fun q among => proper q ((answers q).1 among).1) before
  · intro subset
    have free := subset (Finset.mem_filter.2 ⟨object, old⟩)
    exact (Finset.mem_filter.1 free).2 met

variable {find : Lookup → Answer} (serves : Serves find Q) (along : p.isProper = true)
  (from_proper : s.isProper = true)
include serves along from_proper

theorem Explores.answered (explores : Explores Q p s asked b) :
    ∃ answers : Term → List Quad, (∀ t ∈ b.frontier, find ⟨t, some p⟩ = .ok (answers t)) ∧
      ∀ q, q ∈ b.frontier.flatMap answers ↔ q ∈ Q ∧ q.predicate = p ∧ q.subject ∈ b.frontier := by
  have term_proper : ∀ t ∈ b.frontier, t.isProper = true := by
    intro t queued
    have met := ((explores.queued t).1 (List.mem_append_right _ queued)).1
    rcases explores.reached t met with rfl | ⟨q, member, -, rfl, -⟩
    · exact from_proper
    · exact (Quad.isProper_iff.1 (proper q member)).2.2.1
  have each : ∀ t, ∃ quads, t ∈ b.frontier → find ⟨t, some p⟩ = .ok quads ∧
      ∀ q, q ∈ quads ↔ q ∈ Q ∧ q.subject = t ∧ q.predicate = p := by
    intro t
    by_cases queued : t ∈ b.frontier
    · have lookup : (⟨t, some p⟩ : Lookup).isProper = true := by
        simp [Lookup.isProper, term_proper t queued, along]
      obtain ⟨quads, answered, members⟩ := serves ⟨t, some p⟩ lookup
      exact ⟨quads, fun _ => ⟨answered, by simpa using members⟩⟩
    · exact ⟨[], fun queued' => absurd queued' queued⟩
  choose answers answered using each
  refine ⟨answers, fun t queued => (answered t queued).1, ?_⟩
  intro q
  rw [List.mem_flatMap]
  refine ⟨?_, ?_⟩
  · intro held
    obtain ⟨t, queued, among⟩ := held
    obtain ⟨member, rfl, along⟩ := ((answered t queued).2 q).1 among
    exact ⟨member, along, queued⟩
  · intro held
    obtain ⟨member, along, queued⟩ := held
    exact ⟨_, queued, ((answered _ queued).2 q).2 ⟨member, rfl, along⟩⟩

/-- A search ends before it has gone on for more rounds than there are objects left to meet. -/
theorem Explores.runs (explores : Explores Q p s asked b) {n : Nat}
    (bound : b.frontier ≠ [] → (unmet Q b).card < n) :
    ∃ m more last, m ≤ n ∧ Runs find p b m more last ∧ Explores Q p s (asked ++ more) last ∧
      last.frontier = [] := by
  -- A bound on what is left to meet carries the induction, for every round meets something new.
  induction n generalizing asked b with
  | zero =>
    have idle : b.frontier = [] := by
      by_contra busy
      exact Nat.not_lt_zero _ (bound busy)
    exact ⟨0, [], b, Nat.le_refl 0, .done idle, by rwa [List.append_nil], idle⟩
  | succ n ih =>
    by_cases idle : b.frontier = []
    · exact ⟨0, [], b, Nat.zero_le _, .done idle, by rwa [List.append_nil], idle⟩
    · obtain ⟨answers, answered, members⟩ := explores.answered proper serves along from_proper
      have later := explores.next proper members
      obtain ⟨m, more, last, few, runs, explored, ended⟩ := ih later fun busy =>
        Nat.lt_of_lt_of_le (explores.unmet_lt proper members busy) (Nat.le_of_lt_succ (bound idle))
      refine ⟨m + 1, b.frontier ++ more, last, Nat.succ_le_succ few, .round idle answered runs, ?_, ended⟩
      rwa [← List.append_assoc]

omit proper serves along from_proper in
theorem Explores.asked_iff (explores : Explores Q p s asked b) (idle : b.frontier = []) {t : Term} :
    t ∈ asked ↔ Reaches Q p s t := by
  refine ⟨?_, ?_⟩
  · intro member
    exact explores.reaches (List.mem_append_left _ member)
  · intro reaches
    have queued := explores.queued
    rw [idle, List.append_nil] at queued
    -- By the way that leads to the term: its last quad was found when its subject was asked for.
    induction reaches with
    | start => exact (queued s).2 ⟨explores.start, .inl rfl⟩
    | @onward q member along subject object ih =>
      have among := (explores.selected q).2 ⟨member, along, ih⟩
      exact (queued _).2 ⟨explores.closed q among, .inr object⟩

omit proper serves along from_proper in
theorem Explores.selected_iff (explores : Explores Q p s asked b) (idle : b.frontier = []) {q : Quad} :
    q ∈ b.quads ↔ q ∈ Q ∧ q.predicate = p ∧ Reaches Q p s q.subject := by
  rw [explores.selected, explores.asked_iff idle]

theorem exhausts : ∃ n asked last, n ≤ Q.card + 1 ∧ Runs find p (.start s) n asked last ∧
    Explores Q p s asked last ∧ last.frontier = [] := by
  have room : (unmet Q (.start s)).card < Q.card + 1 := Nat.lt_succ_of_le (card_unmet_le _)
  obtain ⟨n, asked, last, few, runs, explored, idle⟩ :=
    explores_start.runs proper serves along from_proper fun _ => room
  rw [List.nil_append] at explored
  exact ⟨n, asked, last, few, runs, explored, idle⟩

end

theorem Runs.contribution {find : Lookup → Answer} {p s : Term} {last : Search} {n : Nat}
    {asked : List Term} (runs : Runs find p (.start s) n asked last) (start : s.isProper = true)
    (strict : Bool) {rounds : Nat} (enough : n ≤ rounds) :
    (contribution strict rounds (.recursive p) s).outcome find = .ok (some last.quads) ∧
      (contribution strict rounds (.recursive p) s).demands find = asked.map fun t => ⟨t, some p⟩ := by
  rw [Pull.contribution, if_pos (Term.hashable_of_isProper start)]
  exact runs.closure enough

end Search

/-- Recursion at any term ends, in no more rounds than there are quads and one. It asks once for every
term that can be reached and for no other, and selects the quads along its predicate that start at one
of these terms. -/
theorem recursion_explores {find : Lookup → Answer} {Q : Finset Quad} (serves : Serves find Q)
    (proper : ∀ q ∈ Q, q.isProper = true) {p s : Term} (along : p.isProper = true)
    (start : s.isProper = true) :
    ∃ rounds asked last, rounds ≤ Q.card + 1 ∧
      Search.Runs find p (.start s) rounds asked last ∧ last.frontier = [] ∧
      asked.Nodup ∧ (∀ t, t ∈ asked ↔ Reaches Q p s t) ∧
      last.quads.Nodup ∧ (∀ q, q ∈ last.quads ↔ q ∈ Q ∧ q.predicate = p ∧ Reaches Q p s q.subject) ∧
      ∀ strict enough, rounds ≤ enough →
        (contribution strict enough (.recursive p) s).outcome find = .ok (some last.quads) ∧
        (contribution strict enough (.recursive p) s).demands find = asked.map fun t => ⟨t, some p⟩ := by
  obtain ⟨rounds, asked, last, few, runs, explored, idle⟩ := Search.exhausts proper serves along start
  have once : asked.Nodup := (List.nodup_append.1 explored.each).1
  have distinct : last.quads.Nodup := List.Nodup.of_map _ explored.distinct
  exact ⟨rounds, asked, last, few, runs, idle, once, fun _ => explored.asked_iff idle, distinct,
    fun _ => explored.selected_iff idle, fun strict _ enough => runs.contribution start strict enough⟩

def circle : SetGraph :=
  .ofList .defaultGraph
    [⟨.iri "a", .iri "p", .blank "b", .defaultGraph⟩, ⟨.blank "b", .iri "p", .iri "a", .defaultGraph⟩,
      ⟨.blank "b", .iri "p", .typed "c" "d", .defaultGraph⟩]

theorem recursion_of_circle :
    (∀ q ∈ circle.quads.toFinset, q.isProper = true) ∧
    ∃ rounds asked last, rounds ≤ 4 ∧
      Search.Runs (Graph.set circle).source.find (.iri "p") (.start (.iri "a")) rounds asked last ∧
      asked.Nodup ∧ Term.blank "b" ∈ asked ∧
      ⟨.blank "b", .iri "p", .typed "c" "d", .defaultGraph⟩ ∈ last.quads := by
  have proper : ∀ q ∈ circle.quads.toFinset, q.isProper = true := by decide
  have three : circle.quads.toFinset.card = 3 := by decide
  have onward : Reaches circle.quads.toFinset (.iri "p") (.iri "a") (.blank "b") :=
    .onward (q := ⟨.iri "a", .iri "p", .blank "b", .defaultGraph⟩) (by decide) rfl .start
      (.inr (.inl ⟨"b", rfl⟩))
  obtain ⟨rounds, asked, last, few, runs, -, each, asked_iff, -, selected, -⟩ :=
    recursion_explores (serves_set circle) proper (p := .iri "p") (s := .iri "a") rfl rfl
  rw [three] at few
  exact ⟨proper, rounds, asked, last, few, runs, each, (asked_iff _).2 onward,
    (selected _).2 ⟨by decide, rfl, onward⟩⟩

end QuadPull.Pull
