import Mathlib.Logic.Relation
import QuadPull.Proofs.Growth

namespace QuadPull.Pull

def Leads (R : Finset Quad) (a b : Term) : Prop := ∃ q ∈ R, q.subject = a ∧ q.object = b

def Linked (R : Finset Quad) : Term → Term → Prop := Relation.ReflTransGen (Leads R)

variable {Q R S : Finset Quad} {strict : Bool} {s t : Term}

theorem Linked.mono (grows : R ⊆ S) (linked : Linked R s t) : Linked S s t := by
  have leads : Leads R ≤ Leads S := by
    rintro a b ⟨q, member, ends⟩
    exact ⟨q, grows member, ends⟩
  exact Relation.ReflTransGen.mono leads s t linked

theorem Reaches.linked {p : Term} (reaches : Reaches R p s t) : Linked R s t := by
  induction reaches with
  | start => exact .refl
  | @onward q member _ _ _ ih => exact ih.tail ⟨q, member, rfl, rfl⟩

mutual

theorem Offers.linked {spec : Spec} {s : Term} {q : Quad} (offered : Offers R strict spec s q) :
    Linked R s q.subject := by
  cases spec with
  | property p | constraint p v =>
    rw [Offers] at offered
    rw [offered.2.1]
    exact .refl
  | wildcard =>
    rw [Offers] at offered
    rw [offered.2]
    exact .refl
  | nested p plan =>
    rw [Offers] at offered
    obtain ⟨link, member, rfl, -, -, rfl | inner⟩ := offered
    · exact .refl
    · exact .head ⟨link, member, rfl, rfl⟩ (OffersAny.linked inner)
  | recursive p =>
    rw [Offers] at offered
    exact offered.2.2.linked
  | raw item =>
    rw [Offers] at offered
    exact offered.elim
termination_by sizeOf spec

theorem OffersAny.linked {specs : List Spec} {s : Term} {q : Quad} (offered : OffersAny R strict specs s q) :
    Linked R s q.subject := by
  cases specs with
  | nil =>
    rw [OffersAny] at offered
    exact offered.elim
  | cons spec rest =>
    rw [OffersAny] at offered
    rcases offered with here | there
    · exact Offers.linked here
    · exact OffersAny.linked there
termination_by sizeOf specs

end

theorem Selects.linked {plan : Plan} {q : Quad} (kept : ∀ r, Selects Q strict plan s r → r ∈ R)
    (selected : Selects Q strict plan s q) : Linked R s q.subject :=
  (selected.within kept).2.linked

/-- A new engine finds quads for a plan at a subject. -/
def Contributes (settings : LookupSettings) (source : Source) (plan : Plan) (s : Term)
    (found : List Quad) : Prop :=
  (({ settings : Engine }).evaluate source plan s).1 = .ok (some found)

section

variable {source : Source} {settings : LookupSettings} {plan : Plan}

theorem Contributes.selects {found : List Quad} (contributes : Contributes settings source plan s found)
    (holds : source.Holds Q) (proper : ∀ q ∈ Q, q.isProper = true) (compiled : areCompiled plan = true)
    (subject : s.isProper = true) (q : Quad) :
    q ∈ found ↔ Selects Q settings.strict.truthy plan s q := by
  obtain ⟨fails, comes⟩ := Engine.evaluate_of_holds holds proper settings compiled subject
  have sound : ¬ Breaks Q settings.strict.truthy plan s := by
    intro breaks
    cases contributes.symm.trans (fails breaks)
  obtain ⟨finding, ended, finds⟩ := comes sound
  obtain ⟨accepts, offered⟩ := finds.of_some (Except.ok.inj (contributes.symm.trans ended)).symm
  rw [offered, Selects]
  exact (and_iff_right accepts).symm

theorem contributes_of_selects (holds : source.Holds Q) (proper : ∀ q ∈ Q, q.isProper = true)
    (compiled : areCompiled plan = true) (subject : s.isProper = true)
    (sound : ¬ Breaks Q settings.strict.truthy plan s) {q : Quad}
    (selected : Selects Q settings.strict.truthy plan s q) :
    ∃ found, Contributes settings source plan s found ∧ q ∈ found := by
  obtain ⟨finding, ended, finds⟩ :=
    (Engine.evaluate_of_holds holds proper settings compiled subject).2 sound
  obtain ⟨found, rfl, members⟩ := finds.1 selected.1
  exact ⟨found, ended, (members q).2 selected.2⟩

theorem Contributes.rooted {found : List Quad} (contributes : Contributes settings source plan s found)
    (holds : source.Holds Q) (proper : ∀ q ∈ Q, q.isProper = true) (compiled : areCompiled plan = true)
    (subject : s.isProper = true) :
    (∀ q ∈ found, q ∈ Q ∧ Linked found.toFinset s q.subject) ∧
      (found ≠ [] → ∃ q ∈ found, q.subject = s) := by
  have members := contributes.selects holds proper compiled subject
  refine ⟨fun q member => ?_, fun some => ?_⟩
  · have selected := (members q).1 member
    exact ⟨mem_of_offersAny selected.2, selected.linked fun r one => List.mem_toFinset.2 ((members r).2 one)⟩
  · obtain ⟨q, member⟩ := List.exists_mem_of_ne_nil found some
    obtain ⟨r, first, here⟩ := ((members q).1 member).rooted
    exact ⟨r, (members r).2 first, here⟩

end

/-- The graph that a pull returns has quads of the source, each linked within the graph to a subject where
the pull started. It is put together from the contributions of these subjects, and each of them that
contributes a quad contributes one of its own. -/
theorem pull_rooted {g : Graph} (holds : g.source.Holds Q) (proper : ∀ q ∈ Q, q.isProper = true)
    {settings : LookupSettings} {expression : Value} (typed : isTyped expression = true)
    {start : Option Term} (given : ∀ s ∈ start, s.isProper = true) {result : SetGraph} {engine : Engine}
    (returned : g.pullWith settings expression start = .ok (result, engine)) :
    (∀ q ∈ result.quads, q ∈ Q ∧
      ∃ s, IsStart Q start s ∧ Linked result.quads.toFinset s q.subject) ∧
    ∃ plan, compile expression = .ok plan ∧
      (∀ q, q ∈ result.quads ↔
        ∃ s found, IsStart Q start s ∧ Contributes settings g.source plan s found ∧ q ∈ found) ∧
      ∀ s found, IsStart Q start s → Contributes settings g.source plan s found →
        (∀ q ∈ found, Linked found.toFinset s q.subject) ∧ (found ≠ [] → ∃ q ∈ found, q.subject = s) := by
  have pulls := pulls_of_holds holds proper typed given settings (g.name?.getD .defaultGraph)
  rw [pull_eq_map, ← Graph.pullWith, returned] at pulls
  obtain ⟨plan, compiles, -, sound, -, members⟩ := pulls.of_ok
  have compiled := areCompiled_of_compile compiles typed
  have rooted : ∀ s found, IsStart Q start s → Contributes settings g.source plan s found → _ :=
    fun s found starts contributes =>
      contributes.rooted holds proper compiled (starts.isProper proper given)
  have gathered : ∀ q, q ∈ result.quads ↔
      ∃ s found, IsStart Q start s ∧ Contributes settings g.source plan s found ∧ q ∈ found := by
    intro q
    refine (members q).trans ⟨?_, ?_⟩
    · rintro ⟨s, starts, selected⟩
      obtain ⟨found, contributes, member⟩ := contributes_of_selects holds proper compiled
        (starts.isProper proper given) (sound s starts) selected
      exact ⟨s, found, starts, contributes, member⟩
    · rintro ⟨s, found, starts, contributes, member⟩
      exact ⟨s, starts,
        (contributes.selects holds proper compiled (starts.isProper proper given) q).1 member⟩
  refine ⟨fun q member => ?_, plan, compiles, gathered, fun s found starts contributes => ?_⟩
  · obtain ⟨s, found, starts, contributes, among⟩ := (gathered q).1 member
    obtain ⟨stored, linked⟩ := (rooted s found starts contributes).1 q among
    refine ⟨stored, s, starts, linked.mono fun r one => ?_⟩
    exact List.mem_toFinset.2 ((gathered r).2 ⟨s, found, starts, contributes, List.mem_toFinset.1 one⟩)
  · obtain ⟨links, own⟩ := rooted s found starts contributes
    exact ⟨fun q among => (links q among).2, own⟩

theorem pull_rooted_of_friends : ∃ result engine,
    (Graph.served .coroutine none friends).pullWith {} whomAtThirty none = .ok (result, engine) ∧
    result.quads.length = 2 ∧ ∀ q ∈ result.quads, q ∈ friends.quads.toFinset ∧
      ∃ s, IsStart friends.quads.toFinset none s ∧ Linked result.quads.toFinset s q.subject := by
  have two : ((Graph.served .coroutine none friends).pullWith {} whomAtThirty none).toOption.map
      (·.1.quads.length) = some 2 := by decide +kernel
  have holds : (Graph.served .coroutine none friends).source.Holds friends.quads.toFinset :=
    (Graph.Stores.served rfl none friends).holds
  have proper : ∀ q ∈ friends.quads.toFinset, q.isProper = true := by decide
  have given : ∀ s ∈ (none : Option Term), s.isProper = true := by simp
  cases returned : (Graph.served .coroutine none friends).pullWith {} whomAtThirty none with
  | error fault => simp [returned, Except.toOption] at two
  | ok result =>
    rw [returned] at two
    exact ⟨result.1, result.2, rfl, Option.some.inj two,
      (pull_rooted holds proper (by decide) given returned).1⟩

end QuadPull.Pull
