import QuadPull.Proofs.Invariance
import QuadPull.Proofs.Outcome
import QuadPull.Proofs.Skolemize

namespace QuadPull

theorem Graph.Keeps.stores {g : Graph} {home : Term} {accepts : Quad → Bool} {held : List Quad}
    (keeps : g.Keeps home accepts held) (room : g.HasRoom) : g.Stores held := by
  cases keeps with
  | columnar tracks => exact .columnar (tracks.shows room)
  | inner inner =>
    unfold Graph.inner? at inner
    split at inner <;> cases inner
    · exact .set _
    · exact .changes _
    · exact .served rfl _ _

namespace Pull

/-- The same fault, or graphs of one name, where the second has the quads of the first with names in them. -/
def Mirrors (names : Names) : Except Error SetGraph → Except Error SetGraph → Prop
  | .ok g, .ok h => h.name = g.name ∧ ∀ q, q ∈ h.quads ↔ ∃ r ∈ g.quads, r.renamed names = q
  | .error e, .error f => e = f
  | _, _ => False

section

variable {names : Names} {Q : Finset Quad} {plan : Plan} {start : Option Term} {strict : Bool}
  (fresh : Fresh names Q) (proper : ∀ q ∈ Q, q.isProper = true) (asked : Spec.AllFree names plan)
  (given : ∀ s ∈ start, s.Free names)
include fresh given

theorem free_of_isStart {s : Term} (starts : IsStart Q start s) : s.Free names := by
  cases start with
  | some t => exact given s (congrArg some starts.symm)
  | none =>
    obtain ⟨q, stored, rfl⟩ := starts
    exact fresh.subjects q stored

include proper asked

theorem breaks_somewhere_renamed :
    (∃ s, IsStart (Q.image (·.renamed names)) (start.map (·.renamed names)) s ∧
      Breaks (Q.image (·.renamed names)) strict (Spec.allRenamed names plan) s) ↔
    ∃ s, IsStart Q start s ∧ Breaks Q strict plan s := by
  constructor
  · rintro ⟨t, starts, breaks⟩
    obtain ⟨s, before, rfl⟩ := isStart_renamed.1 starts
    exact ⟨s, before, (breaks_renamed fresh proper asked (free_of_isStart fresh given before)).1 breaks⟩
  · rintro ⟨s, starts, breaks⟩
    exact ⟨s.renamed names, isStart_renamed.2 ⟨s, starts, rfl⟩,
      (breaks_renamed fresh proper asked (free_of_isStart fresh given starts)).2 breaks⟩

theorem selects_somewhere_renamed {r : Quad} :
    (∃ s, IsStart (Q.image (·.renamed names)) (start.map (·.renamed names)) s ∧
      Selects (Q.image (·.renamed names)) strict (Spec.allRenamed names plan) s r) ↔
    ∃ q, (∃ s, IsStart Q start s ∧ Selects Q strict plan s q) ∧ q.renamed names = r := by
  constructor
  · rintro ⟨t, starts, selects⟩
    obtain ⟨s, before, rfl⟩ := isStart_renamed.1 starts
    obtain ⟨q, selected, same⟩ :=
      (selects_renamed fresh proper asked (free_of_isStart fresh given before)).1 selects
    exact ⟨q, ⟨s, before, selected⟩, same⟩
  · rintro ⟨q, ⟨s, starts, selects⟩, same⟩
    exact ⟨s.renamed names, isStart_renamed.2 ⟨s, starts, rfl⟩,
      (selects_renamed fresh proper asked (free_of_isStart fresh given starts)).2 ⟨q, selects, same⟩⟩

end

theorem Pulls.mirrors {names : Names} {Q : Finset Quad} (fresh : Fresh names Q)
    (proper : ∀ q ∈ Q, q.isProper = true) {settings : LookupSettings} {name : Term} {expression : Value}
    {plan : Plan} (compiles : compile expression = .ok plan) (asked : Spec.AllFree names plan)
    {start : Option Term} (given : ∀ s ∈ start, s.Free names) {r t : Except Error SetGraph}
    (before : Pulls Q settings name expression start r)
    (after : Pulls (Q.image (·.renamed names)) settings name (renamed names expression)
      (start.map (·.renamed names)) t) : Mirrors names r t := by
  have compiles' : compile (renamed names expression) = .ok (Spec.allRenamed names plan) := by
    have sides := compile_renamed names expression
    rw [compiles] at sides
    exact sides.of_ok
  cases valid : settings.ensureValid with
  | error fault =>
    simp only [Pulls, compiles, compiles', valid] at before after
    rw [before, after]
    rfl
  | ok =>
    simp only [Pulls, compiles, compiles', valid] at before after
    by_cases breaks : ∃ s, IsStart Q start s ∧ Breaks Q settings.strict.truthy plan s
    · rw [before.1 breaks, after.1 ((breaks_somewhere_renamed fresh proper asked given).2 breaks)]
      rfl
    · obtain ⟨g, rfl, called, members⟩ := before.2 fun s starts broken => breaks ⟨s, starts, broken⟩
      obtain ⟨h, rfl, called', members'⟩ := after.2 fun s starts broken =>
        breaks ((breaks_somewhere_renamed fresh proper asked given).1 ⟨s, starts, broken⟩)
      refine ⟨called'.trans called.symm, ?_⟩
      intro q
      rw [members', selects_somewhere_renamed fresh proper asked given]
      simp only [members]

section

open Workspace Skolem

variable {w : Workspace} {id : Nat} {g : Graph} {name home : Term} {accepts : Quad → Bool}
  {held : List Quad}

theorem pullWith_eq (called : g.name? = some name) (settings : LookupSettings) (expression : Value)
    (start : Option Term) : (g.pullWith settings expression start).map (·.1) =
      pull settings name g.source expression start := by
  rw [pull_eq_map, Graph.pullWith, called, Option.getD_some]

/-- A pull from a graph whose blank nodes got names, by an expression and from a start with the names in
them, gives what the pull gave before, with the names in it, under any settings. -/
theorem pull_after_skolemize (stored : w.graph id = .ok g) (keeps : g.Keeps home accepts held)
    (room : g.HasRoom) (called : g.name? = some name) (named : name.isGraphName = true)
    (under : AtHome name held) (here : AtHome home held) (stem : String) :
    ∃ names count place h, skolemize (w, id) stem = (place, .ok ()) ∧
      Mints names held (stemUnder name stem) w.nextName count ∧
      place.1.graph place.2 = .ok h ∧
      (h.HasRoom → (∀ q ∈ held, q.subject.Free names ∧ q.object.Free names) →
        ∀ expression start, isTyped expression = true →
          (∀ s ∈ start, s.isProper = true ∧ s.Free names) →
          (∀ plan, compile expression = .ok plan → Spec.AllFree names plan → ∀ settings,
            Mirrors names ((g.pullWith settings expression start).map (·.1))
              ((h.pullWith settings (renamed names expression) (start.map (·.renamed names))).map
                (·.1))) ∧
          ∀ fault, compile expression = .error fault → ∀ settings, ∃ other,
            (h.pullWith settings (renamed names expression) (start.map (·.renamed names))).map (·.1) =
              .error other) := by
  obtain ⟨names, count, place, h, kept, done, mints, -, has, keeps', called', members, -, -⟩ :=
    (has_of_graph_eq stored keeps.plain).skolemize keeps room called named under here stem
  refine ⟨names, count, place, h, done, mints, has.graph_eq, ?_⟩
  intro room' free expression start typed given
  have proper : ∀ q ∈ held.toFinset, q.isProper = true := fun q member =>
    keeps.isProper (keeps.accepted q (List.mem_toFinset.1 member))
  have fresh : Fresh names held.toFinset :=
    ⟨mints.injective, fun q member => (free q (List.mem_toFinset.1 member)).1,
      fun q member => (free q (List.mem_toFinset.1 member)).2⟩
  have together : kept.toFinset = held.toFinset.image (·.renamed names) := by
    ext q
    simp only [List.mem_toFinset, Finset.mem_image, members]
  have proper' : ∀ q ∈ held.toFinset.image (·.renamed names), q.isProper = true := by
    intro q member
    obtain ⟨r, among, rfl⟩ := Finset.mem_image.1 member
    exact Quad.isProper_renamed names (proper r among)
  have start_proper : ∀ s ∈ start.map (·.renamed names), s.isProper = true := by
    intro s member
    obtain ⟨t, among, rfl⟩ := Option.mem_map.1 member
    exact Term.isProper_renamed names (given t among).1
  constructor
  -- Both pulls are told by the quads of their graphs alone, whatever kind of graph has them.
  · intro plan compiles asked settings
    have compiled := areCompiled_of_compile compiles typed
    have compiled' : ∀ p, compile (renamed names expression) = .ok p → areCompiled p = true := by
      intro p compiles'
      have sides := compile_renamed names expression
      rw [compiles] at sides
      obtain rfl := Except.ok.inj (sides.of_ok.symm.trans compiles')
      rw [areCompiled_renamed, compiled]
    have before := pulls_of_holds (keeps.stores room).holds proper typed (fun s among => (given s among).1)
      settings name
    have after := pulls_of_compiled (together ▸ (keeps'.stores room').holds) proper' compiled' start_proper
      settings name
    rw [pullWith_eq called, pullWith_eq called']
    exact before.mirrors fresh proper compiles asked (fun s among => (given s among).2) after
  · intro fault refused settings
    have sides := compile_renamed names expression
    rw [refused] at sides
    obtain ⟨other, refused'⟩ := sides.of_error
    refine ⟨other, ?_⟩
    rw [pullWith_eq called']
    simp only [pull, pullWith, refused', bind, Except.bind]

def whoPointsAtB : Value := .list [.tuple [.term (.iri "p"), .term (.blank "b")]]

theorem pull_of_marked : ∃ names count place h small large,
    skolemize (aboutMarked, 0) "n" = (place, .ok ()) ∧
    Mints names (SetGraph.built (.iri "g#") marked).quads "g#n" 7 count ∧
    place.1.graph place.2 = .ok h ∧
    ((Graph.set (.built (.iri "g#") marked)).pullWith {} whoPointsAtB none).map (·.1) = .ok small ∧
    (h.pullWith {} (renamed names whoPointsAtB) none).map (·.1) = .ok large ∧
    small.quads = [⟨.iri "a", .iri "p", .blank "b", .iri "g#"⟩] ∧
    ∀ q, q ∈ large.quads ↔ ∃ r ∈ small.quads, r.renamed names = q := by
  have named : (Term.iri "g#").isGraphName = true := rfl
  have proper : ∀ quads ∈ marked, ∀ q ∈ quads, q.isProper = true := by decide
  have settled := SetGraph.settled_built named proper
  have keeps := Graph.keeps_built named proper
  have stored : aboutMarked.graph 0 = .ok (.set (.built (.iri "g#") marked)) := rfl
  have kind : ((skolemize (aboutMarked, 0) "n").1.1.graph (skolemize (aboutMarked, 0) "n").1.2).map
      Graph.kindName = .ok "ImmutableSetGraph" := by decide +kernel
  have one : (((Graph.set (.built (.iri "g#") marked)).pullWith {} whoPointsAtB none).map (·.1)).map
      (·.quads) = .ok [⟨.iri "a", .iri "p", .blank "b", .iri "g#"⟩] := by decide +kernel
  obtain ⟨names, count, place, h, done, mints, has, answers⟩ :=
    pull_after_skolemize stored keeps trivial (congrArg some settled.here) named settled.home settled.home "n"
  rw [done] at kind
  have room : h.HasRoom := by
    rw [has] at kind
    exact Graph.hasRoom_of_kindName (Except.ok.inj kind)
  have free_a : (Term.iri "a").Free names := by
    intro label value given same
    obtain ⟨n, -, -, rfl⟩ := (mints.values value).1 ⟨label, given⟩
    have lengths : "a".length = ("g#" ++ "n" ++ toString n).length :=
      congrArg String.length (Term.iri.inj same)
    have short : "a".length = 1 := by decide
    have long : ("g#" ++ "n").length = 3 := by decide
    rw [String.length_append, short, long] at lengths
    omega
  have free_blank : ∀ label, (Term.blank label).Free names := fun _ _ _ _ => nofun
  have shapes : ∀ q ∈ (SetGraph.built (.iri "g#") marked).quads,
      (q.subject = .iri "a" ∨ q.subject = .blank "b") ∧
        (q.object = .blank "b" ∨ q.object = .blank "c") := by
    decide
  have fresh : ∀ q ∈ (SetGraph.built (.iri "g#") marked).quads,
      q.subject.Free names ∧ q.object.Free names := by
    intro q member
    obtain ⟨subject | subject, object | object⟩ := shapes q member <;> rw [subject, object] <;>
      first | exact ⟨free_a, free_blank _⟩ | exact ⟨free_blank _, free_blank _⟩
  have asked : Spec.AllFree names [.constraint (.iri "p") (.term (.blank "b"))] := by
    refine ⟨?_, trivial⟩
    rintro t same
    cases same
    exact free_blank "b"
  have mirrors := (answers room fresh whoPointsAtB none (by decide) (by simp)).1 _ rfl asked {}
  rw [Option.map_none] at mirrors
  cases before : ((Graph.set (.built (.iri "g#") marked)).pullWith {} whoPointsAtB none).map (·.1) with
  | error e =>
    rw [before] at one
    cases one
  | ok small =>
    rw [before] at one mirrors
    cases after : (h.pullWith {} (renamed names whoPointsAtB) none).map (·.1) with
    | error e =>
      rw [after] at mirrors
      exact mirrors.elim
    | ok large =>
      rw [after] at mirrors
      exact ⟨names, count, place, h, small, large, done, mints, has, rfl, after, Except.ok.inj one,
        mirrors.2⟩

end

end Pull

end QuadPull
