import QuadPull.Proofs.Ownership
import QuadPull.Proofs.Replies
import QuadPull.Proofs.Typing

namespace QuadPull

namespace Term

inductive NamesBlank : Term → Prop where
  | blank (label : String) : NamesBlank (.blank label)
  | subject {s p o g : Term} (inside : NamesBlank s) : NamesBlank (.quoted s p o g)
  | predicate {s p o g : Term} (inside : NamesBlank p) : NamesBlank (.quoted s p o g)
  | object {s p o g : Term} (inside : NamesBlank o) : NamesBlank (.quoted s p o g)

theorem mentionsBlank_iff {t : Term} (proper : t.isProper = true) :
    t.mentionsBlank = true ↔ t.NamesBlank := by
  induction t with
  | quoted s p o g subject predicate object =>
    simp only [isProper, Bool.and_eq_true] at proper
    obtain ⟨⟨⟨proper_s, proper_p⟩, proper_o⟩, -⟩ := proper
    rw [mentionsBlank, Bool.or_eq_true, Bool.or_eq_true, subject proper_s, predicate proper_p,
      object proper_o]
    refine ⟨?_, ?_⟩
    · intro held
      rcases held with (inside | inside) | inside
      · exact .subject inside
      · exact .predicate inside
      · exact .object inside
    · intro names
      cases names with
      | subject inside => exact .inl (.inl inside)
      | predicate inside => exact .inl (.inr inside)
      | object inside => exact .inr inside
  | blank label => exact ⟨fun _ => .blank label, fun _ => rfl⟩
  | loose l => cases proper
  | _ =>
    refine ⟨?_, ?_⟩
    · intro held
      cases held
    · intro names
      cases names

end Term

namespace Pattern

def positions (p : Pattern) : List (Option Term) := [p.subject, p.predicate, p.object]

def NamesBlank (p : Pattern) : Prop := ∃ bound ∈ p.positions, ∃ t ∈ bound, t.NamesBlank

theorem mem_bound_of_position {p : Pattern} {bound : Option Term} (position : bound ∈ p.positions)
    {t : Term} (given : t ∈ bound) : t ∈ p.bound := by
  simp only [positions, List.mem_cons, List.not_mem_nil, or_false] at position
  rw [Pattern.bound, List.mem_filterMap]
  refine ⟨bound, ?_, given⟩
  rcases position with rfl | rfl | rfl <;> simp

def anywhere (p : Pattern) : Pattern := { p with graph := none }

theorem mem_bound_of_graph {p : Pattern} {g : Term} (given : p.graph = some g) : g ∈ p.bound := by
  simp [Pattern.bound, given]

theorem mem_bound_of_anywhere {p : Pattern} {t : Term} (member : t ∈ p.anywhere.bound) : t ∈ p.bound := by
  simp only [Pattern.bound, anywhere, List.mem_filterMap, List.mem_cons, List.not_mem_nil, or_false] at member ⊢
  obtain ⟨bound, position, given⟩ := member
  refine ⟨bound, ?_, given⟩
  rcases position with rfl | rfl | rfl | rfl
  · exact .inl rfl
  · exact .inr (.inl rfl)
  · exact .inr (.inr (.inl rfl))
  · cases given

end Pattern

theorem Distinct.ofList_map {α β κ : Type} [DecidableEq κ] {key : α → κ} {key' : β → κ} {f : α → β}
    {xs : List α} (same : ∀ a ∈ xs, ∀ b ∈ xs, key' (f a) = key' (f b) ↔ key a = key b) :
    ofList key' (xs.map f) = (ofList key xs).map f := by
  induction xs using List.reverseRecOn with
  | nil => rfl
  | append_singleton xs a ih =>
    have before := ih fun b first c second =>
      same b (List.mem_append_left _ first) c (List.mem_append_left _ second)
    have held : holds key' ((ofList key xs).map f) (f a) = holds key (ofList key xs) a := by
      rw [Bool.eq_iff_iff, holds_iff, holds_iff]
      have alike : ∀ b ∈ ofList key xs, key' (f b) = key' (f a) ↔ key b = key a := fun b member =>
        same b (List.mem_append_left _ (mem_of_mem_ofList member)) a
          (List.mem_append_right _ (List.mem_singleton_self a))
      refine ⟨?_, ?_⟩
      · intro found
        obtain ⟨c, member, equal⟩ := found
        obtain ⟨b, among, rfl⟩ := List.mem_map.1 member
        exact ⟨b, among, (alike b among).1 equal⟩
      · intro found
        obtain ⟨b, among, equal⟩ := found
        exact ⟨f b, List.mem_map_of_mem among, (alike b among).2 equal⟩
    rw [List.map_append, List.map_singleton, ofList_append_singleton, ofList_append_singleton, before, push,
      push, held]
    split
    · rfl
    · rw [List.map_append, List.map_singleton]

theorem mapM_map_result {α β γ : Type} (f : β → γ) (make : α → Except Error β) (xs : List α) :
    (xs.mapM fun x => (make x).map f) = (xs.mapM make).map (List.map f) := by
  induction xs with
  | nil => rfl
  | cons x xs ih =>
    rw [List.mapM_cons, List.mapM_cons, ih]
    cases make x with
    | error fault => rfl
    | ok y => cases xs.mapM make <;> rfl

def Quad.toldOf (g : Term) (q : Quad) : Quad := { q with graph := g }

namespace Endpoint

def unnamed (e : Endpoint) : Endpoint := { e with name := .defaultGraph }

variable {e : Endpoint} {p : Pattern} {g : Term} {c : Clients}

section

variable (typed : ∀ t ∈ p.bound, t.isProper = true)
include typed

theorem unaskable_iff : unaskable p = true ↔ p.NamesBlank := by
  rw [unaskable, List.any_eq_true]
  refine exists_congr fun bound => and_congr_right fun position => ?_
  rw [Option.any_eq_true]
  refine exists_congr fun t => and_congr_right fun given => ?_
  exact Term.mentionsBlank_iff (typed t (Pattern.mem_bound_of_position position given))

theorem queryFor_of_typed (e : Endpoint) : e.queryFor p = .ok (e.query p) :=
  queryFor_of_isWritten e fun _ position _ given =>
    Term.isWritten_of_isProper (typed _ (Pattern.mem_bound_of_position position given))

theorem sendPattern_of_names (names : p.NamesBlank) :
    e.sendPattern c p = { result := .ok [], clients := c } := by
  rw [sendPattern, if_pos ((unaskable_iff typed).2 names)]

theorem sendPattern_of_askable (askable : ¬ p.NamesBlank) : e.sendPattern c p =
    { e.sendQuery c (e.query p) with result := (e.sendQuery c (e.query p)).result.bind (e.quadsOf p) } := by
  rw [sendPattern, if_neg (mt (unaskable_iff typed).1 askable), queryFor_of_typed typed]

end

theorem sendQuery_sent {head : Head} {query : String} (headed : e.headFor query = .ok head) :
    (e.sendQuery c query).sent = [⟨c.acquire.1, query, head⟩] := by
  rw [sendQuery, headed]
  rfl

theorem sendQuery_unsent {fault : Error} {query : String} (headless : e.headFor query = .error fault) :
    (e.sendQuery c query).sent = [] ∧ (e.sendQuery c query).result = .error fault := by
  rw [sendQuery, headless]
  exact ⟨rfl, rfl⟩

theorem position_spec {bound : Option Term} {row : Solution} {name : String} {t : Term}
    (made : position bound row name = .ok t) : ∀ s ∈ bound, t = s := by
  intro s given
  rw [Option.mem_def.1 given] at made
  exact (Except.ok.inj made).symm

theorem quadOf_spec {row : Solution} {q : Quad} (made : e.quadOf p row = .ok q) :
    q.graph = e.context p.graph ∧ p.Picks ⟨q.subject, q.predicate, q.object⟩ := by
  rw [quadOf] at made
  obtain ⟨s, subject, made⟩ := exists_of_bind_ok made
  obtain ⟨r, predicate, made⟩ := exists_of_bind_ok made
  obtain ⟨o, object, made⟩ := exists_of_bind_ok made
  dsimp only at made
  split at made
  · obtain rfl := Except.ok.inj made
    exact ⟨rfl, ⟨position_spec subject, position_spec predicate, position_spec object⟩⟩
  · cases made

theorem quadsOf_spec {rows : List Solution} {quads : List Quad} (made : e.quadsOf p rows = .ok quads) :
    ∀ q ∈ quads, q.graph = e.context p.graph ∧ p.Picks ⟨q.subject, q.predicate, q.object⟩ := by
  intro q member
  rw [quadsOf] at made
  obtain ⟨all, read, made⟩ := exists_of_bind_ok made
  obtain rfl : Distinct.ofList Quad.settled all = quads := Except.ok.inj made
  obtain ⟨row, -, here⟩ := exists_of_mapM read q (Distinct.mem_of_mem_ofList member)
  exact quadOf_spec here

section

variable (given : p.graph = some g) (other : g ≠ .defaultGraph)
include given other

theorem context_of_given : e.context p.graph = g := by
  rw [given, context]
  rintro rfl
  exact other rfl

theorem query_of_no_name (nameless : g.isIri = false) : e.query p = e.unnamed.query p.anywhere := by
  have context : e.context p.graph = g := context_of_given given other
  rw [query, query, context, nameless]
  rfl

theorem quadOf_of_given (hashable : g.hashable = true) (row : Solution) :
    e.quadOf p row = (e.unnamed.quadOf p.anywhere row).map (Quad.toldOf g) := by
  have checked : ∀ s r o, (⟨s, r, o, g⟩ : Quad).hashable = (⟨s, r, o, .defaultGraph⟩ : Quad).hashable := by
    intro s r o
    simp [Quad.hashable, Quad.terms, Term.hashable, hashable]
  have home : e.unnamed.context p.anywhere.graph = .defaultGraph := rfl
  rw [quadOf, quadOf, context_of_given given other, home]
  simp only [Pattern.anywhere, bind, Except.bind, checked]
  cases position p.subject row "s" with
  | error fault => rfl
  | ok s =>
    cases position p.predicate row "p" with
    | error fault => rfl
    | ok r =>
      cases position p.object row "o" with
      | error fault => rfl
      | ok o =>
        dsimp only
        split <;> rfl

theorem quadsOf_of_given (hashable : g.hashable = true) (rows : List Solution) :
    e.quadsOf p rows = (e.unnamed.quadsOf p.anywhere rows).map (List.map (Quad.toldOf g)) := by
  have each : e.quadOf p = fun row => (e.unnamed.quadOf p.anywhere row).map (Quad.toldOf g) :=
    funext (quadOf_of_given given other hashable)
  rw [quadsOf, quadsOf, each, mapM_map_result]
  cases read : rows.mapM (e.unnamed.quadOf p.anywhere) with
  | error fault => rfl
  | ok quads =>
    have home : ∀ q ∈ quads, q.graph = .defaultGraph := by
      intro q member
      obtain ⟨row, -, here⟩ := exists_of_mapM read q member
      exact (quadOf_spec here).1
    refine congrArg Except.ok (Distinct.ofList_map fun q first r second => ?_)
    simp [Quad.settled, Quad.toldOf, home q first, home r second]

end

theorem sendQuery_of_unnamed (query : String) : e.unnamed.sendQuery c query = e.sendQuery c query := rfl

/-- What is sent for a lookup and what comes of it. As subject, predicate or object a blank node is never sent,
at whatever depth it is. As the graph it goes unseen: the query that is sent is about no graph, and whatever
the endpoint says to it is told of the blank node. -/
theorem lookup_requests (e : Endpoint) (c : Clients) {p : Pattern}
    (typed : ∀ t ∈ p.bound, t.isProper = true) :
    (p.NamesBlank → e.sendPattern c p = { result := .ok [], clients := c }) ∧
    (¬ p.NamesBlank →
      (∀ head, e.headFor (e.query p) = .ok head →
        (e.sendPattern c p).sent = [⟨c.acquire.1, e.query p, head⟩]) ∧
      (∀ fault, e.headFor (e.query p) = .error fault →
        (e.sendPattern c p).sent = [] ∧ (e.sendPattern c p).result = .error fault) ∧
      ∀ g, p.graph = some g → g.isIri = false → g ≠ .defaultGraph →
        let x := e.unnamed.sendPattern c p.anywhere
        (e.sendPattern c p).sent = x.sent ∧
          (e.sendPattern c p).result = x.result.map (List.map (Quad.toldOf g))) ∧
    ∀ quads, (e.sendPattern c p).result = .ok quads →
      ∀ q ∈ quads, q.graph = e.context p.graph ∧ p.Picks ⟨q.subject, q.predicate, q.object⟩ := by
  refine ⟨sendPattern_of_names typed, ?_, ?_⟩
  · intro askable
    have asked := sendPattern_of_askable typed askable (e := e) (c := c)
    refine ⟨?_, ?_, ?_⟩
    · intro head headed
      rw [asked]
      exact sendQuery_sent headed
    · intro fault headless
      obtain ⟨unsent, failed⟩ := sendQuery_unsent (c := c) headless
      rw [asked]
      exact ⟨unsent, by rw [failed]; rfl⟩
    · intro g given nameless other
      have bare : ∀ t ∈ p.anywhere.bound, t.isProper = true := fun t member =>
        typed t (Pattern.mem_bound_of_anywhere member)
      have hashable : g.hashable = true :=
        Term.hashable_of_isProper (typed g (Pattern.mem_bound_of_graph given))
      rw [sendPattern_of_askable typed askable, sendPattern_of_askable bare askable,
        ← query_of_no_name given other nameless, sendQuery_of_unnamed]
      refine ⟨rfl, ?_⟩
      cases (e.sendQuery c (e.query p)).result with
      | error fault => rfl
      | ok rows => exact quadsOf_of_given given other hashable rows
  · intro quads found
    by_cases names : p.NamesBlank
    · rw [sendPattern_of_names typed names] at found
      cases found
      simp
    · rw [sendPattern_of_askable typed names] at found
      obtain ⟨rows, -, told⟩ := exists_of_bind_ok found
      exact quadsOf_spec told

def calledInBlank : Pattern :=
  { subject := some (.iri "s"), predicate := some (.iri "p"), graph := some (.blank "b") }

def called : Triple := ⟨.iri "s", .iri "p", .literal { lexical := "x" }⟩

def single : Endpoint := ⟨.defaultGraph, { url := .text "http://h/" }, [], replyOf calledInBlank [called]⟩

def hidden : Pattern :=
  { object := some (.quoted (.iri "a") (.iri "p") (.quoted (.blank "b") (.iri "p") (.iri "o") .defaultGraph)
    .defaultGraph) }

theorem requests_of_single :
    (single.sendPattern (.start false) hidden).sent = [] ∧
    (single.sendPattern (.start false) calledInBlank).sent.map (·.query) =
      ["SELECT * WHERE \x7b <s> <p> ?o \x7d"] ∧
    (single.sendPattern (.start false) calledInBlank).result = .ok [called.inGraph (.blank "b")] := by
  have typed : ∀ t ∈ calledInBlank.bound, t.isProper = true := by decide
  have typed' : ∀ t ∈ hidden.bound, t.isProper = true := by decide
  have askable : ¬ calledInBlank.NamesBlank := by
    rw [← unaskable_iff typed]
    decide
  have names : hidden.NamesBlank := by
    rw [← unaskable_iff typed']
    decide
  obtain ⟨head, headed⟩ : ∃ head, single.headFor (single.query calledInBlank) = .ok head := by
    have made : (single.headFor (single.query calledInBlank)).toOption.isSome = true := by decide +kernel
    cases headed : single.headFor (single.query calledInBlank) with
    | error fault => simp [headed, Except.toOption] at made
    | ok head => exact ⟨head, rfl⟩
  obtain ⟨unsent, -, -⟩ := lookup_requests single (.start false) typed'
  obtain ⟨-, sent, -⟩ := lookup_requests single (.start false) typed
  obtain ⟨asked, -, told⟩ := sent askable
  have bare : (single.unnamed.sendPattern (.start false) calledInBlank.anywhere).result =
      .ok [called.inGraph .defaultGraph] := by decide +kernel
  refine ⟨?_, ?_, ?_⟩
  · rw [unsent names]
    rfl
  · have text : single.query calledInBlank = "SELECT * WHERE \x7b <s> <p> ?o \x7d" := by decide +kernel
    rw [asked head headed, List.map_singleton, text]
  · rw [(told (.blank "b") rfl rfl nofun).2, bare]
    rfl

end Endpoint

end QuadPull
