import QuadPull.Proofs.Replies
import QuadPull.Proofs.Sufficiency

namespace QuadPull

namespace Response

theorem document_taken {r : Response} {taken : Bool} {d : Document} (answered : r.document taken = .ok d) :
    r.document true = .ok d := by
  cases taken with
  | true => exact answered
  | false =>
    cases r with
    | reply status body =>
      cases checked : body.check <;> simp [document, checked, bind, Except.bind, throw, throwThe,
        MonadExceptOf.throw] at answered
    | failure cause => cases answered

theorem size_of_rows {r : Response} {taken : Bool} {d : Document} {rows : List Document}
    (answered : r.document taken = .ok d)
    (listed : (d.field? "results").bind (·.field? "bindings") = some (.list rows)) :
    r.size = rows.length := by
  simp only [size, document_taken answered, listed]

end Response

namespace Pull

def Lookup.pattern (l : Lookup) : Pattern := { subject := some l.subject, predicate := l.predicate }

def Lookup.mentionsBlank (l : Lookup) : Bool := Endpoint.unaskable l.pattern

theorem Lookup.isPlain_pattern {l : Lookup} (proper : l.isProper = true) (plain : l.mentionsBlank = false) :
    l.pattern.isPlain = true := by
  obtain ⟨s, bound⟩ := l
  cases bound with
  | none => simp_all [isProper, mentionsBlank, pattern, Endpoint.unaskable, Pattern.isPlain]
  | some p => simp_all [isProper, mentionsBlank, pattern, Endpoint.unaskable, Pattern.isPlain]

theorem Lookup.picks_pattern {l : Lookup} {t : Triple} :
    l.pattern.Picks t ↔ t.subject = l.subject ∧ ∀ p ∈ l.predicate, t.predicate = p := by
  constructor
  · exact fun picks => ⟨picks.subject l.subject rfl, picks.predicate⟩
  · rintro ⟨subject, predicate⟩
    refine ⟨?_, predicate, by simp [pattern]⟩
    rintro s ⟨⟩
    exact subject

theorem find_remote {e : Endpoint} {l : Lookup} (proper : l.isProper = true) :
    (Graph.remote e).source.find l = e.find l.pattern := by
  rw [Lookup.isProper, Bool.and_eq_true] at proper
  change e.find { subject := l.subject.given?, predicate := l.predicate } = _
  rw [Term.given?_of_isProper proper.1, Lookup.pattern]

end Pull

namespace Endpoint

variable {e : Endpoint} {D : Dataset}

theorem size_le_bound (e : Endpoint) (query : String) : (e.respond query).size ≤ e.bound := by
  unfold respond bound
  cases held : e.responses.lookup query with
  | none => exact Nat.le_add_left _ _
  | some r =>
    obtain ⟨before, after, split, -⟩ := List.lookup_eq_some_iff.1 held
    have member : (query, r) ∈ e.responses := split ▸ List.mem_append_right _ List.mem_cons_self
    have among : r.size ∈ e.responses.map fun r => r.2.size := List.mem_map.2 ⟨(query, r), member, rfl⟩
    exact Nat.le_trans (Number.le_total among) (Nat.le_add_right _ _)

theorem card_le_bound {ts : List Triple} (replies : e.RepliesFrom D {} ts) :
    (D.quads e.name).card ≤ e.bound := by
  obtain ⟨⟨head, answer, rows, -, answered, listed, tells⟩, members⟩ := replies
  have all : D e.name ⊆ ts.toFinset := fun t member =>
    List.mem_toFinset.2 ((members t).2 ⟨member, by simp, by simp, by simp⟩)
  calc (D.quads e.name).card
      ≤ (D e.name).card := Finset.card_image_le
    _ ≤ ts.toFinset.card := Finset.card_le_card all
    _ ≤ ts.length := ts.toFinset_card_le
    _ = rows.length := tells.length_eq.symm
    _ = (e.respond (e.query {})).size := (Response.size_of_rows answered listed).symm
    _ ≤ e.bound := e.size_le_bound _

theorem mem_quads {g : Term} {q : Quad} : q ∈ D.quads g ↔ ∃ t ∈ D g, t.inGraph g = q := Finset.mem_image

theorem found_by_lookup (told : D.IsTold) (named : e.name.isGraphName = true) {l : Pull.Lookup}
    (proper : l.isProper = true) (plain : l.mentionsBlank = false) (answers : e.Answers D l.pattern) :
    ∃ quads, e.find l.pattern = .ok quads ∧ ∀ q, q ∈ quads ↔
      q ∈ D.quads e.name ∧ q.subject = l.subject ∧ ∀ p ∈ l.predicate, q.predicate = p := by
  obtain ⟨ts, replies⟩ := answers
  have pattern_plain := Pull.Lookup.isPlain_pattern proper plain
  refine ⟨_, find_of_repliesFrom told named pattern_plain replies, ?_⟩
  intro q
  rw [mem_found told named pattern_plain replies, mem_quads]
  simp only [Pull.Lookup.picks_pattern]
  constructor
  · rintro ⟨t, member, picks, rfl⟩
    exact ⟨⟨t, member, rfl⟩, picks⟩
  · rintro ⟨⟨t, member, rfl⟩, picks⟩
    exact ⟨t, member, picks, rfl⟩

theorem none_of_blank (pure : ∀ t ∈ D e.name, t.mentionsBlank = false) {l : Pull.Lookup}
    (blank : l.mentionsBlank = true) {q : Quad} (member : q ∈ D.quads e.name) :
    ¬ (q.subject = l.subject ∧ ∀ p ∈ l.predicate, q.predicate = p) := by
  rintro ⟨subject, predicate⟩
  obtain ⟨t, stated, rfl⟩ := mem_quads.1 member
  have clear := pure t stated
  simp only [Triple.mentionsBlank, Bool.or_eq_false_iff] at clear
  obtain ⟨s, bound⟩ := l
  obtain rfl : t.subject = s := subject
  cases bound with
  | none => simp [Pull.Lookup.mentionsBlank, Pull.Lookup.pattern, unaskable, clear.1.1] at blank
  | some p =>
    obtain rfl : t.predicate = p := predicate p rfl
    simp [Pull.Lookup.mentionsBlank, Pull.Lookup.pattern, unaskable, clear.1.1, clear.1.2] at blank

/-- An endpoint that answers some lookups and a listing from a dataset without blank nodes is as right about
the quads of its graph as a source can be; it need not be asked where blank nodes are mentioned. -/
theorem holdsFor (told : D.IsTold) (named : e.name.isGraphName = true)
    (pure : ∀ t ∈ D e.name, t.mentionsBlank = false) {L : Pull.Lookup → Prop}
    (lookups : ∀ l, L l → l.isProper = true) (listing : e.Answers D {})
    (answers : ∀ l, L l → l.mentionsBlank = false → e.Answers D l.pattern) :
    (Graph.remote e).source.HoldsFor (D.quads e.name) L where
  find := by
    intro l asked
    have proper := lookups l asked
    rw [Pull.find_remote proper]
    cases mentions : l.mentionsBlank with
    | false => exact found_by_lookup told named proper mentions (answers l asked mentions)
    | true =>
      -- Nothing is asked and nothing comes back, which is right for a graph without blank nodes.
      refine ⟨[], by rw [find]; exact if_pos mentions, ?_⟩
      intro q
      simp only [List.not_mem_nil, false_iff]
      exact fun found => none_of_blank pure mentions found.1 found.2
  quads := by
    obtain ⟨ts, replies⟩ := listing
    have plain : ({} : Pattern).isPlain = true := rfl
    refine ⟨_, find_of_repliesFrom told named plain replies, ?_⟩
    intro q
    have anything : ∀ t, ({} : Pattern).Picks t := fun t => ⟨by simp, by simp, by simp⟩
    rw [mem_found told named plain replies, mem_quads]
    simp only [anything, true_and]
    rfl
  bound := by
    obtain ⟨ts, replies⟩ := listing
    exact card_le_bound replies

/-- Lookups at an endpoint that answers from a dataset find just the quads that a pattern picks, each once and
in the order in which they are told. Pulls from it come to what pulls from a set of the quads of its graph
come to, when there are no blank nodes, whose labels mean nothing to an endpoint. -/
theorem remote_agrees_with_local (e : Endpoint) (D : Dataset) (named : e.name.isGraphName = true)
    (told : D.IsTold) :
    (∀ p : Pattern, p.isPlain = true → ∀ ts, e.RepliesFrom D p ts →
      ∃ quads, e.find p = .ok quads ∧ quads.Nodup ∧
        (∀ q, q ∈ quads ↔ ∃ t ∈ D (e.context p.graph), p.Picks t ∧ t.inGraph (e.context p.graph) = q) ∧
        let told := ts.map (·.inGraph (e.context p.graph))
        quads.Pairwise fun q r => told.idxOf q < told.idxOf r) ∧
    ((∀ t ∈ D e.name, t.mentionsBlank = false) → e.Answers D {} →
      ∀ s : SetGraph, s.name = e.name → (∀ q, q ∈ s.quads ↔ q ∈ D.quads e.name) →
      ∀ (settings : LookupSettings) (expression : Value) (start : Option Term),
        Pull.isTyped expression = true → (∀ t ∈ start, t.isProper = true) →
        (∀ plan, Pull.compile expression = .ok plan →
          ∀ l ∈ (Graph.set s).source.demands (D.quads e.name) settings.strict.truthy plan start,
            l.mentionsBlank = false → e.Answers D l.pattern) →
        Pull.Alike (((Graph.remote e).pullWith settings expression start).map (·.1))
          (((Graph.set s).pullWith settings expression start).map (·.1))) := by
  refine ⟨?_, ?_⟩
  · intro p plain ts replies
    refine ⟨_, find_of_repliesFrom told named plain replies, ?_, ?_, Distinct.pairwise_ofList _ _⟩
    · exact List.Nodup.of_map _ Distinct.each_ofList
    · exact fun q => mem_found told named plain replies
  · intro pure listing s home members settings expression start typed given answers
    have proper : ∀ q ∈ D.quads e.name, q.isProper = true := by
      intro q member
      obtain ⟨t, stated, rfl⟩ := mem_quads.1 member
      exact Triple.isProper_inGraph (told _ t stated) named
    have same : s.quads.toFinset = D.quads e.name := by
      ext q
      rw [List.mem_toFinset, members]
    have holds : (Graph.set s).source.Holds (D.quads e.name) := same ▸ Pull.holds_set s
    have right : ∀ plan, Pull.compile expression = .ok plan → (Graph.remote e).source.HoldsFor (D.quads e.name)
        (· ∈ (Graph.set s).source.demands (D.quads e.name) settings.strict.truthy plan start) := by
      intro plan compiles
      have compiled := Pull.areCompiled_of_compile compiles typed
      have lookups := Pull.isProper_of_demanded holds proper compiled given settings.strict.truthy
      exact holdsFor told named pure lookups listing (answers plan compiles)
    have near := Pull.pulls_of_holds holds proper typed given settings e.name
    have far := Pull.pulls_of_demanded holds proper typed given settings right e.name
    have near_pull : ((Graph.set s).pullWith settings expression start).map (·.1) =
        Pull.pull settings e.name (Graph.set s).source expression start := by
      rw [Pull.pull_eq_map, Graph.pullWith, ← home]
      rfl
    have far_pull : ((Graph.remote e).pullWith settings expression start).map (·.1) =
        Pull.pull settings e.name (Graph.remote e).source expression start := by
      rw [Pull.pull_eq_map, Graph.pullWith]
      rfl
    rw [near_pull, far_pull]
    exact far.alike near

def nameless : Endpoint := ⟨.defaultGraph, { url := .text "http://h/" }, [], .empty⟩

def unnamedType : Triple := ⟨.iri "s", .iri "p", .literal { lexical := "x", datatype := "" }⟩

def typeless : Pattern := { subject := some (.iri "s"), predicate := some (.iri "p") }

theorem find_of_unnamedType : typeless.isPlain = true ∧ typeless.Picks unnamedType ∧
    let e := nameless.serving [(typeless, [unnamedType])]
    e.respond (e.query typeless) = replyOf typeless [unnamedType] ∧
      e.find typeless = .ok [⟨.iri "s", .iri "p", .typed "x" Vocabulary.xsdString, .defaultGraph⟩] ∧
      e.find typeless ≠ .ok [unnamedType.inGraph .defaultGraph] := by
  have found : (nameless.serving [(typeless, [unnamedType])]).find typeless =
      .ok [⟨.iri "s", .iri "p", .typed "x" Vocabulary.xsdString, .defaultGraph⟩] := by decide +kernel
  refine ⟨by decide, by decide, respond_serving (by decide) List.mem_cons_self, found, ?_⟩
  rw [found]
  decide

def claimed : Term := .quoted (.iri "a") (.iri "p")
  (.literal { lexical := "x", datatype := Vocabulary.langString, language := "en", direction := some "ltr" })
  .defaultGraph

def statement : Triple := ⟨.iri "a", .iri "claims", claimed⟩

def origin : Triple := ⟨claimed, .iri "by", .iri "b"⟩

def gossip : Dataset := fun g => if g = .defaultGraph then {statement, origin} else ∅

def gossipTable : List (Pattern × List Triple) :=
  [({}, [statement, origin, statement]),
    (Pull.Lookup.pattern ⟨.iri "a", some (.iri "claims")⟩, [statement, statement]),
    (Pull.Lookup.pattern ⟨claimed, none⟩, [origin])]

theorem repliesFrom_gossip : ∀ a ∈ gossipTable, (nameless.serving gossipTable).RepliesFrom gossip a.1 a.2 := by
  have apart : (gossipTable.map fun a => nameless.query a.1).Nodup := by decide +kernel
  have heads : ∀ a ∈ gossipTable, ((nameless.serving gossipTable).headFor (nameless.query a.1)).toOption.any
      (·.takesReplies) = true := by decide +kernel
  have known : ∀ a ∈ gossipTable, ∀ t ∈ a.2, t.isTold = true := by decide
  have precise : ∀ a ∈ gossipTable, (∀ t ∈ a.2, t ∈ gossip .defaultGraph ∧ a.1.Picks t) ∧
      ∀ t ∈ gossip .defaultGraph, a.1.Picks t → t ∈ a.2 := by decide
  have home : ∀ a ∈ gossipTable, (nameless.serving gossipTable).context a.1.graph = .defaultGraph := by decide
  intro a member
  obtain ⟨head, headed, takes⟩ : ∃ head,
      (nameless.serving gossipTable).headFor (nameless.query a.1) = .ok head ∧ head.takesReplies = true := by
    have accepted := heads a member
    cases made : (nameless.serving gossipTable).headFor (nameless.query a.1) with
    | error fault => simp [made, Except.toOption] at accepted
    | ok head => exact ⟨head, rfl, by simpa [made, Except.toOption] using accepted⟩
  refine ⟨replies_of_respond headed takes (known a member) (respond_serving apart member), ?_⟩
  intro t
  rw [home a member]
  exact ⟨(precise a member).1 t, fun held => (precise a member).2 t held.1 held.2⟩

def hearsay : Value := .list [.tuple [.term (.iri "claims"), .list [.text "*"]]]

def hearsayPlan : Plan := [.nested (.iri "claims") [.wildcard]]

def heard : SetGraph := .ofList .defaultGraph [origin.inGraph .defaultGraph, statement.inGraph .defaultGraph]

theorem pull_of_hearsay : gossip.IsTold ∧
    (∃ quads, (nameless.serving gossipTable).find {} = .ok quads ∧ quads.Nodup ∧
      statement.inGraph .defaultGraph ∈ quads) ∧
    Pull.Alike (((Graph.remote (nameless.serving gossipTable)).pullWith {} hearsay (some (.iri "a"))).map (·.1))
      (((Graph.set heard).pullWith {} hearsay (some (.iri "a"))).map (·.1)) := by
  have known : gossip.IsTold := by
    intro g t member
    unfold gossip at member
    split at member
    · revert t
      decide
    · cases member
  have named : (nameless.serving gossipTable).name.isGraphName = true := rfl
  obtain ⟨finds, pulls⟩ := remote_agrees_with_local (nameless.serving gossipTable) gossip named known
  have listed : (nameless.serving gossipTable).RepliesFrom gossip {} [statement, origin, statement] :=
    repliesFrom_gossip ({}, [statement, origin, statement]) List.mem_cons_self
  refine ⟨known, ?_, ?_⟩
  · obtain ⟨quads, found, once, members, -⟩ := finds {} rfl _ listed
    have picked : ({} : Pattern).Picks statement := by decide
    exact ⟨quads, found, once, (members _).2 ⟨statement, by decide, picked, rfl⟩⟩
  · have pure : ∀ t ∈ gossip .defaultGraph, t.mentionsBlank = false := by decide
    have same : heard.quads.toFinset = gossip.quads .defaultGraph := by decide
    have members : ∀ q, q ∈ heard.quads ↔ q ∈ gossip.quads .defaultGraph := by
      intro q
      rw [← same, List.mem_toFinset]
    have typed : Pull.isTyped hearsay = true := by decide
    have given : ∀ t ∈ some (Term.iri "a"), t.isProper = true := by decide
    refine pulls pure ⟨_, listed⟩ heard rfl members {} hearsay _ typed given ?_
    intro plan compiles l asked _
    obtain rfl : hearsayPlan = plan := by
      have compiles' : Pull.compile hearsay = .ok hearsayPlan := rfl
      exact Except.ok.inj (compiles'.symm.trans compiles)
    have made : ∀ l ∈ (Pull.select false ((Graph.set heard).source.bound + 1) hearsayPlan
        [.iri "a"]).demands (Graph.set heard).source.find,
        l = ⟨.iri "a", some (.iri "claims")⟩ ∨ l = ⟨claimed, none⟩ := by decide +kernel
    have holds : (Graph.set heard).source.Holds (gossip.quads .defaultGraph) := same ▸ Pull.holds_set heard
    have proper : ∀ q ∈ gossip.quads .defaultGraph, q.isProper = true := by decide
    have compiled : Pull.areCompiled hearsayPlan = true := rfl
    have demanded := Pull.Engine.started_demands holds proper compiled given false rfl
    have among : l ∈ (Pull.select false ((Graph.set heard).source.bound + 1) hearsayPlan
        [.iri "a"]).demands (Graph.set heard).source.find := by
      rw [← Multiset.mem_coe, demanded]
      exact asked
    rcases made l among with rfl | rfl
    · exact ⟨_, repliesFrom_gossip (_, [statement, statement]) (.tail _ (.head _))⟩
    · exact ⟨_, repliesFrom_gossip (_, [origin]) (.tail _ (.tail _ (.head _)))⟩

end Endpoint

end QuadPull
