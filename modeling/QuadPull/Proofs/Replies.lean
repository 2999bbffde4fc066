import Mathlib.Data.Finset.Image
import Mathlib.Data.List.Forall2
import QuadPull.Proofs.Encoding
import QuadPull.Proofs.Readability
import QuadPull.Proofs.Spelling

namespace QuadPull

structure Triple where
  subject : Term
  predicate : Term
  object : Term
  deriving DecidableEq

namespace Triple

def isTold (t : Triple) : Bool := t.subject.isTold && t.predicate.isTold && t.object.isTold

def mentionsBlank (t : Triple) : Bool :=
  t.subject.mentionsBlank || t.predicate.mentionsBlank || t.object.mentionsBlank

def inGraph (g : Term) (t : Triple) : Quad := ⟨t.subject, t.predicate, t.object, g⟩

end Triple

abbrev Dataset := Term → Finset Triple

def Dataset.IsTold (D : Dataset) : Prop := ∀ g, ∀ t ∈ D g, t.isTold = true

def Dataset.quads (D : Dataset) (g : Term) : Finset Quad := (D g).image (·.inGraph g)

structure Pattern.Picks (p : Pattern) (t : Triple) : Prop where
  subject : ∀ s ∈ p.subject, t.subject = s
  predicate : ∀ s ∈ p.predicate, t.predicate = s
  object : ∀ s ∈ p.object, t.object = s

instance (p : Pattern) (t : Triple) : Decidable (p.Picks t) :=
  decidable_of_iff ((∀ s ∈ p.subject, t.subject = s) ∧ (∀ s ∈ p.predicate, t.predicate = s) ∧
    ∀ s ∈ p.object, t.object = s) ⟨fun h => ⟨h.1, h.2.1, h.2.2⟩, fun h => ⟨h.subject, h.predicate, h.object⟩⟩

namespace Endpoint

def Column (bound : Option Term) (fields : List (String × Document)) (name : String) (t : Term) : Prop :=
  bound = none → ∃ d, fields.lookup name = some d ∧ Binding.Binds d t

/-- The row tells the triple to one who asked for a pattern: it binds the variables of the pattern. -/
inductive Tells (p : Pattern) : Document → Triple → Prop where
  | row {fields : List (String × Document)} {t : Triple} (each : ∀ f ∈ fields, ∃ u, Binding.Binds f.2 u)
      (subject : Column p.subject fields "s" t.subject)
      (predicate : Column p.predicate fields "p" t.predicate)
      (object : Column p.object fields "o" t.object) : Tells p (.object fields) t

def Replies (e : Endpoint) (p : Pattern) (ts : List Triple) : Prop :=
  ∃ head answer rows, e.headFor (e.query p) = .ok head ∧
    (e.respond (e.query p)).document head.takesReplies = .ok answer ∧
    (answer.field? "results").bind (·.field? "bindings") = some (.list rows) ∧
    List.Forall₂ (Tells p) rows ts

/-- The triples told are those that the pattern picks from the graph that it is about. -/
def RepliesFrom (e : Endpoint) (D : Dataset) (p : Pattern) (ts : List Triple) : Prop :=
  e.Replies p ts ∧ ∀ t, t ∈ ts ↔ t ∈ D (e.context p.graph) ∧ p.Picks t

def Answers (e : Endpoint) (D : Dataset) (p : Pattern) : Prop := ∃ ts, e.RepliesFrom D p ts

end Endpoint

section

theorem Solution.ofFields_of_binds {fields : List (String × Document)}
    (each : ∀ f ∈ fields, ∃ u, Binding.Binds f.2 u) :
    ∃ row, Solution.ofFields fields = .ok row ∧ ∀ name d u, fields.lookup name = some d →
      Binding.Binds d u → row.lookup name = some u := by
  induction fields with
  | nil => exact ⟨[], rfl, by simp⟩
  | cons field rest ih =>
    obtain ⟨key, e⟩ := field
    obtain ⟨t, first⟩ := each _ List.mem_cons_self
    obtain ⟨row, read, later⟩ := ih fun f member => each f (List.mem_cons_of_mem _ member)
    refine ⟨(key, t) :: row, ?_, ?_⟩
    · rw [Solution.ofFields, Binding.term_of_binds first, read]
      rfl
    · intro name d u held binds
      by_cases same : name = key
      · obtain rfl := same
        rw [List.lookup_cons_self] at held ⊢
        obtain rfl := Option.some.inj held
        have read' := Binding.term_of_binds binds
        rw [Binding.term_of_binds first] at read'
        rw [Except.ok.inj read']
      · have other : (name == key) = false := by simpa using same
        rw [List.lookup_cons, other] at held ⊢
        exact later name d u held binds

namespace Endpoint

def columnOf (bound : Option Term) (name : String) (t : Term) : List (String × Document) :=
  if bound.isSome then [] else [(name, Binding.written t)]

def rowOf (p : Pattern) (t : Triple) : Document :=
  .object (columnOf p.subject "s" t.subject ++ columnOf p.predicate "p" t.predicate ++
    columnOf p.object "o" t.object)

def replyOf (p : Pattern) (ts : List Triple) : Response :=
  .reply (some 200) (.document (.object [("results", .object [("bindings", .list (ts.map (rowOf p)))])]))

theorem lookup_columnOf {bound : Option Term} {name other : String} {t : Term} :
    (columnOf bound name t).lookup other =
      if bound = none ∧ other = name then some (Binding.written t) else none := by
  cases bound with
  | some s => simp [columnOf]
  | none =>
    by_cases same : other = name
    · simp [columnOf, same]
    · have apart : (other == name) = false := by simpa using same
      simp [columnOf, same, List.lookup_cons, apart]

theorem tells_rowOf {t : Triple} (told : t.isTold = true) (p : Pattern) : Tells p (rowOf p t) t := by
  simp only [Triple.isTold, Bool.and_eq_true] at told
  obtain ⟨⟨subject, predicate⟩, object⟩ := told
  have column : ∀ {bound : Option Term} {name : String} {u : Term}, u.isTold = true →
      ∀ f ∈ columnOf bound name u, ∃ u, Binding.Binds f.2 u := by
    intro bound name u told f member
    cases bound with
    | some s => simp [columnOf] at member
    | none =>
      obtain rfl : f = (name, Binding.written u) := by simpa [columnOf] using member
      exact ⟨u, Binding.binds_written told⟩
  refine .row ?_ ?_ ?_ ?_
  · intro f member
    rcases List.mem_append.1 member with member | member
    · rcases List.mem_append.1 member with member | member
      · exact column subject f member
      · exact column predicate f member
    · exact column object f member
  · intro unbound
    exact ⟨_, by simp [List.lookup_append, lookup_columnOf, unbound], Binding.binds_written subject⟩
  · intro unbound
    exact ⟨_, by simp [List.lookup_append, lookup_columnOf, unbound], Binding.binds_written predicate⟩
  · intro unbound
    exact ⟨_, by simp [List.lookup_append, lookup_columnOf, unbound], Binding.binds_written object⟩

theorem replies_of_respond {e : Endpoint} {p : Pattern} {ts : List Triple} {head : Head}
    (headed : e.headFor (e.query p) = .ok head) (takes : head.takesReplies = true)
    (told : ∀ t ∈ ts, t.isTold = true) (responds : e.respond (e.query p) = replyOf p ts) :
    e.Replies p ts := by
  refine ⟨head, _, ts.map (rowOf p), headed, by rw [responds, takes]; rfl, rfl, ?_⟩
  rw [List.forall₂_map_left_iff, List.forall₂_same]
  exact fun t member => tells_rowOf (told t member) p

def serving (e : Endpoint) (table : List (Pattern × List Triple)) : Endpoint :=
  { e with responses := table.map fun a => (e.query a.1, replyOf a.1 a.2), fallback := .empty }

theorem respond_serving {e : Endpoint} {table : List (Pattern × List Triple)}
    (apart : (table.map fun a => e.query a.1).Nodup) {p : Pattern} {ts : List Triple}
    (member : (p, ts) ∈ table) : (e.serving table).respond (e.query p) = replyOf p ts := by
  obtain ⟨before, after, rfl⟩ := List.append_of_mem member
  have held : (e.serving (before ++ (p, ts) :: after)).responses.lookup (e.query p) = some (replyOf p ts) := by
    refine List.lookup_eq_some_iff.2 ⟨_, _, by rw [serving, List.map_append, List.map_cons], ?_⟩
    intro row among
    obtain ⟨a, first, rfl⟩ := List.mem_map.1 among
    rw [List.map_append, List.nodup_append] at apart
    have other := apart.2.2 _ (List.mem_map_of_mem first) _ List.mem_cons_self
    simpa using Ne.symm other
  rw [respond, held, Option.getD_some]

variable {e : Endpoint} {p : Pattern} {t : Triple}

theorem position_of_column {bound : Option Term} {fields : List (String × Document)} {row : Solution}
    {name : String} {t : Term} (column : Column bound fields name t) (picked : ∀ s ∈ bound, t = s)
    (bindings : ∀ name d u, fields.lookup name = some d → Binding.Binds d u → row.lookup name = some u) :
    position bound row name = .ok t := by
  cases bound with
  | some s => rw [position, picked s rfl]
  | none =>
    obtain ⟨d, held, binds⟩ := column rfl
    rw [position, Solution.get, bindings name d t held binds]
    rfl

theorem quadOf_of_tells {row : Document} (tells : Tells p row t) (picks : p.Picks t)
    (hashable : (t.inGraph (e.context p.graph)).hashable = true) :
    ∃ solution, Solution.ofRow row = .ok solution ∧
      e.quadOf p solution = .ok (t.inGraph (e.context p.graph)) := by
  cases tells with
  | row each subject predicate object =>
    obtain ⟨solution, read, bindings⟩ := Solution.ofFields_of_binds each
    have s := position_of_column subject picks.subject bindings
    have q := position_of_column predicate picks.predicate bindings
    have o := position_of_column object picks.object bindings
    refine ⟨solution, by rw [Solution.ofRow, read], ?_⟩
    rw [quadOf, s, q, o]
    exact if_pos hashable

theorem mapM_cons_ok {α β : Type} {f : α → Except Error β} {x : α} {y : β} {xs : List α} {ys : List β}
    (first : f x = .ok y) (later : xs.mapM f = .ok ys) : (x :: xs).mapM f = .ok (y :: ys) := by
  rw [List.mapM_cons, first, later]
  rfl

theorem quads_of_tells {rows : List Document} {ts : List Triple} (tells : List.Forall₂ (Tells p) rows ts)
    (picked : ∀ t ∈ ts, p.Picks t)
    (hashable : ∀ t ∈ ts, (t.inGraph (e.context p.graph)).hashable = true) :
    ∃ solutions, rows.mapM Solution.ofRow = .ok solutions ∧
      solutions.mapM (e.quadOf p) = .ok (ts.map (·.inGraph (e.context p.graph))) := by
  induction tells with
  | nil => exact ⟨[], rfl, rfl⟩
  | @cons row t rows ts first _ ih =>
    obtain ⟨picks, picked⟩ := List.forall_mem_cons.1 picked
    obtain ⟨here, hashable⟩ := List.forall_mem_cons.1 hashable
    obtain ⟨solution, read, quad⟩ := quadOf_of_tells first picks here
    obtain ⟨solutions, reads, quads⟩ := ih picked hashable
    exact ⟨solution :: solutions, mapM_cons_ok read reads, mapM_cons_ok quad quads⟩

end Endpoint

end

section

theorem Term.isProper_of_isTold {t : Term} (told : t.isTold = true) : t.isProper = true := by
  induction t with
  | quoted s p o g subject predicate object =>
    obtain ⟨rfl, told_s, told_p, told_o⟩ := Binding.told_parts told
    rw [isProper, subject told_s, predicate told_p, object told_o]
    rfl
  | loose l => cases told
  | _ => rfl

theorem Triple.isProper_inGraph {t : Triple} {g : Term} (told : t.isTold = true)
    (named : g.isGraphName = true) : (t.inGraph g).isProper = true := by
  simp only [isTold, Bool.and_eq_true] at told
  exact Quad.isProper_iff.2 ⟨Term.isProper_of_isTold told.1.1, Term.isProper_of_isTold told.1.2,
    Term.isProper_of_isTold told.2, (Term.isProper_of_isGraphName named).1⟩

end

section

theorem Distinct.ofList_append_singleton {α κ : Type} [DecidableEq κ] (key : α → κ) (xs : List α) (a : α) :
    ofList key (xs ++ [a]) = push key (ofList key xs) a := by
  rw [ofList, pushAll, List.foldl_append]
  rfl

theorem Distinct.pairwise_ofList {α κ : Type} [DecidableEq α] [DecidableEq κ] (key : α → κ) (xs : List α) :
    (ofList key xs).Pairwise fun a b => xs.idxOf a < xs.idxOf b := by
  induction xs using List.reverseRecOn with
  | nil => exact List.Pairwise.nil
  | append_singleton xs a ih =>
    have kept : (ofList key xs).Pairwise fun b c => (xs ++ [a]).idxOf b < (xs ++ [a]).idxOf c := by
      refine ih.imp_of_mem fun {b c} first second before => ?_
      rw [List.idxOf_append_of_mem (mem_of_mem_ofList first),
        List.idxOf_append_of_mem (mem_of_mem_ofList second)]
      exact before
    rw [ofList_append_singleton, push]
    -- An element that is new stands behind all others, and no first occurrence moves.
    split
    · exact kept
    · rename_i fresh
      have absent : a ∉ xs := fun member => fresh (holds_ofList.2 (holds_of_mem member))
      refine List.pairwise_append.2 ⟨kept, List.pairwise_singleton _ _, ?_⟩
      intro b among c last
      obtain rfl := List.mem_singleton.1 last
      have member := mem_of_mem_ofList among
      rw [List.idxOf_append_of_mem member, List.idxOf_append_of_notMem absent]
      have inside := List.idxOf_lt_length_of_mem member
      omega

end

theorem Term.isWritten_of_isProper {t : Term} (proper : t.isProper = true) : t.isWritten = true := by
  induction t with
  | quoted s p o g subject predicate object =>
    simp only [isProper, Bool.and_eq_true] at proper
    obtain ⟨⟨⟨proper_s, proper_p⟩, proper_o⟩, -⟩ := proper
    rw [isWritten, subject proper_s, predicate proper_p, object proper_o]
    rfl
  | loose l => cases proper
  | _ => rfl

def Pattern.isPlain (p : Pattern) : Bool :=
  [p.subject, p.predicate, p.object].all (·.all fun t => t.isProper && !t.mentionsBlank) &&
    p.graph.all Term.isGraphName

namespace Endpoint

variable {e : Endpoint} {D : Dataset} {p : Pattern} {ts : List Triple}

theorem plain_term (plain : p.isPlain = true) : ∀ bound ∈ [p.subject, p.predicate, p.object], ∀ t ∈ bound,
    t.isProper = true ∧ t.mentionsBlank = false := by
  rw [Pattern.isPlain, Bool.and_eq_true] at plain
  intro bound among t given
  have checked := List.all_eq_true.1 plain.1 bound among
  rw [Option.all_eq_true] at checked
  simpa using checked t given

theorem askable_of_isPlain (plain : p.isPlain = true) : unaskable p = false := by
  rw [unaskable, List.any_eq_false]
  intro bound among
  rw [Bool.not_eq_true, Option.any_eq_false]
  exact fun t given => by simp [(plain_term plain bound among t given).2]

theorem queryFor_of_isPlain (e : Endpoint) (plain : p.isPlain = true) : e.queryFor p = .ok (e.query p) :=
  queryFor_of_isWritten e fun bound among t given =>
    Term.isWritten_of_isProper (plain_term plain bound among t given).1

theorem context_isGraphName (named : e.name.isGraphName = true) (plain : p.isPlain = true) :
    (e.context p.graph).isGraphName = true := by
  rw [Pattern.isPlain, Bool.and_eq_true] at plain
  unfold context
  split
  · exact named
  · exact named
  · rename_i g _ given
    simpa [given] using plain.2

theorem proper_of_repliesFrom (told : D.IsTold) (named : (e.context p.graph).isGraphName = true)
    (replies : e.RepliesFrom D p ts) :
    ∀ q ∈ ts.map (·.inGraph (e.context p.graph)), q.isProper = true := by
  intro q among
  obtain ⟨t, member, rfl⟩ := List.mem_map.1 among
  exact Triple.isProper_inGraph (told _ t ((replies.2 t).1 member).1) named

/-- What a lookup finds: the quads of the triples that are told, each where it is told first. -/
theorem find_of_repliesFrom (told : D.IsTold) (named : e.name.isGraphName = true)
    (plain : p.isPlain = true) (replies : e.RepliesFrom D p ts) :
    e.find p = .ok (Distinct.ofList Quad.settled (ts.map (·.inGraph (e.context p.graph)))) := by
  have proper := proper_of_repliesFrom told (context_isGraphName named plain) replies
  obtain ⟨⟨head, answer, rows, headed, answered, listed, tells⟩, members⟩ := replies
  have hashable : ∀ t ∈ ts, (t.inGraph (e.context p.graph)).hashable = true := fun t member =>
    Quad.hashable_of_isProper (proper _ (List.mem_map_of_mem member))
  obtain ⟨decoded, read, quads⟩ :=
    quads_of_tells tells (fun t member => ((members t).1 member).2) hashable
  have solved : e.solutions head (e.query p) = .ok decoded := by
    have rows_read : Solution.ofAnswer e.address answer = .ok decoded := by
      rw [Solution.ofAnswer, listed]
      exact read
    rw [solutions, answered]
    exact rows_read
  rw [find, askable_of_isPlain plain, if_neg Bool.false_ne_true, queryFor_of_isPlain e plain]
  simp only [bind, Except.bind, headed, solved, quadsOf, quads, pure, Except.pure]

theorem mem_found (told : D.IsTold) (named : e.name.isGraphName = true) (plain : p.isPlain = true)
    (replies : e.RepliesFrom D p ts) {q : Quad} :
    q ∈ Distinct.ofList Quad.settled (ts.map (·.inGraph (e.context p.graph))) ↔
      ∃ t ∈ D (e.context p.graph), p.Picks t ∧ t.inGraph (e.context p.graph) = q := by
  have proper := proper_of_repliesFrom told (context_isGraphName named plain) replies
  have apart : ∀ r ∈ ts.map (·.inGraph (e.context p.graph)), r.settled = q.settled → r = q :=
    fun r among same => (Quad.eq_of_settled_eq (proper r among) same.symm).symm
  rw [Distinct.mem_ofList apart, List.mem_map]
  simp only [replies.2, and_assoc]

end Endpoint

end QuadPull
