import QuadPull.Proofs.Renaming
import QuadPull.Proofs.Skolemize
/-!
One counter numbers the names of all calls. Nothing looks whether a name is in use already, or under
another stem that ends in digits.
-/

namespace QuadPull

namespace Skolem

theorem next_le_rename (n : Naming) (t : Term) : n.next ≤ (n.rename t).2.next := by
  rw [Naming.rename]
  split
  · simp only [Naming.nameOf]
    split
    · exact Nat.le_refl _
    · exact Nat.le_succ _
  · exact Nat.le_refl _

theorem next_le_renameQuad (n : Naming) (q : Quad) : n.next ≤ (n.renameQuad q).2.next :=
  Nat.le_trans (next_le_rename n q.subject) (next_le_rename _ q.object)

theorem next_le_foldl (state : ChangeSet × Naming) (quads : List Quad) :
    state.2.next ≤ (quads.foldl step state).2.next := by
  induction quads generalizing state with
  | nil => exact Nat.le_refl _
  | cons q rest ih =>
    have first : state.2.next ≤ (step state q).2.next := by
      rw [step]
      split
      · exact next_le_renameQuad state.2 q
      · exact Nat.le_refl _
    exact Nat.le_trans first (ih (step state q))

theorem next_le_changes {name : Term} {quads : List Quad} {stem : String} {start next : Nat} {d : Delta}
    (made : changes name quads stem start = .ok (d, next)) : start ≤ next := by
  obtain ⟨g, -, rest⟩ := exists_of_bind_ok made
  simp only [bind, Except.bind, pure, Except.pure] at rest
  split at rest
  · cases rest
  · cases rest
    exact next_le_foldl (ChangeSet.ofGraph g, { stem, next := start }) quads

theorem toList_numeral (n : Nat) : (toString n).toList = Nat.toDigits 10 n := by
  rw [Nat.toString_eq_ofList_toDigits, String.toList_ofList]

/-- A name that two stems share under two numbers: the stem of the smaller number is the other one with digits
that begin the larger number. -/
theorem shared_name_iff {s r : String} {m n : Nat} (less : m < n) :
    s ++ toString m = r ++ toString n ↔ ∃ d, s = r ++ d ∧ d ++ toString m = toString n := by
  constructor
  · intro same
    have lists : s.toList ++ Nat.toDigits 10 m = r.toList ++ Nat.toDigits 10 n := by
      simpa only [String.toList_append, toList_numeral] using congrArg String.toList same
    rcases List.append_eq_append_iff.1 lists with ⟨more, -, digits⟩ | ⟨more, longer, digits⟩
    · -- The smaller number has no more digits, so there is nothing in front of the larger.
      have short : (Nat.toDigits 10 m).length ≤ (Nat.toDigits 10 n).length := by
        have bound := (Nat.length_toDigits_le_iff (by decide) Nat.length_toDigits_pos).1
          (Nat.le_refl (Nat.toDigits 10 n).length)
        exact (Nat.length_toDigits_le_iff (by decide) Nat.length_toDigits_pos).2 (Nat.lt_trans less bound)
      have none : more = [] := by
        have lengths := congrArg List.length digits
        rw [List.length_append] at lengths
        exact List.length_eq_zero_iff.1 (by omega)
      rw [none, List.nil_append] at digits
      have numbers : toString m = toString n := by
        rw [← String.toList_inj, toList_numeral, toList_numeral, digits]
      have names : "" ++ toString m = "" ++ toString n := congrArg _ numbers
      exact absurd (name_inj names) (Nat.ne_of_lt less)
    · refine ⟨String.ofList more, ?_, ?_⟩
      · rw [← String.toList_inj, String.toList_append, String.toList_ofList, longer]
      · rw [← String.toList_inj, String.toList_append, String.toList_ofList, toList_numeral, toList_numeral,
          digits]
  · rintro ⟨d, rfl, digits⟩
    rw [String.append_assoc, digits]

end Skolem

def IsNode (quads : List Quad) (t : Term) : Prop := ∃ q ∈ quads, q.subject = t ∨ q.object = t

section

variable {names : Names} {quads kept : List Quad} {stem : String} {start count : Nat}
  (mints : Mints names quads stem start count)
include mints

/-- Names keep apart what was apart exactly when none of them is a node already. -/
theorem Mints.apart_iff : (∀ n, start ≤ n → n < start + count → ¬ IsNode quads (.iri (stem ++ toString n))) ↔
    ∀ t u, IsNode quads t → IsNode quads u → t.renamed names = u.renamed names → t = u := by
  constructor
  · intro fresh
    have free : ∀ t, IsNode quads t → t.Free names := by
      rintro t node label name given rfl
      obtain ⟨n, low, high, rfl⟩ := (mints.values name).1 ⟨label, given⟩
      exact fresh n low high node
    intro t u first second
    exact (Term.renamed_inj mints.injective (free t first) (free u second)).1
  · intro apart n low high node
    obtain ⟨label, given⟩ := (mints.values _).2 ⟨n, low, high, rfl⟩
    obtain ⟨q, member, marks⟩ := (mints.labels label).1 ⟨_, given⟩
    have both : (Term.blank label).renamed names = (Term.iri (stem ++ toString n)).renamed names := by
      rw [Term.renamed, given]
      rfl
    cases apart _ _ ⟨q, member, marks⟩ node both

theorem Mints.length_eq
    (fresh : ∀ n, start ≤ n → n < start + count → ¬ IsNode quads (.iri (stem ++ toString n)))
    (each : quads.Nodup) (distinct : kept.Nodup)
    (members : ∀ q, q ∈ kept ↔ ∃ r ∈ quads, r.renamed names = q) : kept.length = quads.length := by
  have apart := mints.apart_iff.1 fresh
  have different : (quads.map (·.renamed names)).Nodup := by
    apply List.Nodup.map_on _ each
    intro q member r other same
    obtain ⟨subject, predicate, object, graph⟩ := q
    obtain ⟨subject', predicate', object', graph'⟩ := r
    simp only [Quad.renamed, Quad.mk.injEq] at same ⊢
    obtain ⟨subjects, predicates, objects, graphs⟩ := same
    exact ⟨apart _ _ ⟨_, member, .inl rfl⟩ ⟨_, other, .inl rfl⟩ subjects, predicates,
      apart _ _ ⟨_, member, .inr rfl⟩ ⟨_, other, .inr rfl⟩ objects, graphs⟩
  have alike : kept.Perm (quads.map (·.renamed names)) := by
    apply (List.perm_ext_iff_of_nodup distinct different).2
    intro q
    rw [members, List.mem_map]
  rw [alike.length_eq, List.length_map]

theorem Mints.shared_iff {more : Names} {others : List Quad} {stem' : String} {start' count' : Nat}
    (mints' : Mints more others stem' start' count') (later : start + count ≤ start') (name : String) :
    ((∃ label, names label = some name) ∧ ∃ label, more label = some name) ↔
      ∃ m n d, start ≤ m ∧ m < start + count ∧ start' ≤ n ∧ n < start' + count' ∧ stem = stem' ++ d ∧
        d ++ toString m = toString n ∧ name = stem' ++ toString n := by
  rw [mints.values, mints'.values]
  constructor
  · rintro ⟨⟨m, low, high, rfl⟩, n, low', high', same⟩
    have less : m < n := by omega
    obtain ⟨d, longer, digits⟩ := (Skolem.shared_name_iff less).1 same
    exact ⟨m, n, d, low, high, low', high', longer, digits, same⟩
  · rintro ⟨m, n, d, low, high, low', high', rfl, digits, rfl⟩
    refine ⟨⟨m, low, high, ?_⟩, n, low', high', rfl⟩
    rw [String.append_assoc, digits]

end

namespace Workspace

theorem nextName_applyWithin (steps : Nat) (place : At) (e : Edit) :
    (applyWithin steps place e).1.1.nextName = place.1.nextName := by
  induction steps generalizing place with
  | zero => rfl
  | succ steps ih =>
    obtain ⟨w, id⟩ := place
    rw [applyWithin]
    split
    · rfl
    · split
      split
      · rfl
      · split <;> rfl
    · rename_i name base current entry
      have passed : (atOnce (fun place => applyWithin steps place e) (w, current)).1.1.nextName =
          w.nextName := by
        rw [atOnce]
        split
        · split
          · rfl
          · exact ih _
        · exact ih _
      exact passed

theorem nextName_run (place : At) (edits : List Edit) :
    (Edit.run apply place edits).1.1.nextName = place.1.nextName := by
  induction edits generalizing place with
  | nil => rfl
  | cons e rest ih =>
    have first : (apply place e).1.1.nextName = place.1.nextName := nextName_applyWithin _ place e
    rw [Edit.run]
    split
    · rename_i next applied
      rw [applied] at first
      exact (ih next).trans first
    · rename_i next fault applied
      rw [applied] at first
      exact first

theorem nextName_le_skolemize (place : At) (stem : String) :
    place.1.nextName ≤ (skolemize place stem).1.1.nextName := by
  obtain ⟨w, id⟩ := place
  simp only [skolemize]
  split
  · exact Nat.le_refl _
  · rename_i d next found
    rw [replay, nextName_run]
    obtain ⟨g, -, found⟩ := exists_of_bind_ok found
    obtain ⟨name, -, found⟩ := exists_of_bind_ok found
    obtain ⟨under, -, found⟩ := exists_of_bind_ok found
    obtain ⟨quads, -, changed⟩ := exists_of_bind_ok found
    exact Skolem.next_le_changes changed

end Workspace

structure Turn where
  entries : List Entry
  id : Nat
  stem : String

namespace Turn

open Workspace Skolem

def within (t : Turn) (next : Nat) : Workspace := { entries := t.entries, nextName := next }

def run (t : Turn) (next : Nat) : At × Except Error Unit := skolemize (t.within next, t.id) t.stem

def counterFrom (next : Nat) (turns : List Turn) : Nat :=
  turns.foldl (fun next t => (t.run next).1.1.nextName) next

structure On (t : Turn) (name : Term) (held : List Quad) : Prop where
  named : name.isGraphName = true
  under : AtHome name held
  keeps : ∃ g home accepts, (t.within 0).graph t.id = .ok g ∧ g.Keeps home accepts held ∧ g.HasRoom ∧
    g.name? = some name ∧ AtHome home held

/-- A call goes well: the labels of the quads get names from the next numbers, and the quads that come of it
are those with the names in them. -/
structure Gives (t : Turn) (start : Nat) (name : Term) (held : List Quad) (names : Names) (count : Nat)
    (kept : List Quad) : Prop where
  done : ∃ place h, t.run start = (place, .ok ()) ∧ place.1.nextName = start + count ∧
    place.1.graph place.2 = .ok h ∧ (h.HasRoom → h.quads = .ok kept)
  mints : Mints names held (stemUnder name t.stem) start count
  renamed : ∀ q, q ∈ kept ↔ ∃ r ∈ held, r.renamed names = q
  distinct : kept.Nodup

variable {t : Turn} {name : Term} {held : List Quad}

theorem le_counterFrom (next : Nat) (turns : List Turn) : next ≤ counterFrom next turns := by
  induction turns generalizing next with
  | nil => exact Nat.le_refl _
  | cons t rest ih =>
    have first : next ≤ (t.run next).1.1.nextName := nextName_le_skolemize (t.within next, t.id) t.stem
    exact Nat.le_trans first (ih _)

theorem On.gives (on : t.On name held) (start : Nat) :
    held.Nodup ∧ ∃ names count kept, t.Gives start name held names count kept := by
  obtain ⟨named, under, g, home, accepts, stored, keeps, room, called, here⟩ := on
  have has : (t.within start).Has t.id g := (has_of_graph_eq stored keeps.plain).of_entries rfl
  obtain ⟨names, count, place, h, kept, done, mints, next, has', keeps', -, renamed, -, -⟩ :=
    has.skolemize keeps room called named under here t.stem
  exact ⟨keeps.nodup, names, count, kept, ⟨place, h, done, next, has'.graph_eq, keeps'.quads⟩, mints, renamed,
    keeps'.nodup⟩

theorem Gives.counter {start count : Nat} {names : Names} {kept : List Quad}
    (gives : t.Gives start name held names count kept) : (t.run start).1.1.nextName = start + count := by
  obtain ⟨place, h, done, next, -⟩ := gives.done
  rw [done]
  exact next

def IsFresh (t : Turn) (start : Nat) (name : Term) (held : List Quad) (count : Nat) : Prop :=
  ∀ n, start ≤ n → n < start + count → ¬ IsNode held (.iri (stemUnder name t.stem ++ toString n))

def KeepsApart (names : Names) (held : List Quad) : Prop :=
  ∀ t u, IsNode held t → IsNode held u → t.renamed names = u.renamed names → t = u

theorem Gives.apart {start count : Nat} {names : Names} {kept : List Quad}
    (gives : t.Gives start name held names count kept) (each : held.Nodup) :
    (t.IsFresh start name held count ↔ KeepsApart names held) ∧
      (KeepsApart names held → kept.length = held.length) := by
  have fresh := gives.mints.apart_iff
  exact ⟨fresh, fun apart => gives.mints.length_eq (fresh.2 apart) each gives.distinct gives.renamed⟩

/-- Calls on any graphs, from a counter that stands at zero. The nodes of a graph stay apart exactly when no
name that the call on it gives is a node already, and then no quad is lost. A later call shares a name with it
exactly when its stem is the earlier one without digits at the end that begin a later number; with one stem
they share none. -/
theorem fresh_iff {past : List Turn} {a : Turn} {name : Term} {held : List Quad} {i : Nat}
    (before_a : counterFrom 0 past = i) (a_on : a.On name held) :
    ∃ names count kept, a.Gives i name held names count kept ∧
      (a.IsFresh i name held count ↔ KeepsApart names held) ∧
      (KeepsApart names held → kept.length = held.length) ∧
      ∀ (between : List Turn) (b : Turn) (other : Term) (stored : List Quad) (j : Nat),
        counterFrom 0 (past ++ a :: between) = j → b.On other stored →
        ∃ more number left, b.Gives j other stored more number left ∧
          (b.IsFresh j other stored number ↔ KeepsApart more stored) ∧
          (KeepsApart more stored → left.length = stored.length) ∧
          (∀ iri, ((∃ label, names label = some iri) ∧ ∃ label, more label = some iri) ↔
            ∃ m n d, i ≤ m ∧ m < i + count ∧ j ≤ n ∧ n < j + number ∧
              stemUnder name a.stem = stemUnder other b.stem ++ d ∧ d ++ toString m = toString n ∧
              iri = stemUnder other b.stem ++ toString n) ∧
          (stemUnder name a.stem = stemUnder other b.stem →
            ∀ iri, ¬ ((∃ label, names label = some iri) ∧ ∃ label, more label = some iri)) := by
  obtain ⟨each, names, count, kept, a_gives⟩ := a_on.gives i
  obtain ⟨fresh, whole⟩ := a_gives.apart each
  refine ⟨names, count, kept, a_gives, fresh, whole, ?_⟩
  intro between b other stored j before_b b_on
  obtain ⟨each', more, number, left, b_gives⟩ := b_on.gives j
  obtain ⟨fresh', whole'⟩ := b_gives.apart each'
  -- The later call begins behind the numbers of the earlier one, whatever was called in between.
  have later : i + count ≤ j := by
    have passed : counterFrom 0 (past ++ a :: between) =
        counterFrom (a.run (counterFrom 0 past)).1.1.nextName between := by
      rw [counterFrom, List.foldl_append]
      rfl
    rw [← before_b, passed, before_a, a_gives.counter]
    exact le_counterFrom _ between
  have shared := a_gives.mints.shared_iff b_gives.mints later
  refine ⟨more, number, left, b_gives, fresh', whole', shared, ?_⟩
  intro same iri both
  obtain ⟨m, n, d, low, high, low', high', longer, digits, -⟩ := (shared iri).1 both
  have numbers : stemUnder other b.stem ++ toString m = stemUnder other b.stem ++ toString n := by
    have behind := congrArg (· ++ toString m) longer
    simp only [same, String.append_assoc, digits] at behind
    exact behind
  have equal := name_inj numbers
  omega

def onSet (quads : List Quad) (stem : String) : Turn :=
  { entries := [.graph (.set (.built .defaultGraph [quads]))], id := 0, stem }

theorem on_onSet {quads : List Quad} (proper : ∀ q ∈ quads, q.isProper = true) (stem : String) :
    (onSet quads stem).On .defaultGraph (SetGraph.built .defaultGraph [quads]).quads := by
  have named : Term.defaultGraph.isGraphName = true := rfl
  have all_proper : ∀ batch ∈ [quads], ∀ q ∈ batch, q.isProper = true := by simpa using proper
  have settled := SetGraph.settled_built named all_proper
  have keeps := Graph.keeps_built named all_proper
  exact ⟨named, settled.home, _, _, _, rfl, keeps, trivial, congrArg some settled.here, settled.home⟩

def oneBlank : List Quad := [⟨.blank "b", .iri "p", .iri "o", .defaultGraph⟩]

def blankAndName : List Quad := ⟨.iri "urn:1", .iri "p", .iri "o", .defaultGraph⟩ :: oneBlank

theorem merged_with_name : ∃ names kept more left,
    (onSet oneBlank "urn:").Gives 0 .defaultGraph oneBlank names 1 kept ∧
    (onSet blankAndName "urn:").Gives 1 .defaultGraph blankAndName more 1 left ∧
    (∀ iri, ¬ ((∃ label, names label = some iri) ∧ ∃ label, more label = some iri)) ∧
    ∀ q, q ∈ left ↔ q = ⟨.iri "urn:1", .iri "p", .iri "o", .defaultGraph⟩ := by
  have first : counterFrom 0 [] = 0 := rfl
  have second : counterFrom 0 ([] ++ onSet oneBlank "urn:" :: []) = 1 := by decide +kernel
  have third : counterFrom 1 [onSet blankAndName "urn:"] = 2 := by decide +kernel
  have a_proper : ∀ q ∈ oneBlank, q.isProper = true := by decide
  have b_proper : ∀ q ∈ blankAndName, q.isProper = true := by decide
  have a_on := on_onSet a_proper "urn:"
  have b_on := on_onSet b_proper "urn:"
  have a_quads : (SetGraph.built .defaultGraph [oneBlank]).quads = oneBlank := by decide
  have b_quads : (SetGraph.built .defaultGraph [blankAndName]).quads = blankAndName := by decide
  rw [a_quads] at a_on
  rw [b_quads] at b_on
  obtain ⟨names, count, kept, a_gives, -, -, onward⟩ := fresh_iff first a_on
  obtain ⟨more, number, left, b_gives, -, -, -, apart⟩ := onward [] _ _ _ _ second b_on
  have one : count = 1 := by
    have counted : 0 + count = 1 := a_gives.counter.symm.trans second
    omega
  have another : number = 1 := by
    have counted : 1 + number = 2 := b_gives.counter.symm.trans third
    omega
  subst one another
  have named : more "b" = some "urn:1" := by
    obtain ⟨label, given⟩ := (b_gives.mints.values "urn:1").2 ⟨1, by decide, by decide, rfl⟩
    obtain ⟨q, member, marks⟩ := (b_gives.mints.labels label).1 ⟨_, given⟩
    simp only [blankAndName, oneBlank, List.mem_cons, List.not_mem_nil, or_false] at member
    rcases member with rfl | rfl
    · simp [Quad.Marks] at marks
    · obtain rfl : "b" = label := by simpa [Quad.Marks] using marks
      exact given
  refine ⟨names, kept, more, left, a_gives, b_gives, apart rfl, ?_⟩
  intro q
  rw [b_gives.renamed]
  simp [blankAndName, oneBlank, Quad.renamed, Term.renamed, named, eq_comm]

end Turn

end QuadPull
