import QuadPull.Graph.Skolem
import QuadPull.Proofs.Writing

namespace QuadPull

abbrev Names := String → Option String

/-- A blank node whose label has a name becomes that name; nothing inside a quoted quad does. -/
def Term.renamed (names : Names) : Term → Term
  | .blank label => (names label).elim (.blank label) .iri
  | t => t

def Quad.renamed (names : Names) (q : Quad) : Quad :=
  { q with subject := q.subject.renamed names, object := q.object.renamed names }

def Quad.Marks (q : Quad) (label : String) : Prop := q.subject = .blank label ∨ q.object = .blank label

/-- Labels that stand in quads have names of their own: a stem and some numbers in a row. -/
structure Mints (names : Names) (quads : List Quad) (stem : String) (start count : Nat) : Prop where
  labels : ∀ label, (∃ name, names label = some name) ↔ ∃ q ∈ quads, q.Marks label
  injective : ∀ a b name, names a = some name → names b = some name → a = b
  values : ∀ name, (∃ label, names label = some name) ↔
    ∃ n, start ≤ n ∧ n < start + count ∧ name = stem ++ toString n

variable {names more : Names} {t : Term} {q : Quad}

theorem Term.renamed_of_not_isBlank (names : Names) (settled : t.isBlank = false) : t.renamed names = t := by
  cases t with
  | blank label => cases settled
  | _ => rfl

theorem Term.blank_of_isBlank (proper : t.isProper = true) (blank : t.isBlank = true) :
    ∃ label, t = .blank label := by
  cases t with
  | blank label => exact ⟨label, rfl⟩
  | loose l => cases proper
  | _ => cases blank

theorem Term.isProper_renamed (names : Names) (proper : t.isProper = true) :
    (t.renamed names).isProper = true := by
  cases t with
  | blank label => cases given : names label <;> simp [renamed, given, isProper]
  | _ => exact proper

theorem Term.isVar_renamed (names : Names) (t : Term) : (t.renamed names).isVar = t.isVar := by
  cases t with
  | blank label => cases given : names label <;> simp [renamed, given, isVar]
  | _ => rfl

theorem Quad.isProper_renamed (names : Names) (proper : q.isProper = true) :
    (q.renamed names).isProper = true := by
  rw [isProper_iff] at proper ⊢
  exact ⟨Term.isProper_renamed names proper.1, proper.2.1, Term.isProper_renamed names proper.2.2.1,
    proper.2.2.2⟩

theorem Quad.isStorable_renamed (names : Names) (storable : q.isStorable = true) :
    (q.renamed names).isStorable = true := by
  simp only [isStorable, Bool.and_eq_true] at storable ⊢
  refine ⟨isProper_renamed names storable.1, ?_⟩
  simpa [terms, renamed, Term.isVar_renamed] using storable.2

theorem Quad.homed_renamed (home : Term) (names : Names) (q : Quad) :
    (q.renamed names).homed home = (q.homed home).renamed names := by
  by_cases loose : q.graph = .defaultGraph <;> simp [homed, renamed, loose]

theorem Term.renamed_of_more (kept : ∀ label name, names label = some name → more label = some name)
    (known : ∀ label, t = .blank label → ∃ name, names label = some name) :
    t.renamed more = t.renamed names := by
  cases t with
  | blank label =>
    obtain ⟨name, given⟩ := known label rfl
    simp only [renamed, given, kept label name given]
  | _ => rfl

theorem Quad.renamed_of_more (kept : ∀ label name, names label = some name → more label = some name)
    (known : ∀ label, q.Marks label → ∃ name, names label = some name) :
    q.renamed more = q.renamed names := by
  have subject := Term.renamed_of_more kept fun label blank => known label (.inl blank)
  have object := Term.renamed_of_more kept fun label blank => known label (.inr blank)
  rw [renamed, subject, object, renamed]

theorem Term.isBlank_renamed (proper : t.isProper = true)
    (known : ∀ label, t = .blank label → ∃ name, names label = some name) :
    (t.renamed names).isBlank = false := by
  cases t with
  | blank label =>
    obtain ⟨name, given⟩ := known label rfl
    rw [renamed, given]
    rfl
  | loose l => cases proper
  | _ => rfl

namespace Skolem

theorem isRenamed_iff (proper : q.isProper = true) : isRenamed q = true ↔ ∃ label, q.Marks label := by
  obtain ⟨subject, -, object, -⟩ := Quad.isProper_iff.1 proper
  rw [isRenamed, Bool.or_eq_true]
  constructor
  · rintro (blank | blank)
    · obtain ⟨label, same⟩ := Term.blank_of_isBlank subject blank
      exact ⟨label, .inl same⟩
    · obtain ⟨label, same⟩ := Term.blank_of_isBlank object blank
      exact ⟨label, .inr same⟩
  · rintro ⟨label, same | same⟩
    · exact .inl (by rw [same]; rfl)
    · exact .inr (by rw [same]; rfl)

theorem isRenamed_renamed (proper : q.isProper = true)
    (known : ∀ label, q.Marks label → ∃ name, names label = some name) :
    isRenamed (q.renamed names) = false := by
  obtain ⟨subject, -, object, -⟩ := Quad.isProper_iff.1 proper
  have first := Term.isBlank_renamed subject fun label blank => known label (.inl blank)
  have last := Term.isBlank_renamed object fun label blank => known label (.inr blank)
  rw [isRenamed, Quad.renamed, first, last]
  rfl

theorem renamed_of_not_isRenamed (names : Names) (settled : isRenamed q = false) : q.renamed names = q := by
  rw [isRenamed, Bool.or_eq_false_iff] at settled
  rw [Quad.renamed, Term.renamed_of_not_isBlank names settled.1, Term.renamed_of_not_isBlank names settled.2]

inductive Issued (stem : String) (start : Nat) : List (Term × String) → Prop where
  | nil : Issued stem start []
  | cons {known : List (Term × String)} {label : String} (issued : Issued stem start known)
      (fresh : ∀ pair ∈ known, pair.1 ≠ .blank label) :
      Issued stem start ((.blank label, stem ++ toString (start + known.length)) :: known)

def given (known : List (Term × String)) : Names :=
  fun label => (known.find? fun pair => pair.1.same (.blank label)).map (·.2)

variable {stem : String} {start : Nat} {known : List (Term × String)} {label name : String}

theorem same_blank (a b : String) : (Term.blank a).same (.blank b) = decide (a = b) := by
  simp [Term.same, Term.settled]

theorem given_cons (a : String) (name : String) (known : List (Term × String)) (b : String) :
    given ((.blank a, name) :: known) b = if a = b then some name else given known b := by
  by_cases same : a = b <;> simp [given, same_blank, same]

theorem mem_of_given (issued : Issued stem start known) (found : given known label = some name) :
    (Term.blank label, name) ∈ known := by
  induction issued with
  | nil => cases found
  | @cons known last issued fresh ih =>
    rw [given_cons] at found
    split at found
    · rename_i same
      cases found
      rw [same]
      exact List.mem_cons_self
    · exact List.mem_cons_of_mem _ (ih found)

theorem given_values (issued : Issued stem start known) :
    (∃ label, given known label = some name) ↔
      ∃ n, start ≤ n ∧ n < start + known.length ∧ name = stem ++ toString n := by
  induction issued with
  | nil =>
    constructor
    · rintro ⟨label, found⟩
      cases found
    · rintro ⟨n, low, high, -⟩
      simp only [List.length_nil] at high
      omega
  | @cons known last issued fresh ih =>
    have unnamed : given known last = none := by
      cases found : given known last with
      | none => rfl
      | some name => exact absurd rfl (fresh _ (mem_of_given issued found))
    constructor
    · rintro ⟨label, found⟩
      rw [given_cons] at found
      split at found
      · cases found
        exact ⟨start + known.length, by omega, by simp, rfl⟩
      · obtain ⟨n, low, high, same⟩ := ih.1 ⟨label, found⟩
        exact ⟨n, low, by simp only [List.length_cons]; omega, same⟩
    · rintro ⟨n, low, high, rfl⟩
      rw [List.length_cons] at high
      by_cases newest : n = start + known.length
      · subst newest
        exact ⟨last, by rw [given_cons, if_pos rfl]⟩
      · obtain ⟨label, found⟩ := ih.2 ⟨n, low, by omega, rfl⟩
        refine ⟨label, ?_⟩
        rw [given_cons, if_neg, found]
        rintro rfl
        rw [unnamed] at found
        cases found

theorem name_inj {m n : Nat} (same : stem ++ toString m = stem ++ toString n) : m = n := by
  have digits : Nat.toDigits 10 m = Nat.toDigits 10 n := by
    have numerals := (String.append_right_inj stem).1 same
    rwa [Nat.toString_eq_ofList_toDigits, Nat.toString_eq_ofList_toDigits, String.ofList_inj] at numerals
  calc m = Nat.ofDigitChars 10 (Nat.toDigits 10 m) 0 := Nat.ofDigitChars_ten_toDigits.symm
    _ = Nat.ofDigitChars 10 (Nat.toDigits 10 n) 0 := by rw [digits]
    _ = n := Nat.ofDigitChars_ten_toDigits

theorem given_injective (issued : Issued stem start known) {a b : String}
    (first : given known a = some name) (second : given known b = some name) : a = b := by
  induction issued with
  | nil => cases first
  | @cons known last issued fresh ih =>
    have old : ∀ label, given known label ≠ some (stem ++ toString (start + known.length)) := by
      intro label found
      obtain ⟨n, -, high, same⟩ := (given_values issued).1 ⟨label, found⟩
      have number := name_inj same
      omega
    rw [given_cons] at first second
    split at first <;> split at second
    · rename_i here there
      exact here.symm.trans there
    · cases first
      exact absurd second (old b)
    · cases second
      exact absurd first (old a)
    · exact ih first second

namespace Naming

/-- A naming that has issued what names it has, and goes on with the next number. -/
structure Sound (n : Naming) (stem : String) (start : Nat) : Prop where
  under : n.stem = stem
  next : n.next = start + n.names.length
  issued : Issued stem start n.names

structure Grows (n : Naming) (labels : String → Prop) (after : Naming) : Prop where
  kept : ∀ label name, given n.names label = some name → given after.names label = some name
  labels : ∀ label, (∃ name, given after.names label = some name) ↔
    (∃ name, given n.names label = some name) ∨ labels label

variable {n : Naming}

theorem nameOf_blank (sound : n.Sound stem start) (label : String) :
    ∃ name after, n.nameOf (.blank label) = (name, after) ∧ after.Sound stem start ∧
      given after.names label = some name ∧ n.Grows (· = label) after := by
  unfold nameOf
  cases found : n.names.find? fun pair => pair.1.same (.blank label) with
  | some pair =>
    have here : given n.names label = some pair.2 := by rw [given, found]; rfl
    refine ⟨pair.2, n, rfl, sound, here, fun _ _ same => same, ?_⟩
    intro other
    constructor
    · exact .inl
    · rintro (old | rfl)
      · exact old
      · exact ⟨_, here⟩
  | none =>
    have unnamed : given n.names label = none := by rw [given, found]; rfl
    have fresh : ∀ pair ∈ n.names, pair.1 ≠ .blank label := by
      intro pair member same
      have differs := List.find?_eq_none.1 found pair member
      rw [same, same_blank] at differs
      simp at differs
    refine ⟨_, _, rfl, ⟨sound.under, ?_, ?_⟩, ?_, ?_, ?_⟩
    · show n.next + 1 = start + (n.names.length + 1)
      rw [sound.next]
      omega
    · rw [sound.under, sound.next]
      exact .cons sound.issued fresh
    · rw [given_cons, if_pos rfl]
    · intro other name old
      rw [given_cons, if_neg, old]
      rintro rfl
      rw [unnamed] at old
      cases old
    · intro other
      rw [given_cons]
      by_cases here : label = other
      · simp [here]
      · rw [if_neg here]
        simp [Ne.symm here]

theorem rename_spec (sound : n.Sound stem start) {t : Term} (proper : t.isProper = true) :
    ∃ after, n.rename t = (t.renamed (given after.names), after) ∧ after.Sound stem start ∧
      n.Grows (fun label => t = .blank label) after := by
  by_cases blank : t.isBlank = true
  · obtain ⟨label, rfl⟩ := Term.blank_of_isBlank proper blank
    obtain ⟨name, after, named, sound', here, grows⟩ := nameOf_blank sound label
    refine ⟨after, ?_, sound', grows.kept, ?_⟩
    · rw [rename, if_pos blank, named, Term.renamed, here]
      rfl
    · intro other
      rw [grows.labels]
      simp [eq_comm]
  · have settled : t.isBlank = false := by simpa using blank
    refine ⟨n, ?_, sound, fun _ _ same => same, ?_⟩
    · rw [rename, if_neg blank, Term.renamed_of_not_isBlank _ settled]
    · intro other
      constructor
      · exact .inl
      · rintro (old | rfl)
        · exact old
        · exact absurd rfl blank

theorem renameQuad_spec (sound : n.Sound stem start) (proper : q.isProper = true) :
    ∃ after, n.renameQuad q = (q.renamed (given after.names), after) ∧ after.Sound stem start ∧
      n.Grows q.Marks after := by
  obtain ⟨subject, -, object, -⟩ := Quad.isProper_iff.1 proper
  obtain ⟨between, first, sound', grows⟩ := rename_spec sound subject
  obtain ⟨after, last, sound'', grows'⟩ := rename_spec sound' object
  refine ⟨after, ?_, sound'', ?_, ?_⟩
  · have same : q.subject.renamed (given after.names) = q.subject.renamed (given between.names) :=
      Term.renamed_of_more grows'.kept fun label blank => (grows.labels label).2 (.inr blank)
    rw [renameQuad, first]
    simp only [last, Quad.renamed, same]
  · intro label name old
    exact grows'.kept label name (grows.kept label name old)
  · intro label
    rw [grows'.labels, grows.labels, or_assoc]
    exact Iff.rfl

end Naming

end Skolem

end QuadPull
