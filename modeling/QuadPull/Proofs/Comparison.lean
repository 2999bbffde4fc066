import QuadPull.Value.Equality
import QuadPull.Pull.Plan

namespace QuadPull

mutual

/-- Values without a signaling decimal in any part that a comparison may come to. -/
def Value.isQuiet : Value → Bool
  | .decimal (.nan _ signaling _) _ => !signaling
  | .list vs | .tuple vs => Value.areQuiet vs
  | .record fs => Value.areFieldsQuiet fs
  | .plan specs => Spec.areQuiet specs
  | _ => true

def Value.areQuiet : List Value → Bool
  | [] => true
  | v :: rest => v.isQuiet && Value.areQuiet rest

/-- Keys are looked up, which never fails, so only what stands under them counts. -/
def Value.areFieldsQuiet : List (Value × Value) → Bool
  | [] => true
  | (_, v) :: rest => v.isQuiet && Value.areFieldsQuiet rest

def Spec.isQuiet : Spec → Bool
  | .constraint _ v | .raw v => v.isQuiet
  | .nested _ specs => Spec.areQuiet specs
  | _ => true

def Spec.areQuiet : List Spec → Bool
  | [] => true
  | spec :: rest => spec.isQuiet && Spec.areQuiet rest

end

theorem Value.quiet_of_mem {fs : List (Value × Value)} (quiet : Value.areFieldsQuiet fs = true) :
    ∀ f ∈ fs, f.2.isQuiet = true := by
  induction fs with
  | nil => simp
  | cons f rest ih =>
    rw [Value.areFieldsQuiet, Bool.and_eq_true] at quiet
    exact List.forall_mem_cons.2 ⟨quiet.1, ih quiet.2⟩

theorem Spec.areQuiet_iff {specs : List Spec} :
    Spec.areQuiet specs = true ↔ ∀ spec ∈ specs, spec.isQuiet = true := by
  induction specs with
  | nil => simp [Spec.areQuiet]
  | cons spec rest ih => rw [Spec.areQuiet, Bool.and_eq_true, ih, List.forall_mem_cons]

def FailsUnless (quiet : Prop) (r : Except Error Bool) : Prop :=
  ∀ e, r = .error e → e = .incomparable ∧ ¬ quiet

section

variable {P P' : Prop}

theorem failsUnless_ok (b : Bool) : FailsUnless P (.ok b) := by
  intro e failed
  cases failed

theorem FailsUnless.of_imp {r : Except Error Bool} (fails : FailsUnless P r) (weaker : P' → P) :
    FailsUnless P' r :=
  fun e failed => (fails e failed).imp_right (mt weaker)

theorem failsUnless_andAlso {first : Except Error Bool} {rest : Unit → Except Error Bool}
    (one : FailsUnless P first) (others : FailsUnless P (rest ())) :
    FailsUnless P (andAlso first rest) := by
  unfold andAlso
  split
  · exact others
  · exact one

end

theorem Value.isSignaling_of_isQuiet {v : Value} (quiet : v.isQuiet = true) : v.isSignaling = false := by
  cases v with
  | decimal d =>
    cases d with
    | nan negative signaling digits => simpa [Value.isQuiet, Value.isSignaling] using quiet
    | _ => rfl
  | _ => rfl

theorem failsUnless_sameNumber (v w : Value) :
    FailsUnless (v.isQuiet = true ∧ w.isQuiet = true) (v.sameNumber w) := by
  intro e failed
  unfold Value.sameNumber at failed
  split at failed
  · split at failed
    · rename_i signals
      refine ⟨(Except.error.inj failed).symm, ?_⟩
      intro quiet
      rw [Value.isSignaling_of_isQuiet quiet.1, Value.isSignaling_of_isQuiet quiet.2] at signals
      cases signals
    · cases failed
  · cases failed

mutual

theorem Value.equals_fails (v w : Value) :
    FailsUnless (v.isQuiet = true ∧ w.isQuiet = true) (v.equals w) := by
  unfold Value.equals
  split
  case h_10 =>
    simp only [Value.isQuiet]
    split
    · exact Value.equalInOrder_fails _ _
    · exact failsUnless_ok _
  case h_11 =>
    simp only [Value.isQuiet]
    exact Value.equalInOrder_fails _ _
  case h_12 =>
    simp only [Value.isQuiet]
    split
    · exact Value.equalFields_fails _ _
    · exact failsUnless_ok _
  case h_13 =>
    simp only [Value.isQuiet]
    exact Spec.equalInOrder_fails _ _
  case h_14 =>
    split
    · exact failsUnless_ok _
    · exact failsUnless_sameNumber _ _
  all_goals exact failsUnless_ok _
termination_by sizeOf v

theorem Value.equalInOrder_fails (vs ws : List Value) :
    FailsUnless (Value.areQuiet vs = true ∧ Value.areQuiet ws = true) (Value.equalInOrder vs ws) := by
  unfold Value.equalInOrder
  split
  · exact failsUnless_ok _
  · simp only [Value.areQuiet, Bool.and_eq_true]
    exact failsUnless_andAlso
      ((Value.equals_fails _ _).of_imp fun quiet => ⟨quiet.1.1, quiet.2.1⟩)
      ((Value.equalInOrder_fails _ _).of_imp fun quiet => ⟨quiet.1.2, quiet.2.2⟩)
  · exact failsUnless_ok _
termination_by sizeOf vs

theorem Value.equalFields_fails (fs gs : List (Value × Value)) :
    FailsUnless (Value.areFieldsQuiet fs = true ∧ Value.areFieldsQuiet gs = true)
      (Value.equalFields fs gs) := by
  unfold Value.equalFields
  split
  · exact failsUnless_ok _
  · simp only [Value.areFieldsQuiet, Bool.and_eq_true]
    split
    · rename_i found
      have member := List.mem_of_find?_eq_some found
      exact failsUnless_andAlso
        ((Value.equals_fails _ _).of_imp fun quiet => ⟨quiet.1.1, Value.quiet_of_mem quiet.2 _ member⟩)
        ((Value.equalFields_fails _ _).of_imp fun quiet => ⟨quiet.1.2, quiet.2⟩)
    · exact failsUnless_ok _
termination_by sizeOf fs

theorem Spec.equals_fails (s t : Spec) :
    FailsUnless (s.isQuiet = true ∧ t.isQuiet = true) (s.equals t) := by
  unfold Spec.equals
  split
  case h_3 =>
    simp only [Spec.isQuiet]
    exact failsUnless_andAlso (failsUnless_ok _) (Value.equals_fails _ _)
  case h_4 =>
    simp only [Spec.isQuiet]
    exact failsUnless_andAlso (failsUnless_ok _) (Spec.equalInOrder_fails _ _)
  case h_6 =>
    simp only [Spec.isQuiet]
    exact Value.equals_fails _ _
  all_goals exact failsUnless_ok _
termination_by sizeOf s

theorem Spec.equalInOrder_fails (ss ts : List Spec) :
    FailsUnless (Spec.areQuiet ss = true ∧ Spec.areQuiet ts = true) (Spec.equalInOrder ss ts) := by
  unfold Spec.equalInOrder
  split
  · exact failsUnless_ok _
  · simp only [Spec.areQuiet, Bool.and_eq_true]
    exact failsUnless_andAlso
      ((Spec.equals_fails _ _).of_imp fun quiet => ⟨quiet.1.1, quiet.2.1⟩)
      ((Spec.equalInOrder_fails _ _).of_imp fun quiet => ⟨quiet.1.2, quiet.2.2⟩)
  · exact failsUnless_ok _
termination_by sizeOf ss

end

namespace Plan

/-- A specifier that has no comparison with one before it, and is equal to none that comes earlier. -/
def Clashes (specs : List Spec) : Prop :=
  ∃ before other between spec after, specs = before ++ other :: (between ++ spec :: after) ∧
    (∃ e, other.equals spec = .error e) ∧ ∀ b ∈ before, b.equals spec = .ok false

theorem isAmong_cons (spec other : Spec) (rest : List Spec) : isAmong spec (other :: rest) =
    match other.equals spec with
    | .error e => .error e
    | .ok true => .ok true
    | .ok false => isAmong spec rest := by
  rw [isAmong]
  cases other.equals spec with
  | error e => rfl
  | ok equal => cases equal <;> rfl

theorem isAmong_fails {spec : Spec} {specs : List Spec} {e : Error} (failed : isAmong spec specs = .error e) :
    e = .incomparable := by
  induction specs with
  | nil => cases failed
  | cons other rest ih =>
    rw [isAmong_cons] at failed
    split at failed
    · rename_i f compared
      rw [← Except.error.inj failed]
      exact (Spec.equals_fails other spec f compared).1
    · cases failed
    · exact ih failed

theorem isAmong_error_iff {spec : Spec} {specs : List Spec} :
    (∃ e, isAmong spec specs = .error e) ↔ ∃ before other after, specs = before ++ other :: after ∧
      (∃ e, other.equals spec = .error e) ∧ ∀ b ∈ before, b.equals spec = .ok false := by
  induction specs with
  | nil => simp [isAmong]
  | cons first rest ih =>
    refine ⟨?_, ?_⟩
    · intro held
      obtain ⟨e, failed⟩ := held
      rw [isAmong_cons] at failed
      cases compared : first.equals spec with
      | error f => exact ⟨[], first, rest, rfl, ⟨f, compared⟩, by simp⟩
      | ok equal =>
        cases equal with
        | true => simp [compared] at failed
        | false =>
          obtain ⟨before, other, after, rfl, clash, unequal⟩ := ih.1 ⟨e, by simpa [compared] using failed⟩
          refine ⟨first :: before, other, after, rfl, clash, ?_⟩
          intro b member
          rcases List.mem_cons.1 member with rfl | member
          · exact compared
          · exact unequal b member
    · intro held
      obtain ⟨before, other, after, split, ⟨e, clash⟩, unequal⟩ := held
      cases before with
      | nil =>
        obtain ⟨rfl, rfl⟩ := List.cons.inj split
        exact ⟨e, by rw [isAmong_cons, clash]⟩
      | cons b before =>
        obtain ⟨rfl, rfl⟩ := List.cons.inj split
        obtain ⟨f, failed⟩ := ih.2 ⟨before, other, after, rfl, ⟨e, clash⟩, fun c member =>
          unequal c (List.mem_cons_of_mem _ member)⟩
        exact ⟨f, by rw [isAmong_cons, unequal first List.mem_cons_self, failed]⟩

theorem tellApart_cons (before : List Spec) (spec : Spec) (rest : List Spec) :
    tellApart before (spec :: rest) =
      match isAmong spec before with
      | .error e => .error e
      | .ok _ => tellApart (before ++ [spec]) rest := by
  rw [tellApart]
  cases isAmong spec before <;> rfl

theorem tellApart_cases (before specs : List Spec) :
    (tellApart before specs = .ok () ∧
      ∀ mid spec after, specs = mid ++ spec :: after → ¬ ∃ e, isAmong spec (before ++ mid) = .error e) ∨
    (tellApart before specs = .error .incomparable ∧
      ∃ mid spec after, specs = mid ++ spec :: after ∧ ∃ e, isAmong spec (before ++ mid) = .error e) := by
  -- What comes before grows with each step, so the cases are about the turn of each specifier and not
  -- about pairs of them.
  induction specs generalizing before with
  | nil => exact .inl ⟨rfl, by simp⟩
  | cons first rest ih =>
    rw [tellApart_cons]
    cases compared : isAmong first before with
    | error e =>
      refine .inr ⟨by rw [isAmong_fails compared], [], first, rest, rfl, e, ?_⟩
      rwa [List.append_nil]
    | ok equal =>
      rcases ih (before ++ [first]) with ⟨told, apart⟩ | ⟨failed, mid, spec, after, rfl, e, clash⟩
      · refine .inl ⟨told, ?_⟩
        intro mid spec after split held
        obtain ⟨e, clash⟩ := held
        cases mid with
        | nil =>
          obtain ⟨rfl, rfl⟩ := List.cons.inj split
          rw [List.append_nil, compared] at clash
          cases clash
        | cons m mid =>
          obtain ⟨rfl, rfl⟩ := List.cons.inj split
          exact apart mid spec after rfl ⟨e, by simpa using clash⟩
      · refine .inr ⟨failed, first :: mid, spec, after, rfl, e, ?_⟩
        simpa using clash

theorem tellApart_iff (specs : List Spec) :
    (tellApart [] specs = .ok () ∧ ¬ Clashes specs) ∨
      (tellApart [] specs = .error .incomparable ∧ Clashes specs) := by
  rcases tellApart_cases [] specs with ⟨told, apart⟩ | ⟨failed, mid, spec, after, rfl, clash⟩
  · refine .inl ⟨told, ?_⟩
    intro held
    obtain ⟨before, other, between, spec, after, rfl, clash, unequal⟩ := held
    refine apart (before ++ other :: between) spec after (by simp) ?_
    exact isAmong_error_iff.2 ⟨before, other, between, rfl, clash, unequal⟩
  · refine .inr ⟨failed, ?_⟩
    obtain ⟨before, other, between, rfl, clash, unequal⟩ := isAmong_error_iff.1 clash
    exact ⟨before, other, between, spec, after, by simp, clash, unequal⟩

theorem not_clashes_of_quiet {specs : List Spec} (quiet : ∀ spec ∈ specs, spec.isQuiet = true) :
    ¬ Clashes specs := by
  intro clashes
  obtain ⟨before, other, between, spec, after, rfl, ⟨e, failed⟩, -⟩ := clashes
  exact (Spec.equals_fails other spec e failed).2 ⟨quiet other (by simp), quiet spec (by simp)⟩

end Plan

end QuadPull
