import QuadPull.Proofs.NativeValues
import QuadPull.Proofs.Proper
import QuadPull.Pull.Satisfies

namespace QuadPull

/-- Values that are data all through: native ones, terms, and lists, tuples and records of such values. -/
inductive Value.IsData : Value → Prop
  | absent : IsData .absent
  | bool (b : Bool) : IsData (.bool b)
  | int (n : Int) : IsData (.int n)
  | double (d : Number.Double) (object : Option Nat) : IsData (.double d object)
  | decimal (d : Number.Decimal) (object : Option Nat) : IsData (.decimal d object)
  | text (s : String) : IsData (.text s)
  | bytes (bs : List UInt8) : IsData (.bytes bs)
  | moment (m : Calendar.Moment) : IsData (.moment m)
  | date (d : Calendar.Date) : IsData (.date d)
  | term (t : Term) : IsData (.term t)
  | list {items : List Value} (each : ∀ v ∈ items, IsData v) : IsData (.list items)
  | tuple {items : List Value} (each : ∀ v ∈ items, IsData v) : IsData (.tuple items)
  | record {fields : List (Value × Value)} (keys : ∀ f ∈ fields, IsData f.1)
      (each : ∀ f ∈ fields, IsData f.2) : IsData (.record fields)

def FailsAsTooLong {α : Type} (r : Except Error α) : Prop := ∀ e, r = .error e → e = .numberTooLong

section

variable {α β : Type}

theorem failsAsTooLong_ok (a : α) : FailsAsTooLong (.ok a : Except Error α) := by
  intro e failed
  cases failed

theorem FailsAsTooLong.bind {r : Except Error α} {next : α → Except Error β} (first : FailsAsTooLong r)
    (later : ∀ a, FailsAsTooLong (next a)) : FailsAsTooLong (r >>= next) := by
  cases r with
  | error e =>
    intro e' failed
    cases failed
    exact first e rfl
  | ok a => exact later a

theorem failsAsTooLong_inspectInt (n : Int) : FailsAsTooLong (inspectInt n) := by
  unfold inspectInt
  split
  · exact failsAsTooLong_ok _
  · intro e failed
    cases failed
    rfl

theorem failsAsTooLong_inspectAll {items : List Value} (each : ∀ v ∈ items, FailsAsTooLong v.inspect) :
    FailsAsTooLong (Value.inspectAll items) := by
  induction items with
  | nil =>
    rw [Value.inspectAll]
    exact failsAsTooLong_ok _
  | cons v rest ih =>
    obtain ⟨head, tail⟩ := List.forall_mem_cons.1 each
    rw [Value.inspectAll]
    exact head.bind fun _ => (ih tail).bind fun _ => failsAsTooLong_ok _

theorem failsAsTooLong_inspectFields {fields : List (Value × Value)}
    (keys : ∀ f ∈ fields, FailsAsTooLong f.1.inspect) (each : ∀ f ∈ fields, FailsAsTooLong f.2.inspect) :
    FailsAsTooLong (Value.inspectFields fields) := by
  induction fields with
  | nil =>
    rw [Value.inspectFields]
    exact failsAsTooLong_ok _
  | cons f rest ih =>
    obtain ⟨key, others⟩ := List.forall_mem_cons.1 keys
    obtain ⟨head, tail⟩ := List.forall_mem_cons.1 each
    rw [Value.inspectFields]
    exact key.bind fun _ => head.bind fun _ => (ih others tail).bind fun _ => failsAsTooLong_ok _

end

namespace Value

theorem IsData.inspect {v : Value} (data : v.IsData) : FailsAsTooLong v.inspect := by
  induction data with
  | int n =>
    rw [Value.inspect]
    exact failsAsTooLong_inspectInt n
  | list each ih | tuple each ih =>
    rw [Value.inspect]
    exact (failsAsTooLong_inspectAll ih).bind fun _ => failsAsTooLong_ok _
  | record keys each keys_ih each_ih =>
    rw [Value.inspect]
    exact (failsAsTooLong_inspectFields keys_ih each_ih).bind fun _ => failsAsTooLong_ok _
  | _ =>
    rw [Value.inspect]
    exact failsAsTooLong_ok _

theorem IsData.display {v : Value} (data : v.IsData) : FailsAsTooLong v.display := by
  unfold Value.display
  split
  · exact failsAsTooLong_ok _
  · exact failsAsTooLong_ok _
  · exact failsAsTooLong_ok _
  · exact failsAsTooLong_ok _
  · exact failsAsTooLong_ok _
  · exact data.inspect

theorem IsData.ofValue {v : Value} (data : v.IsData) : FailsAsTooLong (Term.ofValue v) := by
  unfold Term.ofValue
  split
  · exact failsAsTooLong_ok _
  · exact failsAsTooLong_ok _
  · exact (failsAsTooLong_inspectInt _).bind fun _ => failsAsTooLong_ok _
  · split
    · exact (failsAsTooLong_inspectInt _).bind fun _ => failsAsTooLong_ok _
    · exact failsAsTooLong_ok _
  · exact failsAsTooLong_ok _
  · exact failsAsTooLong_ok _
  · exact failsAsTooLong_ok _
  · exact data.display.bind fun _ => failsAsTooLong_ok _

theorem anySequence_eq_false {items : List Value} (each : ∀ v ∈ items, v.holdsSequence = false) :
    anySequence items = false := by
  induction items with
  | nil => rfl
  | cons v rest ih =>
    obtain ⟨head, tail⟩ := List.forall_mem_cons.1 each
    rw [anySequence, head, ih tail, Bool.or_self]

theorem anyFieldSequence_eq_false {fields : List (Value × Value)}
    (keys : ∀ f ∈ fields, f.1.holdsSequence = false) (each : ∀ f ∈ fields, f.2.holdsSequence = false) :
    anyFieldSequence fields = false := by
  induction fields with
  | nil => rfl
  | cons f rest ih =>
    obtain ⟨key, others⟩ := List.forall_mem_cons.1 keys
    obtain ⟨head, tail⟩ := List.forall_mem_cons.1 each
    rw [anyFieldSequence, key, head, ih others tail, Bool.or_self, Bool.or_self]

theorem IsData.holdsSequence {v : Value} (data : v.IsData) : v.holdsSequence = false := by
  induction data with
  | list each ih | tuple each ih => exact anySequence_eq_false ih
  | record keys each keys_ih each_ih => exact anyFieldSequence_eq_false keys_ih each_ih
  | _ => rfl

theorem IsNative.isData {v : Value} (native : v.IsNative) : v.IsData := by
  cases v with
  | bool b => exact .bool b
  | int n => exact .int n
  | text s => exact .text s
  | date d => exact .date d
  | moment m => exact .moment m
  | _ => exact native.elim

theorem IsNative.isProper {v : Value} (native : v.IsNative) {t : Term} (made : Term.ofValue v = .ok t) :
    t.isProper = true := by
  have other : ∀ u, v ≠ .term u := by
    rintro u rfl
    exact native.elim
  obtain ⟨l, rfl⟩ := Term.literal_of_ofValue other made
  rfl

theorem IsNative.injective {v w : Value} (v_native : v.IsNative) (w_native : w.IsNative) {t : Term}
    (v_made : Term.ofValue v = .ok t) (w_made : Term.ofValue w = .ok t) : v = w := by
  obtain ⟨t', made, v_back⟩ := comesBack_of_isNative v_native
  obtain rfl : t = t' := Except.ok.inj (v_made.symm.trans made)
  obtain ⟨t', made, w_back⟩ := comesBack_of_isNative w_native
  obtain rfl : t = t' := Except.ok.inj (w_made.symm.trans made)
  exact Except.ok.inj (v_back.symm.trans w_back)

end Value

namespace Pull

variable {candidate : Term} {v w : Value}

theorem comparison_absent (candidate : Term) : comparison candidate .absent = .ok true := rfl

theorem comparison_of_made (candidate : Term) (silent : v.holdsSequence = false) (given : v ≠ .absent)
    {t : Term}
    (made : Term.ofValue v = .ok t) : comparison candidate v = .ok (candidate.same t) := by
  unfold comparison
  split
  · exact absurd rfl given
  · rw [silent, if_neg Bool.false_ne_true, made]

theorem comparison_of_tooLong (candidate : Term) (silent : v.holdsSequence = false) (given : v ≠ .absent)
    (failed : Term.ofValue v = .error .numberTooLong) : comparison candidate v = .ok false := by
  unfold comparison
  split
  · exact absurd rfl given
  · rw [silent, if_neg Bool.false_ne_true, failed]
    rfl

theorem satisfies_of_comparison {b : Bool} (outcome : comparison candidate v = .ok b) :
    satisfies candidate v = b := by
  rw [satisfies, outcome, holdsTrue]

/-- Comparing with data comes to an outcome: whether the data is nothing, or the candidate its term. -/
theorem comparison_of_isData (candidate : Term) (data : v.IsData) :
    comparison candidate v = .ok (satisfies candidate v) ∧
      (satisfies candidate v = true ↔
        v = .absent ∨ ∃ t, Term.ofValue v = .ok t ∧ candidate.same t = true) := by
  by_cases absent : v = .absent
  · subst absent
    have outcome := comparison_absent candidate
    rw [satisfies_of_comparison outcome]
    exact ⟨outcome, by simp⟩
  · cases made : Term.ofValue v with
    | ok t =>
      have outcome := comparison_of_made candidate data.holdsSequence absent made
      rw [satisfies_of_comparison outcome]
      exact ⟨outcome, by simp [absent]⟩
    | error e =>
      obtain rfl := data.ofValue e made
      have outcome := comparison_of_tooLong candidate data.holdsSequence absent made
      rw [satisfies_of_comparison outcome]
      exact ⟨outcome, by simp [absent]⟩

theorem satisfies_native_iff (v_native : v.IsNative) (w_native : w.IsNative) {t : Term}
    (made : Term.ofValue v = .ok t) : satisfies t w = true ↔ v = w := by
  obtain ⟨u, w_made, -⟩ := Value.comesBack_of_isNative w_native
  have given : w ≠ .absent := by
    rintro rfl
    exact w_native.elim
  rw [(comparison_of_isData t w_native.isData).2]
  constructor
  · rintro (absent | ⟨u, w_made, same⟩)
    · exact absurd absent given
    · obtain rfl := (Term.same_iff (v_native.isProper made)).1 same
      exact v_native.injective w_native made w_made
  · rintro rfl
    exact .inr ⟨t, made, (Term.same_iff (v_native.isProper made)).2 rfl⟩

/-- Comparing an object with data never fails: it holds where nothing is asked for and where the object is
the term of the data, which data with an integer of too many digits has not. The term of a native value
satisfies the values that are of the same kind and the same in every part. -/
theorem comparisons_settle :
    (∀ (candidate : Term) (v : Value), v.IsData →
      comparison candidate v = .ok (satisfies candidate v) ∧
        (satisfies candidate v = true ↔
          v = .absent ∨ ∃ t, Term.ofValue v = .ok t ∧ candidate.same t = true)) ∧
      ∀ v w : Value, v.IsNative → w.IsNative →
        ∃ t, Term.ofValue v = .ok t ∧ (satisfies t w = true ↔ v = w) := by
  refine ⟨fun candidate v data => comparison_of_isData candidate data, fun v w v_native w_native => ?_⟩
  obtain ⟨t, made, -⟩ := Value.comesBack_of_isNative v_native
  exact ⟨t, made, satisfies_native_iff v_native w_native made⟩

def burdened : Value :=
  .record [(.text "k", .list [.bool true, .tuple [.int (.ofNat (Number.tenTo Number.maxDigits))]])]

def firstMidnight : Calendar.Moment := ⟨firstMorning.date, 0, 0, 0, 0, none, by decide, by decide⟩

theorem comparisons_apart :
    comparison (.iri "a") burdened = .ok false ∧
      (∃ t, Term.ofValue (.bool true) = .ok t ∧ satisfies t (.int 1) = false) ∧
      ∃ t, Term.ofValue (.date firstMorning.date) = .ok t ∧ satisfies t (.moment firstMidnight) = false := by
  have data : burdened.IsData := by
    refine .record (fun f member => ?_) (fun f member => ?_) <;> obtain rfl := List.mem_singleton.1 member
    · exact .text _
    · refine .list fun v among => ?_
      obtain rfl | among := List.mem_cons.1 among
      · exact .bool _
      · obtain rfl := List.mem_singleton.1 among
        refine .tuple fun v inside => ?_
        obtain rfl := List.mem_singleton.1 inside
        exact .int _
  obtain ⟨outcome, meaning⟩ := comparisons_settle.1 (.iri "a") burdened data
  have none : satisfies (.iri "a") burdened = false := by
    rw [← Bool.not_eq_true, meaning]
    rintro (absent | ⟨t, made, same⟩)
    · cases absent
    · obtain ⟨l, rfl⟩ := Term.literal_of_ofValue (by intro u; exact Value.noConfusion) made
      cases (Term.same_iff rfl).1 same
  have short : Value.isShort 1 = true := by
    unfold Value.isShort
    decide +kernel
  obtain ⟨yes, yes_made, yes_iff⟩ := comparisons_settle.2 (.bool true) (.int 1) trivial short
  obtain ⟨day, day_made, day_iff⟩ := comparisons_settle.2 (.date firstMorning.date) (.moment firstMidnight)
    trivial (by intro o given; cases given)
  refine ⟨outcome.trans (congrArg Except.ok none), ⟨yes, yes_made, ?_⟩, day, day_made, ?_⟩
  · rw [← Bool.not_eq_true, yes_iff]
    exact Value.noConfusion
  · rw [← Bool.not_eq_true, day_iff]
    exact Value.noConfusion

end Pull

end QuadPull
