import QuadPull.Proofs.Matching
import QuadPull.Proofs.Typing
import QuadPull.Settings.Source

namespace QuadPull

inductive Value.IsSetting : Value → Prop
  | absent : IsSetting .absent
  | bool (b : Bool) : IsSetting (.bool b)
  | int (n : Int) : IsSetting (.int n)
  | double (d : Number.Double) (object : Option Nat) : IsSetting (.double d object)
  | text (s : String) : IsSetting (.text s)
  | list {items : List Value} (each : ∀ v ∈ items, IsSetting v) : IsSetting (.list items)
  | record {fields : List (Value × Value)} (keys : ∀ f ∈ fields, IsSetting f.1)
      (each : ∀ f ∈ fields, IsSetting f.2) : IsSetting (.record fields)

namespace Value

variable {v : Value}

theorem IsSetting.isData (setting : v.IsSetting) : v.IsData := by
  induction setting with
  | absent => exact .absent
  | bool b => exact .bool b
  | int n => exact .int n
  | double d object => exact .double d object
  | text s => exact .text s
  | list each ih => exact .list ih
  | record keys each keys_ih each_ih => exact .record keys_ih each_ih

theorem isShort_of_inspectInt {n : Int} {shown : String} (inspected : inspectInt n = .ok shown) :
    isShort n = true := by
  unfold inspectInt at inspected
  split at inspected
  · rename_i s written
    unfold Number.toText? at written
    split at written
    · rename_i short
      exact isShort_iff.2 short
    · cases written
  · cases inspected

theorem areWritable_of_shown {items : List Value} {shown : List String}
    (each : ∀ v ∈ items, ∀ s, v.inspect = .ok s → v.isWritable = true)
    (inspected : inspectAll items = .ok shown) : areWritable items = true := by
  induction items generalizing shown with
  | nil => rfl
  | cons v rest ih =>
    obtain ⟨head, tail⟩ := List.forall_mem_cons.1 each
    rw [inspectAll] at inspected
    obtain ⟨first, first_shown, inspected⟩ := exists_of_bind_ok inspected
    obtain ⟨others, others_shown, -⟩ := exists_of_bind_ok inspected
    rw [areWritable, head first first_shown, ih tail others_shown, Bool.and_self]

theorem areFieldsWritable_of_shown {fields : List (Value × Value)} {shown : List String}
    (keys : ∀ f ∈ fields, ∀ s, f.1.inspect = .ok s → f.1.isWritable = true)
    (each : ∀ f ∈ fields, ∀ s, f.2.inspect = .ok s → f.2.isWritable = true)
    (inspected : inspectFields fields = .ok shown) : areFieldsWritable fields = true := by
  induction fields generalizing shown with
  | nil => rfl
  | cons f rest ih =>
    obtain ⟨key, others⟩ := List.forall_mem_cons.1 keys
    obtain ⟨head, tail⟩ := List.forall_mem_cons.1 each
    rw [inspectFields] at inspected
    obtain ⟨name, key_shown, inspected⟩ := exists_of_bind_ok inspected
    obtain ⟨first, first_shown, inspected⟩ := exists_of_bind_ok inspected
    obtain ⟨names, others_shown, -⟩ := exists_of_bind_ok inspected
    rw [areFieldsWritable, key name key_shown, head first first_shown, ih others tail others_shown]
    rfl

theorem IsData.isWritable_of_shown (data : v.IsData) :
    ∀ shown, v.inspect = .ok shown → v.isWritable = true := by
  induction data with
  | int n =>
    intro shown inspected
    rw [Value.inspect] at inspected
    rw [isWritable]
    exact isShort_of_inspectInt inspected
  | list each ih | tuple each ih =>
    intro shown inspected
    rw [Value.inspect] at inspected
    obtain ⟨names, all_shown, -⟩ := exists_of_bind_ok inspected
    rw [isWritable]
    exact areWritable_of_shown ih all_shown
  | record keys each keys_ih each_ih =>
    intro shown inspected
    rw [Value.inspect] at inspected
    obtain ⟨names, all_shown, -⟩ := exists_of_bind_ok inspected
    rw [isWritable]
    exact areFieldsWritable_of_shown keys_ih each_ih all_shown
  | _ =>
    intro _ _
    rfl

theorem IsData.inspect_of_long (data : v.IsData) (long : v.isWritable = false) :
    v.inspect = .error .numberTooLong := by
  cases inspected : v.inspect with
  | ok shown => exact absurd (data.isWritable_of_shown shown inspected) (ne_true_of_eq_false long)
  | error e => rw [data.inspect e inspected]

def IsRefusal (e : Error) : Prop := e = .badValue ∨ e = .wrongKind

theorem orBad_cases {α : Type} (r : Option α) : (∃ a, orBad r = .ok a) ∨ orBad r = .error .badValue := by
  cases r with
  | none => exact .inr rfl
  | some a => exact .inl ⟨a, rfl⟩

theorem not_isRefusal_overflow : ¬ IsRefusal .overflow := by
  rintro (same | same) <;> cases same

theorem IsSetting.toInt_cases (setting : v.IsSetting) :
    (∃ n, v.toInt = .ok n) ∨ (∃ e, v.toInt = .error e ∧ IsRefusal e ∧ ∀ n, v ≠ .int n) ∨
      ∃ negative object, v = .double (.infinity negative) object ∧ v.toInt = .error .overflow := by
  cases setting with
  | absent | list | record => exact .inr (.inl ⟨_, rfl, .inr rfl, nofun⟩)
  | bool b => exact .inl ⟨_, rfl⟩
  | int n => exact .inl ⟨_, rfl⟩
  | double d object =>
    cases d with
    | nan => exact .inr (.inl ⟨_, rfl, .inl rfl, nofun⟩)
    | infinity negative => exact .inr (.inr ⟨negative, object, rfl, rfl⟩)
    | finite => exact .inl ⟨_, rfl⟩
  | text s =>
    rcases orBad_cases (Number.ofText? s) with read | refused
    · exact .inl read
    · exact .inr (.inl ⟨_, refused, .inl rfl, nofun⟩)

theorem IsSetting.toDouble_cases (setting : v.IsSetting) :
    (∃ d, v.toDouble = .ok d) ∨ (∃ e, v.toDouble = .error e ∧ IsRefusal e ∧ ∀ n, v ≠ .int n) ∨
      ∃ n, v = .int n ∧ Number.Double.ofInt? n = none ∧ v.toDouble = .error .overflow := by
  cases setting with
  | absent | list | record => exact .inr (.inl ⟨_, rfl, .inr rfl, nofun⟩)
  | bool b => exact .inl ⟨_, rfl⟩
  | int n =>
    cases read : Number.Double.ofInt? n with
    | none => exact .inr (.inr ⟨n, rfl, read, by rw [toDouble, read]; rfl⟩)
    | some d => exact .inl ⟨d, by rw [toDouble, read]; rfl⟩
  | double d => exact .inl ⟨d, rfl⟩
  | text s =>
    rcases orBad_cases (Number.Double.ofText? s) with read | refused
    · exact .inl read
    · exact .inr (.inl ⟨_, refused, .inl rfl, nofun⟩)

/-- Lists and records are the settings, apart from integers, that can be too long to be shown, and no numbers. -/
theorem IsSetting.refused_of_long (setting : v.IsSetting) (long : v.isWritable = false)
    (other : ∀ n, v ≠ .int n) : v.toInt = .error .wrongKind ∧ v.toDouble = .error .wrongKind := by
  cases setting with
  | int n => exact absurd rfl (other n)
  | list | record => exact ⟨rfl, rfl⟩
  | _ => cases long

theorem toPair_error {e : Error} (failed : v.toPair = .error e) : IsRefusal e := by
  revert failed
  fun_cases toPair v
  all_goals
    intro failed
    cases failed
  all_goals first
    | exact .inl rfl
    | exact .inr rfl

theorem toPairs_error {e : Error} (failed : v.toPairs = .error e) : IsRefusal e := by
  have each : ∀ items : List Value, items.mapM toPair = .error e → IsRefusal e := by
    intro items failed
    obtain ⟨item, -, refused⟩ := exists_of_mapM_error failed
    exact toPair_error refused
  unfold toPairs at failed
  split at failed
  · cases failed
  all_goals first
    | exact each _ failed
    | cases failed; exact .inr rfl

end Value

namespace Settings

variable {α : Type} {read : Value → Except Error α} {fault : String → String → SettingsFault} {key : String}
  {v : Value} {e : Error}

theorem lookup_of {p : Value → Prop} {fields : List (String × Value)} (each : ∀ f ∈ fields, p f.2)
    (found : fields.lookup key = some v) : p v := by
  induction fields with
  | nil => cases found
  | cons f rest ih =>
    obtain ⟨head, tail⟩ := List.forall_mem_cons.1 each
    rw [List.lookup_cons] at found
    split at found
    · exact Option.some.inj found ▸ head
    · exact ih tail found

theorem valueOr_of {p : Value → Prop} {fields : List (String × Value)} {default : Value}
    (each : ∀ f ∈ fields, p f.2) (otherwise : p default) : p (valueOr fields key default) := by
  unfold valueOr
  cases found : fields.lookup key with
  | none => exact otherwise
  | some v => exact lookup_of each found

theorem readAs_ok {a : α} (done : read v = .ok a) : readAs read fault key v = .ok a := by
  rw [readAs, done]

theorem readAs_passed (failed : read v = .error e) (kept : ¬ Value.IsRefusal e) :
    readAs read fault key v = .error e := by
  rw [readAs, failed]
  cases e with
  | badValue => exact absurd (.inl rfl) kept
  | wrongKind => exact absurd (.inr rfl) kept
  | _ => rfl

theorem readAs_refused (failed : read v = .error e) (refusal : Value.IsRefusal e) :
    readAs read fault key v = (do
      let shown ← v.inspect
      throw (.settings (fault key shown))) := by
  rw [readAs, failed]
  rcases refusal with rfl | rfl <;> rfl

theorem readAs_of_long (failed : read v = .error e) (refusal : Value.IsRefusal e) (data : v.IsData)
    (long : v.isWritable = false) : readAs read fault key v = .error .numberTooLong := by
  rw [readAs_refused failed refusal, data.inspect_of_long long]
  rfl

theorem readAs_cases (failed : read v = .error e) (refusal : Value.IsRefusal e) (data : v.IsData) :
    (∃ shown, readAs read fault key v = .error (.settings (fault key shown))) ∨
      v.isWritable = false ∧ readAs read fault key v = .error .numberTooLong := by
  cases short : v.isWritable with
  | true =>
    obtain ⟨shown, inspected⟩ := inspect_of_isWritable v short
    exact .inl ⟨shown, by rw [readAs_refused failed refusal, inspected]; rfl⟩
  | false => exact .inr ⟨rfl, readAs_of_long failed refusal data short⟩

end Settings

end QuadPull
