import QuadPull.Value.Inspect

namespace QuadPull

namespace Value

/-- Integers of at most as many digits as can be written. No proof may compute the bound. -/
@[irreducible]
def isShort (n : Int) : Bool := n.natAbs < Number.tenTo Number.maxDigits

mutual

def isWritable : Value → Bool
  | .int n => isShort n
  | .list items | .tuple items => areWritable items
  | .record fields => areFieldsWritable fields
  | .plan specs => areSpecsWritable specs
  | .sequence items _ => areWritable items
  | .handle node => node.given?.isSome
  | _ => true

def areWritable : List Value → Bool
  | [] => true
  | v :: rest => v.isWritable && areWritable rest

def areFieldsWritable : List (Value × Value) → Bool
  | [] => true
  | (key, v) :: rest => key.isWritable && v.isWritable && areFieldsWritable rest

def isSpecWritable : Spec → Bool
  | .constraint _ v | .raw v => v.isWritable
  | .nested _ specs => areSpecsWritable specs
  | _ => true

def areSpecsWritable : List Spec → Bool
  | [] => true
  | spec :: rest => isSpecWritable spec && areSpecsWritable rest

end

end Value

theorem writable_of_mem {items : List Value} (writable : Value.areWritable items = true) :
    ∀ item ∈ items, item.isWritable = true := by
  induction items with
  | nil => simp
  | cons v rest ih =>
    rw [Value.areWritable, Bool.and_eq_true] at writable
    exact List.forall_mem_cons.2 ⟨writable.1, ih writable.2⟩

theorem keys_writable {fields : List (Value × Value)} (writable : Value.areFieldsWritable fields = true) :
    ∀ key ∈ fields.map (·.1), key.isWritable = true := by
  induction fields with
  | nil => simp
  | cons field rest ih =>
    simp only [Value.areFieldsWritable, Bool.and_eq_true] at writable
    exact List.forall_mem_cons.2 ⟨writable.1.1, ih writable.2⟩

theorem inspectInt_of_isShort {n : Int} (short : Value.isShort n = true) :
    inspectInt n = .ok (toString n) := by
  unfold Value.isShort at short
  unfold inspectInt Number.toText?
  generalize Number.tenTo Number.maxDigits = bound at short ⊢
  rw [if_pos (of_decide_eq_true short)]

mutual

theorem inspect_of_isWritable : ∀ (v : Value), v.isWritable = true → ∃ shown, v.inspect = .ok shown
  | .absent, _ | .bool _, _ | .double .., _ | .decimal .., _ | .text _, _ | .bytes _, _ | .moment _, _
  | .date _, _ | .term _, _ | .sequence .., _ => ⟨_, by rw [Value.inspect]⟩
  | .int n, writable => by
    rw [Value.isWritable] at writable
    exact ⟨toString n, by rw [Value.inspect, inspectInt_of_isShort writable]⟩
  | .list items, writable | .tuple items, writable => by
    obtain ⟨shown, inspected⟩ := inspectAll_of_areWritable items (by simpa [Value.isWritable] using writable)
    exact ⟨_, by rw [Value.inspect, inspected]; rfl⟩
  | .record fields, writable => by
    obtain ⟨shown, inspected⟩ := inspectFields_of_areFieldsWritable fields
      (by simpa [Value.isWritable] using writable)
    exact ⟨_, by rw [Value.inspect, inspected]; rfl⟩
  | .plan specs, writable => by
    obtain ⟨shown, inspected⟩ := inspectAll_of_areSpecsWritable specs
      (by simpa [Value.isWritable] using writable)
    exact ⟨_, by rw [Value.inspect, inspected]; rfl⟩
  | .handle node, writable => by
    rw [Value.isWritable] at writable
    have given : ¬ node.given?.isNone = true := by simpa [Option.isSome_iff_ne_none] using writable
    exact ⟨_, by rw [Value.inspect, inspectHandle, if_neg given]⟩

theorem inspectAll_of_areWritable : ∀ (items : List Value), Value.areWritable items = true →
    ∃ shown, Value.inspectAll items = .ok shown
  | [], _ => ⟨[], by rw [Value.inspectAll]⟩
  | v :: rest, writable => by
    rw [Value.areWritable, Bool.and_eq_true] at writable
    obtain ⟨shown, first⟩ := inspect_of_isWritable v writable.1
    obtain ⟨others, later⟩ := inspectAll_of_areWritable rest writable.2
    exact ⟨shown :: others, by rw [Value.inspectAll, first, later]; rfl⟩

theorem inspectFields_of_areFieldsWritable : ∀ (fields : List (Value × Value)),
    Value.areFieldsWritable fields = true → ∃ shown, Value.inspectFields fields = .ok shown
  | [], _ => ⟨[], by rw [Value.inspectFields]⟩
  | (key, v) :: rest, writable => by
    simp only [Value.areFieldsWritable, Bool.and_eq_true] at writable
    obtain ⟨name, named⟩ := inspect_of_isWritable key writable.1.1
    obtain ⟨shown, first⟩ := inspect_of_isWritable v writable.1.2
    obtain ⟨others, later⟩ := inspectFields_of_areFieldsWritable rest writable.2
    exact ⟨(name ++ ": " ++ shown) :: others, by rw [Value.inspectFields, named, first, later]; rfl⟩

theorem inspectSpec_of_isSpecWritable : ∀ (spec : Spec), Value.isSpecWritable spec = true →
    ∃ shown, spec.inspect = .ok shown
  | .property _, _ | .wildcard, _ | .recursive _, _ => ⟨_, by rw [Spec.inspect]⟩
  | .constraint p v, writable => by
    obtain ⟨shown, inspected⟩ := inspect_of_isWritable v (by simpa [Value.isSpecWritable] using writable)
    exact ⟨_, by rw [Spec.inspect, inspected]; rfl⟩
  | .nested p specs, writable => by
    obtain ⟨shown, inspected⟩ := inspectAll_of_areSpecsWritable specs
      (by simpa [Value.isSpecWritable] using writable)
    exact ⟨_, by rw [Spec.inspect, inspected]; rfl⟩
  | .raw v, writable => by
    obtain ⟨shown, inspected⟩ := inspect_of_isWritable v (by simpa [Value.isSpecWritable] using writable)
    exact ⟨shown, by rw [Spec.inspect, inspected]⟩

theorem inspectAll_of_areSpecsWritable : ∀ (specs : List Spec), Value.areSpecsWritable specs = true →
    ∃ shown, Spec.inspectAll specs = .ok shown
  | [], _ => ⟨[], by rw [Spec.inspectAll]⟩
  | spec :: rest, writable => by
    rw [Value.areSpecsWritable, Bool.and_eq_true] at writable
    obtain ⟨shown, first⟩ := inspectSpec_of_isSpecWritable spec writable.1
    obtain ⟨others, later⟩ := inspectAll_of_areSpecsWritable rest writable.2
    exact ⟨shown :: others, by rw [Spec.inspectAll, first, later]; rfl⟩

end

end QuadPull
