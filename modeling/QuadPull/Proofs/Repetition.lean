import QuadPull.Proofs.Comparison

namespace QuadPull

namespace Value

def keysApart : List (Value × Value) → Bool
  | [] => true
  | (key, _) :: rest => (rest.all fun f => !holdsTrue (f.1.equals key)) && keysApart rest

end Value

mutual

/-- Values of which every part that may differ from its like bears the mark of an object. -/
def Value.isMarked : Value → Bool
  | .double .nan object | .decimal (.nan ..) object | .sequence _ object => object.isSome
  | .list vs | .tuple vs => Value.areMarked vs
  | .record fs => Value.areFieldsMarked fs && Value.keysApart fs
  | .plan specs => Spec.areMarked specs
  | _ => true

def Value.areMarked : List Value → Bool
  | [] => true
  | v :: rest => v.isMarked && Value.areMarked rest

def Value.areFieldsMarked : List (Value × Value) → Bool
  | [] => true
  | (key, v) :: rest => key.isMarked && v.isMarked && Value.areFieldsMarked rest

def Spec.isMarked : Spec → Bool
  | .constraint _ v | .raw v => v.isMarked
  | .nested _ specs => Spec.areMarked specs
  | _ => true

def Spec.areMarked : List Spec → Bool
  | [] => true
  | spec :: rest => spec.isMarked && Spec.areMarked rest

end

namespace Value

theorem ofParts_ne_nan (negative : Bool) (n : Nat) (twos fives : Int) :
    Number.Exact.ofParts negative n twos fives ≠ .nan := by
  unfold Number.Exact.ofParts
  split <;> simp

theorem equals_of_number {v : Value} {a : Number.Exact} (number : v.number? = some a) :
    v.equals v = if v.sameObject v then .ok true else v.sameNumber v := by
  cases v with
  | bool | int | double | decimal => rw [Value.equals] <;> simp
  | _ => cases number

theorem sameNumber_self {v : Value} {a : Number.Exact} (number : v.number? = some a) (real : a ≠ .nan)
    (quiet : v.isSignaling = false) : v.sameNumber v = .ok true := by
  rw [sameNumber, number]
  simp only [quiet, Bool.or_self, Bool.false_eq_true, if_false]
  cases a with
  | nan => exact absurd rfl real
  | _ => simp [Number.Exact.equals]

theorem number_equals_self {v : Value} {a : Number.Exact} (number : v.number? = some a) (real : a ≠ .nan)
    (quiet : v.isSignaling = false) : v.equals v = .ok true := by
  rw [equals_of_number number, sameNumber_self number real quiet, ite_self]

theorem marked_equals_self {v : Value} (object : v.sameObject v = true) {a : Number.Exact}
    (number : v.number? = some a) : v.equals v = .ok true := by
  rw [equals_of_number number, if_pos object]

theorem find?_self {before rest : List (Value × Value)} {f : Value × Value}
    (apart : keysApart (before ++ f :: rest) = true) (itself : f.1.equals f.1 = .ok true) :
    (before ++ f :: rest).find? (fun g => holdsTrue (f.1.equals g.1)) = some f := by
  induction before with
  | nil => simp [itself, holdsTrue]
  | cons first before ih =>
    rw [List.cons_append, keysApart, Bool.and_eq_true, List.all_eq_true] at apart
    have other : holdsTrue (f.1.equals first.1) = false := by
      simpa using apart.1 f (by simp)
    rw [List.cons_append, List.find?_cons, other]
    exact ih apart.2

end Value

mutual

theorem Value.equals_self : ∀ {v : Value}, v.isMarked = true → v.equals v = .ok true
  | .absent, _ | .text _, _ | .bytes _, _ | .date _, _ => by simp [Value.equals]
  | .moment m, _ => by
    rw [Value.equals, Calendar.Moment.same]
    cases m.offset <;> simp
  | .term t, _ | .handle t, _ => by simp [Value.equals, Term.same]
  | .bool b, _ => Value.number_equals_self rfl (Value.ofParts_ne_nan _ _ _ _) rfl
  | .int n, _ => Value.number_equals_self rfl (Value.ofParts_ne_nan _ _ _ _) rfl
  | .double .nan (some n), _ => Value.marked_equals_self (by simp [Value.sameObject]) rfl
  | .double (.infinity _) _, _ => Value.number_equals_self rfl nofun rfl
  | .double (.finite ..) _, _ => Value.number_equals_self rfl (Value.ofParts_ne_nan _ _ _ _) rfl
  | .decimal (.nan ..) (some n), _ => Value.marked_equals_self (by simp [Value.sameObject]) rfl
  | .decimal (.infinity _) _, _ => Value.number_equals_self rfl nofun rfl
  | .decimal (.finite ..) _, _ => Value.number_equals_self rfl (Value.ofParts_ne_nan _ _ _ _) rfl
  | .sequence items object, marked => by
    rw [Value.isMarked, Option.isSome_iff_exists] at marked
    obtain ⟨n, rfl⟩ := marked
    simp [Value.equals, Value.sameObject]
  | .list vs, marked => by
    rw [Value.isMarked] at marked
    rw [Value.equals, if_pos rfl]
    exact Value.equalInOrder_self marked
  | .tuple vs, marked => by
    rw [Value.isMarked] at marked
    rw [Value.equals]
    exact Value.equalInOrder_self marked
  | .record fs, marked => by
    rw [Value.isMarked, Bool.and_eq_true] at marked
    rw [Value.equals, if_pos rfl]
    exact Value.equalFields_self [] marked.1 marked.2
  | .plan specs, marked => by
    rw [Value.isMarked] at marked
    rw [Value.equals]
    exact Spec.equalInOrder_self marked

theorem Value.equalInOrder_self : ∀ {vs : List Value}, Value.areMarked vs = true →
    Value.equalInOrder vs vs = .ok true
  | [], _ => by rw [Value.equalInOrder]
  | v :: rest, marked => by
    rw [Value.areMarked, Bool.and_eq_true] at marked
    rw [Value.equalInOrder, Value.equals_self marked.1]
    exact Value.equalInOrder_self marked.2

theorem Value.equalFields_self : ∀ {fs : List (Value × Value)} (before : List (Value × Value)),
    Value.areFieldsMarked fs = true → Value.keysApart (before ++ fs) = true →
    Value.equalFields fs (before ++ fs) = .ok true
  | [], _, _, _ => by rw [Value.equalFields]
  | (key, v) :: rest, before, marked, apart => by
    rw [Value.areFieldsMarked, Bool.and_eq_true, Bool.and_eq_true] at marked
    rw [Value.equalFields, Value.find?_self apart (Value.equals_self marked.1.1)]
    simp only [Value.equals_self marked.1.2, andAlso]
    have onward := Value.equalFields_self (before ++ [(key, v)]) marked.2
    rw [List.append_assoc] at onward
    exact onward apart

theorem Spec.equals_self : ∀ {spec : Spec}, spec.isMarked = true → spec.equals spec = .ok true
  | .property _, _ | .wildcard, _ | .recursive _, _ => by simp [Spec.equals, Term.same]
  | .constraint p v, marked => by
    rw [Spec.isMarked] at marked
    simp only [Spec.equals, Term.same, decide_true, andAlso, Value.equals_self marked]
  | .nested p specs, marked => by
    rw [Spec.isMarked] at marked
    simp only [Spec.equals, Term.same, decide_true, andAlso, Spec.equalInOrder_self marked]
  | .raw v, marked => by
    rw [Spec.isMarked] at marked
    rw [Spec.equals, Value.equals_self marked]

theorem Spec.equalInOrder_self : ∀ {specs : List Spec}, Spec.areMarked specs = true →
    Spec.equalInOrder specs specs = .ok true
  | [], _ => by rw [Spec.equalInOrder]
  | spec :: rest, marked => by
    rw [Spec.areMarked, Bool.and_eq_true] at marked
    rw [Spec.equalInOrder, Spec.equals_self marked.1]
    exact Spec.equalInOrder_self marked.2

end

namespace Plan

variable {spec : Spec}

theorem isAmong_append (spec : Spec) (specs more : List Spec) : isAmong spec (specs ++ more) =
    match isAmong spec specs with
    | .error e => .error e
    | .ok true => .ok true
    | .ok false => isAmong spec more := by
  induction specs with
  | nil => rfl
  | cons first rest ih =>
    rw [List.cons_append, isAmong_cons, isAmong_cons, ih]
    cases first.equals spec with
    | error e => rfl
    | ok equal => cases equal <;> rfl

theorem unequal_of_isAmong {specs : List Spec} (apart : isAmong spec specs = .ok false) :
    ∀ other ∈ specs, other.equals spec = .ok false := by
  induction specs with
  | nil => simp
  | cons first rest ih =>
    rw [isAmong_cons] at apart
    cases compared : first.equals spec with
    | error e => simp [compared] at apart
    | ok equal =>
      cases equal with
      | true => simp [compared] at apart
      | false =>
        simp only [compared] at apart
        exact List.forall_mem_cons.2 ⟨compared, ih apart⟩

theorem isAmong_again {again : Spec} {before : List Spec} (earlier : again ∈ before) (spec : Spec)
    (after : List Spec) : isAmong spec (before ++ again :: after) = isAmong spec (before ++ after) := by
  rw [isAmong_append, isAmong_append]
  cases among : isAmong spec before with
  | error e => rfl
  | ok found =>
    cases found with
    | true => rfl
    | false =>
      simp only
      rw [isAmong_cons, unequal_of_isAmong among again earlier]

theorem tellApart_append (before specs more : List Spec) : tellApart before (specs ++ more) =
    match tellApart before specs with
    | .error e => .error e
    | .ok () => tellApart (before ++ specs) more := by
  induction specs generalizing before with
  | nil => rw [List.nil_append, tellApart, List.append_nil]
  | cons first rest ih =>
    rw [List.cons_append, tellApart_cons, tellApart_cons]
    cases isAmong first before with
    | error e => rfl
    | ok found => simp only [ih, List.append_assoc, List.singleton_append]

theorem tellApart_again {before : List Spec} (earlier : spec ∈ before) (between rest : List Spec) :
    tellApart (before ++ spec :: between) rest = tellApart (before ++ between) rest := by
  induction rest generalizing between with
  | nil => rw [tellApart, tellApart]
  | cons next rest ih =>
    rw [tellApart_cons, tellApart_cons, isAmong_again earlier]
    cases isAmong next (before ++ between) with
    | error e => rfl
    | ok found =>
      simp only [List.append_assoc, List.cons_append]
      exact ih (between ++ [next])

theorem isAmong_of_told {before specs : List Spec} (told : tellApart before specs = .ok ())
    (member : spec ∈ specs) (itself : spec.equals spec = .ok true) :
    ∃ found, isAmong spec (before ++ specs) = .ok found := by
  induction specs generalizing before with
  | nil => cases member
  | cons first rest ih =>
    rw [tellApart_cons] at told
    cases turn : isAmong first before with
    | error e => simp [turn] at told
    | ok found =>
      simp only [turn] at told
      rcases List.mem_cons.1 member with rfl | later
      · rw [isAmong_append, turn]
        cases found with
        | true => exact ⟨true, rfl⟩
        | false => exact ⟨true, by simp only [isAmong_cons, itself]⟩
      · have onward := ih told later
        rwa [List.append_assoc, List.singleton_append] at onward

theorem tellApart_repeated {before : List Spec} (earlier : spec ∈ before) (itself : spec.equals spec = .ok true)
    (after : List Spec) : tellApart [] (before ++ spec :: after) = tellApart [] (before ++ after) := by
  rw [tellApart_append, tellApart_append]
  cases told : tellApart [] before with
  | error e => rfl
  | ok done =>
    obtain ⟨found, among⟩ := isAmong_of_told told earlier itself
    have again := tellApart_again earlier [] after
    rw [List.nil_append] at among
    simpa only [List.nil_append, List.append_nil, tellApart_cons, among] using again

/-- A specifier that equals itself clashes with no more when it is repeated. -/
theorem clashes_repeated {before : List Spec} (earlier : spec ∈ before) (itself : spec.equals spec = .ok true)
    (after : List Spec) : Clashes (before ++ spec :: after) ↔ Clashes (before ++ after) := by
  have told := tellApart_repeated earlier itself after
  rcases tellApart_iff (before ++ spec :: after) with ⟨ok, apart⟩ | ⟨failed, clash⟩
  · rcases tellApart_iff (before ++ after) with ⟨-, apart'⟩ | ⟨failed', -⟩
    · exact iff_of_false apart apart'
    · rw [ok, failed'] at told
      cases told
  · rcases tellApart_iff (before ++ after) with ⟨ok', -⟩ | ⟨-, clash'⟩
    · rw [failed, ok'] at told
      cases told
    · exact iff_of_true clash clash'

end Plan

end QuadPull
