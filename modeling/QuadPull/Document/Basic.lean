import QuadPull.Number.Double

namespace QuadPull

inductive Document where
  | null
  | bool (b : Bool)
  | int (n : Int)
  | double (d : Number.Double)
  | text (s : String)
  | list (items : List Document)
  | object (fields : List (String × Document))
  deriving Inhabited, Repr

namespace Document

mutual

def same : Document → Document → Bool
  | .null, .null => true
  | .bool a, .bool b => a == b
  | .int a, .int b => a == b
  | .double a, .double b => decide (a = b)
  | .text a, .text b => a == b
  | .list as, .list bs => sameAll as bs
  | .object as, .object bs => sameFields as bs
  | _, _ => false

def sameAll : List Document → List Document → Bool
  | [], [] => true
  | a :: as, b :: bs => a.same b && sameAll as bs
  | _, _ => false

def sameFields : List (String × Document) → List (String × Document) → Bool
  | [], [] => true
  | (k, a) :: as, (l, b) :: bs => k == l && a.same b && sameFields as bs
  | _, _ => false

end

mutual

theorem same_iff : ∀ a b : Document, a.same b = true ↔ a = b
  | .null, b => by cases b <;> simp [same]
  | .bool _, b => by cases b <;> simp [same]
  | .int _, b => by cases b <;> simp [same]
  | .double _, b => by cases b <;> simp [same]
  | .text _, b => by cases b <;> simp [same]
  | .list as, b => by cases b <;> simp [same, sameAll_iff as]
  | .object as, b => by cases b <;> simp [same, sameFields_iff as]

theorem sameAll_iff : ∀ as bs : List Document, sameAll as bs = true ↔ as = bs
  | [], bs => by cases bs <;> simp [sameAll]
  | a :: as, bs => by cases bs <;> simp [sameAll, same_iff a, sameAll_iff as]

theorem sameFields_iff : ∀ as bs : List (String × Document), sameFields as bs = true ↔ as = bs
  | [], bs => by cases bs <;> simp [sameFields]
  | (k, a) :: as, bs => by
    rcases bs with _ | ⟨⟨l, b⟩, bs⟩ <;> simp [sameFields, same_iff a, sameFields_iff as]

end

instance : DecidableEq Document := fun a b => decidable_of_iff _ (same_iff a b)

def truthy : Document → Bool
  | .null => false
  | .bool b => b
  | .int n => n != 0
  | .double d => !d.isZero
  | .text s => !s.isEmpty
  | .list items => !items.isEmpty
  | .object fields => !fields.isEmpty

def text? : Document → Option String
  | .text s => some s
  | _ => none

/-- The form that equal scalars share: a truth value counts as zero or one, and a number without a
fraction as an integer. -/
def settled : Document → Document
  | .bool b => .int (if b then 1 else 0)
  | .double d =>
    match d.integer? with
    | some n => .int n
    | none => .double d
  | d => d

@[simp] theorem settled_text (s : String) : (text s).settled = text s := rfl

@[simp] theorem settled_null : null.settled = null := rfl

def field? (d : Document) (key : String) : Option Document :=
  match d with
  | .object fields => fields.lookup key
  | _ => none

def hashable : Document → Bool
  | .list _ | .object _ => false
  | _ => true

end Document

end QuadPull
