import QuadPull.Calendar.Moment
import QuadPull.Number.Decimal
import QuadPull.Term.Basic
/-!
Native values and the specifiers of pull plans. A specifier may hold any value as a constraint, and a
plan is a value that may stand in an expression, so the two are defined together.
-/

namespace QuadPull

mutual

/-- A native value. A sequence is iterated once and has no length; a record has its keys, which may be any
values, in the order in which they were given; a handle stands for the resource of a node. Sequences and
numbers that are none do not equal their like, but one object equals itself: places with one mark hold one
object, and a place without a mark holds an object that stands nowhere else. -/
inductive Value where
  | absent
  | bool (b : Bool)
  | int (n : Int)
  | double (d : Number.Double) (object : Option Nat := none)
  | decimal (d : Number.Decimal) (object : Option Nat := none)
  | text (s : String)
  | bytes (bs : List UInt8)
  | moment (m : Calendar.Moment)
  | date (d : Calendar.Date)
  | term (t : Term)
  | list (items : List Value)
  | tuple (items : List Value)
  | sequence (items : List Value) (object : Option Nat := none)
  | record (fields : List (Value × Value))
  | plan (specs : List Spec)
  | handle (node : Term)

/-- One specifier of a plan: all objects of a predicate, every pair, the objects that equal a value,
a plan for each object, or all that is reached through a predicate. An item put into a plan without
compilation is `raw`. -/
inductive Spec where
  | property (predicate : Term)
  | wildcard
  | constraint (predicate : Term) (value : Value)
  | nested (predicate : Term) (specs : List Spec)
  | recursive (predicate : Term)
  | raw (item : Value)

end

abbrev Plan := List Spec

instance : Inhabited Value := ⟨.absent⟩
instance : Inhabited Spec := ⟨.wildcard⟩

namespace Value

def ofFields (fields : List (String × Value)) : Value :=
  .record (fields.map fun f => (.text f.1, f.2))

def isAbsent : Value → Bool
  | .absent => true
  | _ => false

def truthy : Value → Bool
  | .absent => false
  | .bool b => b
  | .int n => n != 0
  | .double d _ => !d.isZero
  | .decimal d _ => !d.isZero
  | .text s => !s.isEmpty
  | .bytes bs => !bs.isEmpty
  | .list items | .tuple items => !items.isEmpty
  | .record fields => !fields.isEmpty
  | .plan specs => !specs.isEmpty
  | .moment _ | .date _ | .term _ | .sequence .. | .handle _ => true

mutual

/-- Values that can be members of a set: lists and records change, so they cannot, nor can what
holds them; and a signaling decimal takes part in no comparison. -/
def hashable : Value → Bool
  | .list _ | .record _ => false
  | .decimal (.nan _ signaling _) _ => !signaling
  | .tuple items => allHashable items
  | .plan specs => allSpecsHashable specs
  | .term t => t.hashable
  | .handle node => node.hashable
  | _ => true

def allHashable : List Value → Bool
  | [] => true
  | v :: rest => v.hashable && allHashable rest

def allSpecsHashable : List Spec → Bool
  | [] => true
  | spec :: rest => specHashable spec && allSpecsHashable rest

def specHashable : Spec → Bool
  | .property p | .recursive p => p.hashable
  | .wildcard => true
  | .constraint p v => p.hashable && v.hashable
  | .nested p specs => p.hashable && allSpecsHashable specs
  | .raw v => v.hashable

end

mutual

/-- Whether a value is or holds a sequence. A sequence shows which one it is and not what is in it, so
no two of them look alike. -/
def holdsSequence : Value → Bool
  | .sequence .. => true
  | .list items | .tuple items => anySequence items
  | .record fields => anyFieldSequence fields
  | .plan specs => anySpecSequence specs
  | _ => false

def anySequence : List Value → Bool
  | [] => false
  | v :: rest => v.holdsSequence || anySequence rest

def anyFieldSequence : List (Value × Value) → Bool
  | [] => false
  | (key, v) :: rest => key.holdsSequence || v.holdsSequence || anyFieldSequence rest

def anySpecSequence : List Spec → Bool
  | [] => false
  | spec :: rest => specSequence spec || anySpecSequence rest

def specSequence : Spec → Bool
  | .constraint _ v | .raw v => v.holdsSequence
  | .nested _ specs => anySpecSequence specs
  | _ => false

end

def isSequence : Value → Bool
  | .sequence .. => true
  | _ => false

def spent : Value → Value
  | .sequence _ object => .sequence [] object
  | v => v

/-- What is left of a value when its items have been taken, and theirs as well. -/
def drained : Value → Value
  | .list items => .list (items.map spent)
  | .tuple items => .tuple (items.map spent)
  | v => v.spent

end Value

end QuadPull
