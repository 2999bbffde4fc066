import QuadPull.Value.Conversion
import QuadPull.Value.Equality
/-!
Constraints on objects (`satisfies`): an object satisfies a value when it is the term of that value.
-/

namespace QuadPull.Pull

def isMismatch : Error → Bool
  | .numberTooLong | .badValue | .wrongKind => true
  | _ => false

/-- Compares an object with a value. No value accepts every term; a value without a term accepts none, and
neither does a sequence, whose text is its own. -/
def comparison (candidate : Term) (constraint : Value) : Except Error Bool :=
  match constraint with
  | .absent => .ok true
  | v =>
    if v.holdsSequence then .ok false
    else match Term.ofValue v with
    | .ok expected => .ok (candidate.same expected)
    | .error e => if isMismatch e then .ok false else .error e

def satisfies (candidate : Term) (constraint : Value) : Bool := holdsTrue (comparison candidate constraint)

end QuadPull.Pull
