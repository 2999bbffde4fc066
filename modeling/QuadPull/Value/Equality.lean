import QuadPull.Error
import QuadPull.Number.Exact
import QuadPull.Value.Basic
/-!
Equality of values. Numbers are equal when they are the same number, of whatever kind; lists, tuples and
records when their parts are. A decimal that signals cannot be compared with a number at all, so equality
may fail; parts are compared in order, and the first that differ settle it. Every comparison is one of
parts, as `in` and the equality of tuples, lists and records make it: one object is taken for equal to
itself before it is compared.
-/

namespace QuadPull

namespace Value

def number? : Value → Option Number.Exact
  | .bool b => some (.ofInt (if b then 1 else 0))
  | .int n => some (.ofInt n)
  | .double d _ => some (.ofDouble d)
  | .decimal d _ => some (.ofDecimal d)
  | _ => none

def isSignaling : Value → Bool
  | .decimal (.nan _ signaling _) _ => signaling
  | _ => false

/-- Whether two places hold one object, of the kinds where equality does not come to the same. -/
def sameObject : Value → Value → Bool
  | .double _ (some n), .double _ (some m) => n == m
  | .decimal _ (some n), .decimal _ (some m) => n == m
  | .sequence _ (some n), .sequence _ (some m) => n == m
  | _, _ => false

def sameNumber (v w : Value) : Except Error Bool :=
  match v.number?, w.number? with
  | some a, some b =>
    if v.isSignaling || w.isSignaling then .error .incomparable else .ok (a.equals b)
  | _, _ => .ok false

end Value

def andAlso (first : Except Error Bool) (rest : Unit → Except Error Bool) : Except Error Bool :=
  match first with
  | .ok true => rest ()
  | outcome => outcome

def holdsTrue : Except Error Bool → Bool
  | .ok same => same
  | .error _ => false

mutual

def Value.equals : Value → Value → Except Error Bool
  | .absent, .absent => .ok true
  | .text s, .text t => .ok (s == t)
  | .bytes bs, .bytes cs => .ok (bs == cs)
  | .moment m, .moment n => .ok (m.same n)
  | .date d, .date e => .ok (decide (d = e))
  | .term t, .term u => .ok (t.same u)
  | .handle n, .handle m => .ok (n.same m)
  | .handle n, .term t => .ok (t.isIri && n.same t)
  | .term t, .handle n => .ok (t.isIri && n.same t)
  | .list vs, .list ws =>
    if vs.length = ws.length then Value.equalInOrder vs ws else .ok false
  | .tuple vs, .tuple ws => Value.equalInOrder vs ws
  | .record fs, .record gs => if fs.length = gs.length then Value.equalFields fs gs else .ok false
  | .plan specs, .plan others => Spec.equalInOrder specs others
  | v, w => if v.sameObject w then .ok true else v.sameNumber w

def Value.equalInOrder : List Value → List Value → Except Error Bool
  | [], [] => .ok true
  | v :: vs, w :: ws => andAlso (v.equals w) fun _ => Value.equalInOrder vs ws
  | _, _ => .ok false

def Value.equalFields : List (Value × Value) → List (Value × Value) → Except Error Bool
  | [], _ => .ok true
  | (key, v) :: rest, others =>
    match others.find? fun f => holdsTrue (key.equals f.1) with
    | some f => andAlso (v.equals f.2) fun _ => Value.equalFields rest others
    | none => .ok false

def Spec.equals : Spec → Spec → Except Error Bool
  | .property p, .property q => .ok (p.same q)
  | .wildcard, .wildcard => .ok true
  | .constraint p v, .constraint q w => andAlso (.ok (p.same q)) fun _ => v.equals w
  | .nested p specs, .nested q others =>
    andAlso (.ok (p.same q)) fun _ => Spec.equalInOrder specs others
  | .recursive p, .recursive q => .ok (p.same q)
  | .raw v, .raw w => v.equals w
  | _, _ => .ok false

def Spec.equalInOrder : List Spec → List Spec → Except Error Bool
  | [], [] => .ok true
  | s :: ss, t :: ts => andAlso (s.equals t) fun _ => Spec.equalInOrder ss ts
  | _, _ => .ok false

end

end QuadPull
