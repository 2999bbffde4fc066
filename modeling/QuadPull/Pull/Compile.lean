import QuadPull.Value.Inspect
/-!
Pull expressions as native values, and their compilation (`compile_expr`, `_check_predicate`). An
expression is a plan, or anything that lists items: a mark for every pair, a predicate, or a pair of a
predicate and what is asked of its objects. A sequence lists its items once, so its compilation uses it
up.
-/

namespace QuadPull.Pull

def everyMark : String := "*"

def onwardMark : String := "..."

def refuse {α : Type} (fault : String → ExpressionFault) (item : Value) : Except Error α := do
  let shown ← item.inspect
  throw (.expression (fault shown))

def ofMark (s : String) : Except Error Spec :=
  if s = everyMark then .ok .wildcard else refuse .unknownMark (.text s)

def ofTerm (t : Term) : Except Error Spec :=
  if t.isIri then .ok (.property t) else refuse .unsupported (.term t)

def predicateOf (pair predicate : Value) : Except Error Term :=
  match predicate with
  | .term p => if p.isIri then .ok p else refuse .predicate pair
  | _ => refuse .predicate pair

mutual

def compile : Value → Except Error Plan
  | .plan specs => .ok specs
  | .list items => compileItems items
  | .tuple items => compileItems items
  | .sequence items _ => compileItems items
  | .record fields => compileKeys fields
  | .term (.quoted s p o g) => [s, p, o, g].mapM ofTerm
  | v => refuse .notItems v

def compileItems : List Value → Except Error Plan
  | [] => .ok []
  | item :: rest => do
    let spec ← compileItem item
    let specs ← compileItems rest
    return spec :: specs

def compileKeys : List (Value × Value) → Except Error Plan
  | [] => .ok []
  | (key, _) :: rest => do
    let spec ← compileItem key
    let specs ← compileKeys rest
    return spec :: specs

def compileItem : Value → Except Error Spec
  | .text s => ofMark s
  | .term t => ofTerm t
  | .list items => compilePair (.list items) items
  | .tuple items => compilePair (.tuple items) items
  | v => refuse .unsupported v

def compilePair (item : Value) : List Value → Except Error Spec
  | [predicate, .plan specs] => do
    let p ← predicateOf item predicate
    return .nested p specs
  | [predicate, .list items] => do
    let p ← predicateOf item predicate
    let specs ← compileItems items
    return .nested p specs
  | [predicate, .tuple items] => do
    let p ← predicateOf item predicate
    let specs ← compileItems items
    return .nested p specs
  | [predicate, .text s] => do
    let p ← predicateOf item predicate
    return if s = onwardMark then .recursive p else .constraint p (.text s)
  | [predicate, v] => do
    let p ← predicateOf item predicate
    return .constraint p v
  | _ => refuse .notPair item

end

/-- The items behind the first that is refused. -/
def unread : List Value → List Value
  | [] => []
  | item :: rest =>
    match compileItem item with
    | .ok _ => unread rest
    | .error _ => rest

/-- What an expression is when it has been compiled: a sequence keeps the items that were not taken from
it, and everything else is as it was. -/
def left : Value → Value
  | .sequence items object => .sequence (unread items) object
  | v => v

theorem compileKeys_eq (fields : List (Value × Value)) :
    compileKeys fields = compileItems (fields.map (·.1)) := by
  induction fields with
  | nil => rw [List.map_nil, compileKeys, compileItems]
  | cons field rest ih => rw [List.map_cons, compileKeys, compileItems, ih]

end QuadPull.Pull
