import QuadPull.Error
import QuadPull.Number.Shortest
import QuadPull.Value.Basic
/-!
Values as messages show them (`inspect`) and as text (`display`). Both fail only on an integer that is
too long to be written.
-/

namespace QuadPull

namespace Calendar

def Moment.timeParts (m : Moment) : List Nat :=
  if m.microsecond ≠ 0 then [m.hour, m.minute, m.second, m.microsecond]
  else if m.second ≠ 0 then [m.hour, m.minute, m.second]
  else [m.hour, m.minute]

def inspectOffset (offset : Int) : String :=
  if offset = 0 then "datetime.timezone.utc"
  else
    let days := offset / dayLength
    let rest := (offset % dayLength).toNat
    let seconds := rest / 1000000
    let micro := rest % 1000000
    let parts := (if days ≠ 0 then ["days=" ++ toString days] else []) ++
      (if seconds ≠ 0 then ["seconds=" ++ toString seconds] else []) ++
      (if micro ≠ 0 then ["microseconds=" ++ toString micro] else [])
    "datetime.timezone(datetime.timedelta(" ++ ", ".intercalate parts ++ "))"

def Moment.inspect (m : Moment) : String :=
  let parts := ([m.date.year, m.date.month, m.date.day] ++ m.timeParts).map toString
  let zone := (m.offset.map fun o => ["tzinfo=" ++ inspectOffset o]).getD []
  "datetime.datetime(" ++ ", ".intercalate (parts ++ zone) ++ ")"

def Date.inspect (d : Date) : String :=
  "datetime.date(" ++ ", ".intercalate ([d.year, d.month, d.day].map toString) ++ ")"

end Calendar

def inspectInt (n : Int) : Except Error String :=
  match Number.toText? n with
  | some s => .ok s
  | none => .error .numberTooLong

def inspectBool (b : Bool) : String := if b then "True" else "False"

def inspectTuple : List String → String
  | [item] => "(" ++ item ++ ",)"
  | items => "(" ++ ", ".intercalate items ++ ")"

def inspectPlan (specs : List String) : String := "PullPlan(specs=" ++ inspectTuple specs ++ ")"

def inspectHandle (node : Term) : Except Error String :=
  if node.given?.isNone then .error .notOffered
  else .ok ("Resource(" ++ node.content.inspect ++ ")")

mutual

def Value.inspect : Value → Except Error String
  | .absent => .ok "None"
  | .bool b => .ok (inspectBool b)
  | .int n => inspectInt n
  | .double d _ => .ok d.toText
  | .decimal d _ => .ok ("Decimal(" ++ Text.quoted d.toText ++ ")")
  | .text s => .ok (Text.quoted s)
  | .bytes bs => .ok (Text.quotedBytes bs)
  | .moment m => .ok m.inspect
  | .date d => .ok d.inspect
  | .term t => .ok t.inspect
  | .list items => do
    let shown ← Value.inspectAll items
    return "[" ++ ", ".intercalate shown ++ "]"
  | .tuple items => do
    let shown ← Value.inspectAll items
    return inspectTuple shown
  | .sequence .. => .ok "<sequence>"
  | .record fields => do
    let shown ← Value.inspectFields fields
    return "\x7b" ++ ", ".intercalate shown ++ "\x7d"
  | .plan specs => do
    let shown ← Spec.inspectAll specs
    return inspectPlan shown
  | .handle node => inspectHandle node

def Value.inspectAll : List Value → Except Error (List String)
  | [] => .ok []
  | v :: rest => do
    let shown ← v.inspect
    let others ← Value.inspectAll rest
    return shown :: others

def Value.inspectFields : List (Value × Value) → Except Error (List String)
  | [] => .ok []
  | (key, v) :: rest => do
    let name ← key.inspect
    let shown ← v.inspect
    let others ← Value.inspectFields rest
    return (name ++ ": " ++ shown) :: others

def Spec.inspect : Spec → Except Error String
  | .property p => .ok ("PropertySpec(predicate=" ++ p.inspect ++ ")")
  | .wildcard => .ok "WildcardSpec()"
  | .constraint p v => do
    let shown ← v.inspect
    return "ConstraintSpec(predicate=" ++ p.inspect ++ ", value=" ++ shown ++ ")"
  | .nested p specs => do
    let shown ← Spec.inspectAll specs
    return "NestedSpec(predicate=" ++ p.inspect ++ ", plan=" ++ inspectPlan shown ++ ")"
  | .recursive p => .ok ("RecursiveSpec(predicate=" ++ p.inspect ++ ")")
  | .raw item => item.inspect

def Spec.inspectAll : List Spec → Except Error (List String)
  | [] => .ok []
  | spec :: rest => do
    let shown ← spec.inspect
    let others ← Spec.inspectAll rest
    return shown :: others

end

/-- The text of a value. Texts stand for themselves, and so do the words of numbers and dates. -/
def Value.display : Value → Except Error String
  | .text s => .ok s
  | .decimal d _ => .ok d.toText
  | .moment m =>
    .ok (String.ofList (m.iso.map fun c => if c == 'T' then ' ' else c))
  | .date d => .ok (String.ofList d.iso)
  | .term t => .ok t.display
  | v => v.inspect

end QuadPull
