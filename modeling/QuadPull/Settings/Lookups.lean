import QuadPull.Settings.Source
/-!
Settings of a pull (`PullConfig`): how many lookups may be under way, whether every constraint filters,
and whether lookups are remembered.
-/

namespace QuadPull

structure LookupSettings where
  maxConcurrent : Value := .int 8
  strict : Value := .bool false
  cached : Value := .bool true

namespace LookupSettings

def faults (s : LookupSettings) : Except Error (List SettingFault) := do
  let few ← s.maxConcurrent.lessThan 1
  return if few then [.fewLookups] else []

def ensureValid (s : LookupSettings) : Except Error Unit := Settings.ensure s.faults

def toRecord (s : LookupSettings) : List (String × Value) :=
  [("max_concurrent_lookups", s.maxConcurrent), ("strict_constraints", s.strict),
    ("cache_lookups", s.cached)]

/-- How many lookups may be under way. A limit with a fraction, which no number of lookups is equal to,
is none. -/
def limit? (s : LookupSettings) : Option Nat :=
  match s.maxConcurrent.number?, s.maxConcurrent.toInt with
  | some limit, .ok n => if limit.equals (.ofInt n) then some n.toNat else none
  | _, _ => none

def ofFields (fields : List (String × Value)) : Except Error LookupSettings := do
  Settings.onlyFields ["max_concurrent_lookups", "strict_constraints", "cache_lookups"] fields
  let default : LookupSettings := {}
  return {
    maxConcurrent := Settings.valueOr fields "max_concurrent_lookups" default.maxConcurrent
    strict := Settings.valueOr fields "strict_constraints" default.strict
    cached := Settings.valueOr fields "cache_lookups" default.cached }

def load (fields : List (String × Value)) : Except Error LookupSettings := do
  let most ← Settings.readAs Value.toInt .notInteger "max_concurrent_lookups"
    (Settings.valueOr fields "max_concurrent_lookups" (.int 8))
  let s : LookupSettings := {
    maxConcurrent := .int most
    strict := .bool (Settings.valueOr fields "strict_constraints" (.bool false)).truthy
    cached := .bool (Settings.valueOr fields "cache_lookups" (.bool true)).truthy }
  s.ensureValid
  return s

def variableField (environment : List (String × Value)) (name key : String)
    (read : Value → Except Error Value) : Except Error (List (String × Value)) :=
  match environment.lookup (Settings.variableStem ++ name) with
  | none => .ok []
  | some v => do
    let v ← read v
    return [(key, v)]

def loadEnvironment (environment : List (String × Value)) : Except Error LookupSettings := do
  let most ← variableField environment "MAX_CONCURRENT_LOOKUPS" "max_concurrent_lookups" .ok
  let strict ←
    variableField environment "STRICT_CONSTRAINTS" "strict_constraints" Settings.switchedOn
  let cached ← variableField environment "CACHE_LOOKUPS" "cache_lookups" Settings.switchedOn
  load (most ++ strict ++ cached)

end LookupSettings

end QuadPull
