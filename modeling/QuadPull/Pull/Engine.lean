import QuadPull.Graph.SetGraph
import QuadPull.Pull.Evaluate
import QuadPull.Pull.Schedule
import QuadPull.Settings.Lookups
/-!
Engines put inquiries to a store (`PullEngine`: `lookup`, `subjects`, `run`). An engine counts the lookups
that the store answers; one that remembers answers, errors included, asks the store for each of them once.
-/

namespace QuadPull.Pull

/-- What an engine reads from: the answer to a lookup, the whole of the quads, a bound on the number of
quads that the answers hold, and whether an answer takes a turn to come. -/
structure Source where
  find : Lookup → Answer
  quads : Answer
  bound : Nat
  pauses : Bool := false

structure Engine where
  settings : LookupSettings := {}
  memory : List (Lookup × Answer) := []
  lookups : Nat := 0

namespace Engine

def ofSettings (settings : LookupSettings) : Except Error Engine := do
  settings.ensureValid
  return { settings }

def remembered? (e : Engine) (l : Lookup) : Option Answer :=
  if e.settings.cached.truthy then l.remembered? e.memory else none

/-- What the store says to a lookup, or what is remembered of it (`lookup`). An engine that remembers
answers makes no lookup under which none can be kept. -/
def answer (e : Engine) (find : Lookup → Answer) (l : Lookup) : Answer :=
  if e.settings.cached.truthy && !l.hashable then .error .wrongKind
  else (e.remembered? l).getD (find l)

def charged (e : Engine) (asked : List (Lookup × Answer)) : List (Lookup × Answer) :=
  if e.settings.cached.truthy then
    Distinct.ofList (·.1.settled) (asked.filter fun a => (e.remembered? a.1).isNone)
  else asked

def after (e : Engine) (asked : List (Lookup × Answer)) : Engine :=
  let charged := e.charged asked
  { e with
    memory := if e.settings.cached.truthy then charged ++ e.memory else e.memory
    lookups := e.lookups + charged.length }

/-- An inquiry whose parts take turns: how it ends, and the engine when it has ended. No inquiry takes more
turns than its steps are worth. -/
def byTurns (e : Engine) (source : Source) (i : Inquiry) (steps : Nat) : Option Ending × Engine :=
  let (job, s) := (Schedule.ofMemory e.settings.limit? e.memory).start (.fresh i)
  let rules : Schedule.Rules :=
    { cached := e.settings.cached.truthy, find := source.find, pauses := source.pauses }
  let s := s.run rules (16 * steps + 16) job
  (s.endingOf job, { e with memory := s.memory, lookups := e.lookups + s.lookups })

def fault (e : Engine) (source : Source) (i : Inquiry) (steps : Nat) (faults : Faults) :
    Error × Engine :=
  let (ending, e) := e.byTurns source i steps
  match ending with
  | some (.failed fault) => (if fault ∈ faults.toList then fault else faults.first, e)
  | some .withdrawn => (if .withdrawn ∈ faults.toList then .withdrawn else faults.first, e)
  | _ => (faults.first, e)

/-- Whether lookups that are equal are written alike. The answer to one is remembered for all that are
equal to it, so otherwise it counts which of them comes first. -/
def areAlike (asked : List (Lookup × Answer)) : Bool := asked.all fun a => a.1.settled = a.1

def perform (e : Engine) (source : Source) (i : Inquiry) : Except Error Finding × Engine :=
  let pursuit := i.pursue (e.answer source.find)
  if e.settings.cached.truthy && !areAlike pursuit.asked then
    let (ending, e) := e.byTurns source i pursuit.steps
    ((ending.map Ending.result).getD (pursuit.outcome.mapError (·.first)), e)
  else
    match pursuit.outcome with
    | .ok finding => (.ok finding, e.after pursuit.asked)
    | .error faults =>
      let (fault, e) := e.fault source i pursuit.steps faults
      (.error fault, e)

def collect (e : Engine) (source : Source) (i : Inquiry) : Answer × Engine :=
  let (result, e) := e.perform source i
  (result.map (·.getD []), e)

def answerSize : Answer → Nat
  | .ok quads => quads.length
  | .error _ => 0

/-- Rounds enough for any recursion: every round but the first starts from an object that was not met
before, and all objects come from answers of the source or of the memory. -/
def rounds (e : Engine) (source : Source) : Nat :=
  source.bound + Number.total (e.memory.map fun m => answerSize m.2) + 1

def starts (source : Source) : Option Term → Except Error (List Term)
  | some s => .ok [s]
  | none => do
    let quads ← source.quads
    return subjectsOf quads

def lookup (e : Engine) (source : Source) (l : Lookup) : Answer × Engine :=
  e.collect source (.fetch l)

def evaluate (e : Engine) (source : Source) (plan : Plan) (s : Term) :
    Except Error Finding × Engine :=
  e.perform source (Pull.evaluate e.settings.strict.truthy (e.rounds source) plan s)

def run (e : Engine) (source : Source) (plan : Plan) (start : Option Term) : Answer × Engine :=
  match starts source start with
  | .error fault => (.error fault, e)
  | .ok subjects =>
    e.collect source (select e.settings.strict.truthy (e.rounds source) plan subjects)

end Engine

/-- The part of a source that an expression selects (`pull`), as a graph of a name, and the engine that
found it. The expression is compiled before the settings are checked, and nothing is looked up before
both. -/
def pullWith (settings : LookupSettings) (name : Term) (source : Source) (expression : Value)
    (start : Option Term) : Except Error (SetGraph × Engine) := do
  let plan ← compile expression
  let engine ← Engine.ofSettings settings
  let (answer, engine) := engine.run source plan start
  let quads ← answer
  return (.ofList name quads, engine)

def pull (settings : LookupSettings) (name : Term) (source : Source) (expression : Value)
    (start : Option Term) : Except Error SetGraph := do
  let (g, _) ← pullWith settings name source expression start
  return g

end QuadPull.Pull
