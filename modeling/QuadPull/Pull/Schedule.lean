import QuadPull.Pull.Inquiry
/-!
Inquiries that take turns (`_gather`, `_cancel_all`, `_fetch`, `_drain_cache`). Jobs stand in one line,
and each goes on until it must wait: for a lookup that is under way, for the permit to begin one, or for
the inquiries that it has made. When a job ends, all that waits for it gets in line.

A store may take a turn to answer, and there may be a limit to the lookups that are under way. Those
beyond it wait for permits, which are given in the order in which they were asked for.

When one of several inquiries fails, their maker withdraws those that have not ended, waits for their end
and fails as well. So the turns decide which of several faults comes out, how many lookups are made until
then, and which lookups are given up.
-/

namespace QuadPull.Pull

inductive Ending where
  | found (finding : Finding)
  | failed (e : Error)
  | withdrawn

def Ending.ofAnswer : Answer → Ending
  | .ok quads => .found (some quads)
  | .error .withdrawn => .withdrawn
  | .error e => .failed e

def Ending.result : Ending → Except Error Finding
  | .found finding => .ok finding
  | .failed e => .error e
  | .withdrawn => .error .withdrawn

def Ending.answer : Ending → Answer
  | .found finding => .ok (finding.getD [])
  | .failed e => .error e
  | .withdrawn => .error .withdrawn

def Ending.isFailed : Ending → Bool
  | .failed _ => true
  | _ => false

def Ending.isWithdrawn : Ending → Bool
  | .withdrawn => true
  | _ => false

inductive Turn where
  | go (job : Nat)
  | note (job ended : Nat)

inductive Stage where
  | fresh (i : Inquiry)
  | lookup (l : Lookup)
  | asking (next : List Quad → Inquiry)
  | queuing (permit : Nat) (l : Lookup) (next : List Quad → Inquiry)
  | answered (quads : List Quad) (next : List Quad → Inquiry)
  | joining (parts : List Nat) (next : List Finding → Inquiry)
  | leaving (ending : Ending)
  | permit
  /-- Opens when one of some jobs fails, or when the last of them ends (`_gather` waits for it). -/
  | gate (left : Nat)
  /-- Ends with the last of its members (`_cancel_all` waits for it); `called` when it was withdrawn
  itself. -/
  | group (members : List Nat) (left : Nat) (called : Bool)

structure Job where
  stage : Stage
  ending : Option Ending := none
  after : Array Turn := #[]
  awaits : Option Nat := none
  doomed : Bool := false

structure Schedule where
  jobs : Array Job := #[]
  line : Std.Queue Turn := .empty
  known : List (Lookup × Nat) := []
  lookups : Nat := 0
  free : Option Nat := none
  permits : List Nat := []

namespace Schedule

def update (s : Schedule) (id : Nat) (f : Job → Job) : Schedule :=
  { s with jobs := s.jobs.modify id f }

def push (s : Schedule) (t : Turn) : Schedule := { s with line := s.line.enqueue t }

def start (s : Schedule) (stage : Stage) : Nat × Schedule :=
  let id := s.jobs.size
  (id, { s with jobs := s.jobs.push { stage } }.push (.go id))

def attend (s : Schedule) (stage : Stage) : Nat × Schedule :=
  (s.jobs.size, { s with jobs := s.jobs.push { stage } })

def endingOf (s : Schedule) (id : Nat) : Option Ending := s.jobs[id]?.bind (·.ending)

def finish (s : Schedule) (id : Nat) (ending : Ending) : Schedule :=
  match s.jobs[id]? with
  | some { after, ending := none, .. } =>
    after.foldl push (s.update id fun j => { j with ending := some ending, after := #[] })
  | _ => s

def whenEnded (s : Schedule) (t : Turn) (id : Nat) : Schedule :=
  match s.endingOf id with
  | some _ => s.push t
  | none => s.update id fun j => { j with after := j.after.push t }

def wait (s : Schedule) (id awaited : Nat) (stage : Stage) : Schedule :=
  (s.update id fun j => { j with stage, awaits := some awaited }).whenEnded (.go id) awaited

/-- Withdraws a job, and says whether it was not too late. What it waits for is withdrawn first; a job
that waits for nothing, or for what has ended, is withdrawn at its next turn. -/
def withdraw : Nat → Schedule → Nat → Bool × Schedule
  | 0, s, _ => (false, s)
  | depth + 1, s, id =>
    match s.jobs[id]? with
    | some { stage, ending := none, awaits, .. } =>
      match stage with
      | .permit | .gate _ => (true, s.finish id .withdrawn)
      | .group members left _ =>
        let (called, s) := members.foldl (fun (called, s) member =>
          let (inTime, s) := withdraw depth s member
          (called || inTime, s)) (false, s)
        if called then (true, s.update id fun j => { j with stage := .group members left true })
        else (false, s)
      | _ =>
        let (inTime, s) := awaits.elim (false, s) (withdraw depth s)
        if inTime then (true, s) else (true, s.update id fun j => { j with doomed := true })
    | _ => (false, s)

def leave (s : Schedule) (id : Nat) (members : List Nat) (ending : Ending) : Schedule :=
  if members.isEmpty then s.finish id ending
  else
    let s := members.foldl (fun s member => (withdraw s.jobs.size s member).2) s
    let (group, s) := s.attend (.group members members.length false)
    let s := members.foldl (fun s member => s.whenEnded (.note group member) member) s
    s.wait id group (.leaving ending)

/-- Lets a job make others and wait for all of them (`_gather`). -/
def join (s : Schedule) (id : Nat) (parts : List Inquiry) (next : List Finding → Inquiry) :
    Schedule :=
  let first := s.jobs.size
  let s := parts.foldl (fun s part => (s.start (.fresh part)).2) s
  let parts := List.range' first parts.length
  let (gate, s) := s.attend (.gate parts.length)
  let s := parts.foldl (fun s part => s.whenEnded (.note gate part) part) s
  s.wait id gate (.joining parts next)

def remembered (s : Schedule) (l : Lookup) : Nat × Schedule :=
  match l.remembered? s.known with
  | some job => (job, s)
  | none =>
    let (job, s) := s.start (.lookup l)
    (job, { s with known := (l, job) :: s.known })

def isFull (s : Schedule) : Bool :=
  s.free == some 0 || s.permits.any fun permit => !(s.endingOf permit).any Ending.isWithdrawn

def givePermit (s : Schedule) : Schedule :=
  match s.permits.find? fun permit => (s.endingOf permit).isNone with
  | some permit => { s with free := s.free.map (· - 1) }.finish permit (.found none)
  | none => s

def release (s : Schedule) : Schedule := { s with free := s.free.map (· + 1) }.givePermit

def queue (s : Schedule) (id : Nat) (l : Lookup) (next : List Quad → Inquiry) : Schedule :=
  let (permit, s) := s.attend .permit
  { s with permits := s.permits ++ [permit] }.wait id permit (.queuing permit l next)

structure Rules where
  cached : Bool
  find : Lookup → Answer
  pauses : Bool

section

variable (rules : Rules)

/-- Lets a job go on with an inquiry until it waits or ends. A lookup that is remembered is a job of its
own; any other one is made by the job itself, which may hold the permit for it. -/
def advance (cached permitted : Bool) (s : Schedule) (id : Nat) : Inquiry → Schedule
  | .done (.ok finding) => s.finish id (.found finding)
  | .done (.error e) => s.finish id (.failed e)
  | .ask l next =>
    if cached && !l.hashable then s.finish id (.failed .wrongKind)
    else if cached then
      let (job, s) := s.remembered l
      match s.endingOf job with
      | some (.found quads) => advance cached false s id (next (quads.getD []))
      | some ending => s.finish id ending
      | none => s.wait id job (.asking next)
    else if !permitted && s.isFull then s.queue id l next
    else
      let s := { s with
        lookups := s.lookups + 1
        free := if permitted then s.free else s.free.map (· - 1) }
      match rules.find l with
      | .error e => s.release.finish id (.ofAnswer (.error e))
      | .ok quads =>
        if rules.pauses then
          (s.update id fun j => { j with stage := .answered quads next }).push (.go id)
        else advance cached false s.release id (next quads)
  | .gather [] next => advance cached permitted s id (next [])
  | .gather parts next => s.join id parts next

/-- The last of some jobs that has failed decides how all of them do. -/
def failure? (s : Schedule) (ids : List Nat) : Option Ending :=
  (ids.filterMap s.endingOf).reverse.find? Ending.isFailed

/-- Goes on when a gate has opened (`_gather`, after its wait): with the findings of all parts, or with
their failure. -/
def passGate (s : Schedule) (id : Nat) (parts : List Nat) (next : List Finding → Inquiry) :
    Schedule :=
  match s.failure? parts with
  | some ending => s.leave id (parts.filter fun part => (s.endingOf part).isNone) ending
  | none =>
    let findings := parts.filterMap fun part =>
      match s.endingOf part with
      | some (.found finding) => some finding
      | _ => none
    if findings.length = parts.length then advance rules rules.cached false s id (next findings)
    else s.finish id .withdrawn

/-- The turn of a job that waited for a permit. A permit that is not used is given back. -/
def usePermit (s : Schedule) (id permit : Nat) (withdrawn : Bool) (l : Lookup)
    (next : List Quad → Inquiry) : Schedule :=
  let given := !(s.endingOf permit).any Ending.isWithdrawn
  let s := { s with permits := s.permits.filter (· ≠ permit) }
  if withdrawn then (if given then s.release else s).finish id .withdrawn
  else
    let s := if s.free == some 0 then s else s.givePermit
    advance rules false true s id (.ask l next)

def go (s : Schedule) (id : Nat) : Schedule :=
  match s.jobs[id]? with
  | none => s
  | some { stage, awaits, doomed, .. } =>
    let heard := awaits.bind s.endingOf
    let withdrawn := doomed || heard.any Ending.isWithdrawn
    let s := s.update id fun j => { j with awaits := none, doomed := false }
    match stage with
    | .fresh i => if withdrawn then s.finish id .withdrawn else advance rules rules.cached false s id i
    | .lookup l =>
      if withdrawn then s.finish id .withdrawn else advance rules false false s id (.fetch l)
    | .asking next =>
      match heard with
      | some (.found quads) =>
        if withdrawn then s.finish id .withdrawn
        else advance rules rules.cached false s id (next (quads.getD []))
      | some ending => s.finish id (if withdrawn then .withdrawn else ending)
      | none => s.finish id .withdrawn
    | .queuing permit l next => usePermit rules s id permit withdrawn l next
    | .answered quads next =>
      let s := s.release
      if withdrawn then s.finish id .withdrawn else advance rules rules.cached false s id (next quads)
    | .joining parts next =>
      if withdrawn then s.leave id parts .withdrawn else passGate rules s id parts next
    | .leaving ending => s.finish id (if withdrawn then .withdrawn else ending)
    | .permit | .gate _ | .group .. => s

def note (s : Schedule) (id ended : Nat) : Schedule :=
  match s.jobs[id]? with
  | some { stage := .gate left, .. } =>
    let s := s.update id fun j => { j with stage := .gate (left - 1) }
    if left ≤ 1 || (s.endingOf ended).any Ending.isFailed then s.finish id (.found none) else s
  | some { stage := .group members left called, .. } =>
    let s := s.update id fun j => { j with stage := .group members (left - 1) called }
    if left ≤ 1 then s.finish id (if called then .withdrawn else .found none) else s
  | _ => s

def take (s : Schedule) : Turn → Schedule
  | .go id => go rules s id
  | .note id ended => s.note id ended

def run : Nat → Schedule → Nat → Schedule
  | 0, s, _ => s
  | turns + 1, s, id =>
    match s.endingOf id, s.line.dequeue? with
    | none, some (turn, line) => run turns (take rules { s with line } turn) id
    | _, _ => s

end

def ofMemory (free : Option Nat) (memory : List (Lookup × Answer)) : Schedule :=
  memory.foldr (fun m s =>
    let (job, s) := s.attend (.lookup m.1)
    { s.update job fun j => { j with ending := some (.ofAnswer m.2) } with
      known := (m.1, job) :: s.known }) { free }

def memory (s : Schedule) : List (Lookup × Answer) :=
  s.known.map fun k => (k.1, ((s.endingOf k.2).getD .withdrawn).answer)

end Schedule

end QuadPull.Pull
