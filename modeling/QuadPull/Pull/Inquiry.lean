import QuadPull.Error
import QuadPull.Graph.Pattern
import QuadPull.Keyed
/-!
Inquiries: computations that ask a store for quads and go on with the answers. What an inquiry asks next
depends on the answers so far and on nothing else, so one inquiry may be put to any store.

An inquiry may make others together and wait for all of them. `pursue` says what comes of one, whatever
the order in which those take their turns: its finding, or every fault that ends a part of it.
-/

namespace QuadPull.Pull

structure Lookup where
  subject : Term
  predicate : Option Term
  deriving DecidableEq, Repr

def Lookup.settled (l : Lookup) : Lookup := ⟨l.subject.settled, l.predicate.map Term.settled⟩

def Lookup.hashable (l : Lookup) : Bool := l.subject.hashable && l.predicate.all Term.hashable

def Lookup.remembered? {α : Type} (l : Lookup) (memory : List (Lookup × α)) : Option α :=
  Keyed.get? Lookup.settled memory l

abbrev Answer := Except Error (List Quad)

/-- What an inquiry comes to: quads, or nothing when it rejects its subject. -/
abbrev Finding := Option (List Quad)

inductive Inquiry where
  | done (result : Except Error Finding)
  | ask (lookup : Lookup) (next : List Quad → Inquiry)
  /-- Makes several inquiries together (`_gather`) and goes on with what they find; an error of one ends
  it. -/
  | gather (parts : List Inquiry) (next : List Finding → Inquiry)

structure Faults where
  first : Error
  others : List Error := []

def Faults.toList (f : Faults) : List Error := f.first :: f.others

def Faults.collect {α : Type} : List (Except Faults α) → Except Faults (List α)
  | [] => .ok []
  | .ok a :: rest => (collect rest).map (a :: ·)
  | .error f :: rest =>
    match collect rest with
    | .ok _ => .error f
    | .error g => .error ⟨f.first, f.others ++ g.toList⟩

theorem Faults.collect_eq_ok {α : Type} {rs : List (Except Faults α)} {as : List α} :
    collect rs = .ok as ↔ rs = as.map .ok := by
  induction rs generalizing as with
  | nil => cases as <;> simp [collect]
  | cons r rs ih =>
    cases r with
    | ok a =>
      cases as with
      | nil => cases h : collect rs <;> simp [collect, h, Except.map]
      | cons b as =>
        cases h : collect rs with
        | ok bs => simp [collect, h, Except.map, ← @ih as]
        | error f => simp [collect, h, Except.map, ← @ih as]
    | error f =>
      cases as with
      | nil => cases h : collect rs <;> simp [collect, h]
      | cons b as => cases h : collect rs <;> simp [collect, h]

/-- What comes of an inquiry: the lookups that it makes, in the order of its parts, with their answers;
its finding or its faults; and the number of its steps. -/
structure Pursuit where
  asked : List (Lookup × Answer) := []
  outcome : Except Faults Finding
  steps : Nat := 1

namespace Inquiry

def failed (e : Error) : Except Faults Finding := .error { first := e }

mutual

def pursue (find : Lookup → Answer) : Inquiry → Pursuit
  | .done (.ok finding) => { outcome := .ok finding }
  | .done (.error e) => { outcome := failed e }
  | .ask l next =>
    match find l with
    | .ok quads =>
      let rest := (next quads).pursue find
      { rest with asked := (l, .ok quads) :: rest.asked, steps := rest.steps + 1 }
    | .error e => { asked := [(l, .error e)], outcome := failed e }
  | .gather parts next =>
    let made := pursueAll find parts
    let asked := made.flatMap (·.asked)
    let steps := made.foldl (fun n p => n + p.steps + 1) 1
    match Faults.collect (made.map (·.outcome)) with
    | .ok findings =>
      let rest := (next findings).pursue find
      { rest with asked := asked ++ rest.asked, steps := steps + rest.steps }
    | .error faults => { asked, outcome := .error faults, steps }

def pursueAll (find : Lookup → Answer) : List Inquiry → List Pursuit
  | [] => []
  | i :: rest => i.pursue find :: pursueAll find rest

end

def fetch (l : Lookup) : Inquiry := .ask l fun quads => .done (.ok (some quads))

def outcome (find : Lookup → Answer) (i : Inquiry) : Except Faults Finding := (i.pursue find).outcome

def demands (find : Lookup → Answer) (i : Inquiry) : List Lookup :=
  (i.pursue find).asked.map (·.1)

theorem pursueAll_eq_map (find : Lookup → Answer) (is : List Inquiry) :
    pursueAll find is = is.map (·.pursue find) := by
  induction is with
  | nil => rfl
  | cons i rest ih => rw [pursueAll, ih, List.map_cons]

end Inquiry

end QuadPull.Pull
