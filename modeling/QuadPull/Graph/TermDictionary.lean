import QuadPull.Error
import QuadPull.Graph.TermId
import QuadPull.Keyed
/-!
Dictionaries of terms (`TermDictionary`): every term that was taken in keeps one identifier, the next of
its kind.
-/

namespace QuadPull

structure TermDictionary where
  /-- The payload that the next term of a kind gets. The first is not zero, so that no term has the
  identifier of the default graph. -/
  next : TermKind → Nat := fun _ => 1
  ids : List (Term × TermId) := []
  terms : List (TermId × Term) := []

namespace TermDictionary

def count (d : TermDictionary) (k : TermKind) : Nat :=
  d.ids.countP fun e => e.1.kind? = some k

def id? (d : TermDictionary) (t : Term) : Option TermId :=
  if t = .defaultGraph then some TermId.defaultGraph else Keyed.get? Term.settled d.ids t

def find (d : TermDictionary) (t : Term) : Except Error (Option TermId) :=
  if t.hashable then .ok (d.id? t) else .error .wrongKind

def term? (d : TermDictionary) (n : TermId) : Option Term :=
  if n = TermId.defaultGraph then some .defaultGraph else Keyed.get? id d.terms n

def allocate (d : TermDictionary) (k : TermKind) : TermId × TermDictionary :=
  let payload := d.next k
  (TermId.make k payload, { d with next := fun l => if l = k then payload + 1 else d.next l })

/-- Takes a term in (`get_or_create`), unless it is there or is none that can be stored. -/
def intern (d : TermDictionary) (t : Term) : Except Error TermId × TermDictionary :=
  if !t.hashable then (.error .wrongKind, d)
  else
    match d.id? t with
    | some n => (.ok n, d)
    | none =>
      match t.kind? with
      | none => (.error (.unstorable t), d)
      | some k =>
        let (n, d) := d.allocate k
        (.ok n, { d with ids := Keyed.put Term.settled d.ids t n, terms := Keyed.put id d.terms n t })

def size (d : TermDictionary) : Nat := d.terms.length

def contains (d : TermDictionary) (t : Term) : Bool := (Keyed.get? Term.settled d.ids t).isSome

end TermDictionary

end QuadPull
