import QuadPull.Error

namespace QuadPull

inductive Edit where
  | add (quads : List Quad)
  | remove (quads : List Quad)
  /-- Quads to take in that come one after another, and the fault with which they end. -/
  | breakOff (quads : List Quad) (fault : Error)
  deriving DecidableEq, Repr

namespace Edit

/-- Makes edits in order, each where the one before has led. A failure ends the run with the target as
it is by then. -/
def run {γ : Type} (apply : γ → Edit → γ × Except Error Unit) :
    γ → List Edit → γ × Except Error Unit
  | target, [] => (target, .ok ())
  | target, edit :: rest =>
    match apply target edit with
    | (target, .ok ()) => run apply target rest
    | (target, .error e) => (target, .error e)

theorem run_append {γ : Type} (apply : γ → Edit → γ × Except Error Unit) (target : γ)
    (first rest : List Edit) :
    run apply target (first ++ rest) =
      match run apply target first with
      | (target, .ok ()) => run apply target rest
      | (target, .error e) => (target, .error e) := by
  induction first generalizing target with
  | nil => rfl
  | cons edit first ih =>
    simp only [List.cons_append, run]
    split
    · exact ih _
    · rfl

end Edit

end QuadPull
