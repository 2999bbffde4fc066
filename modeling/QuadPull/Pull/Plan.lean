import QuadPull.Value.Equality
/-!
Plans and the filters of a level (`PullPlan.is_filter`, `filters`): the constraints that a subject must
meet to contribute anything.
-/

namespace QuadPull

namespace Spec

def isConstraint : Spec → Bool
  | .constraint .. => true
  | _ => false

def isBound : Spec → Bool
  | .constraint _ v => !v.isAbsent
  | _ => false

def constraint? : Spec → Option (Term × Value)
  | .constraint p v => some (p, v)
  | _ => none

end Spec

namespace Plan

def isFilter (plan : Plan) : Bool := !plan.isEmpty && plan.all Spec.isBound

/-- Whether a specifier is a filter of its level (`PullPlan.filters`): in strict mode every constraint is,
otherwise those of a level that filters. -/
def filtersBy (plan : Plan) (strict : Bool) (spec : Spec) : Bool :=
  if strict then spec.isConstraint else isFilter plan

def filters (plan : Plan) (strict : Bool) : Plan := plan.filter (filtersBy plan strict)

def isAmong (spec : Spec) : List Spec → Except Error Bool
  | [] => .ok false
  | other :: rest => do if ← other.equals spec then return true else isAmong spec rest

/-- Tells specifiers apart, as `spec not in filters` does: those before each are compared with it up to
its equal, which fails when two values have no comparison. -/
def tellApart : List Spec → List Spec → Except Error Unit
  | _, [] => .ok ()
  | before, spec :: rest => do
    let _ ← isAmong spec before
    tellApart (before ++ [spec]) rest

end Plan

end QuadPull
