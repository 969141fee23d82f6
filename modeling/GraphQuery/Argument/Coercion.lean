import GraphQuery.Argument.Kind
import GraphQuery.Failure

/-
This file turns declared texts into argument values.
-/

namespace GraphQuery.ArgumentKind

/-- A missing text is the null value of every kind. -/
def coerce (kind : ArgumentKind) (argument : String) : Option String → Except Failure Value
  | none => .ok .null
  | some text =>
    match kind.read? text with
    | some value => .ok value
    | none => .error (.notCoercible argument text kind)

end GraphQuery.ArgumentKind
