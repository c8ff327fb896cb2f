import Placement.Compilation
import Placement.Evaluation

/-!
# Errors of the library

Compiling, evaluating and reading identifiers each have their own errors; this type is their union.
It adds no wording of its own.
-/

namespace Placement

/-- An error of any part of the library. -/
inductive ConstraintError
  | parse (error : ParseError)
  | eval (error : EvalError)
  | uri (error : UriError)
  deriving DecidableEq, Repr

namespace ConstraintError

/-- The wording of an error. -/
def message : ConstraintError → Text
  | parse e => e.message
  | eval e => e.message
  | uri e => e.message

/-- The wording of an error, then that of each cause behind it. -/
def chain (e : ConstraintError) : List Text :=
  e.message :: match e with
    | uri e => e.causes
    | _ => []

end ConstraintError

end Placement
