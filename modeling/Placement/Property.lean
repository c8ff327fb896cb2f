import Placement.Text.WhiteSpace

/-!
# Properties as they are typed

A property is typed as its name, `=` and its value. The first `=` is the one that counts, the name
loses the white space around it, and the value is taken as it is.
-/

namespace Placement

/-- Why a text is no property. -/
inductive PropertyError
  | missingEquals (text : Text)
  | emptyName (text : Text)
  deriving DecidableEq, Repr

/-- The wording of an error. -/
def PropertyError.message : PropertyError → Text
  | missingEquals text => "expected NAME=VALUE, got `".toList ++ text ++ ['`']
  | emptyName text => "property name is empty in `".toList ++ text ++ ['`']

/-- Name and value of a property. -/
def readProperty (t : Text) : Except PropertyError (Text × Text) :=
  match t.splitAtFirst (· == '=') with
  | none => .error (.missingEquals t)
  | some (before, value) =>
    let name := Text.trimSpace before
    if name.isEmpty then .error (.emptyName t) else .ok (name, value)

end Placement
