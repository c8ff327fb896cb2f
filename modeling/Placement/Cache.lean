import Placement.ConstraintError

/-!
# A cache of compiled constraints

The same few constraints are evaluated over and over, so compiled ones are kept under their text
and handed out shared. Two objects are the same if their identities are: every compilation that is
kept gets an identity never given before. Texts that do not compile are not kept.
-/

namespace Placement

/-- A compiled constraint with an identity. -/
structure Shared where
  id : Nat
  expression : Expression
  deriving DecidableEq, Repr

/-- Compiled constraints by text. -/
structure Cache where
  entries : List (Text × Shared)
  /-- The identity of the next constraint to be kept. -/
  nextId : Nat
  deriving DecidableEq, Repr

namespace Cache

def empty : Cache := ⟨[], 0⟩

/-- The constraint kept for a text. -/
def get? (c : Cache) (text : Text) : Option Shared := c.entries.lookup text

/-- Whether a constraint is kept for a text. -/
def contains (c : Cache) (text : Text) : Bool := (c.get? text).isSome

/-- How many constraints are kept. -/
def size (c : Cache) : Nat := c.entries.length

def isEmpty (c : Cache) : Bool := c.entries.isEmpty

/-- Keep a constraint for a text that has none. -/
def insert (c : Cache) (text : Text) (e : Expression) : Shared × Cache :=
  let shared := ⟨c.nextId, e⟩
  (shared, ⟨(text, shared) :: c.entries, c.nextId + 1⟩)

/-- The constraint kept for a text, compiled and kept now if there was none. -/
def getOrBuild (c : Cache) (text : Text) : Except ParseError Shared × Cache :=
  match c.get? text with
  | some shared => (.ok shared, c)
  | none =>
    match compile text with
    | .error e => (.error e, c)
    | .ok e =>
      let (shared, c) := c.insert text e
      (.ok shared, c)

/-- Keep nothing for a text any more, and tell whether something was kept. -/
def invalidate (c : Cache) (text : Text) : Bool × Cache :=
  (c.contains text, { c with entries := c.entries.filter (·.1 ≠ text) })

/-- Keep nothing any more. -/
def clear (c : Cache) : Cache := { c with entries := [] }

/-- Whether a constraint is satisfied, compiled through the cache; with what is left of the
environment. -/
def satisfied (c : Cache) (text : Text) (role : Role) (env : Environment) :
    Except ConstraintError Bool × Environment × Cache :=
  match c.getOrBuild text with
  | (.error e, c) => (.error (.parse e), env, c)
  | (.ok shared, c) =>
    let (verdict, remaining) := shared.expression.satisfied role env
    (verdict.mapError .eval, remaining, c)

end Cache

end Placement
