import Placement.Log.Event
import Placement.Number.Numeral
import Placement.Text.Alphanumeric

/-!
# Which events are logged

A filter is a list of directives, each a level for the targets that begin in a certain way. The
directive with the longest such beginning decides, the last of those with the same one; an event
that no directive covers is not logged.

A filter is written as directives separated by commas: a level alone, or a target, `=` and a level.
A target alone lets everything through.
-/

namespace Placement

/-- A level for some targets. -/
structure Directive where
  /-- What the targets begin with; nothing covers all targets. -/
  target : Text
  /-- The least important level logged, or none at all. -/
  threshold : Option LogLevel
  deriving DecidableEq, Repr

/-- Which events are logged. -/
structure LogFilter where
  directives : List Directive
  deriving DecidableEq, Repr

namespace Directive

/-- Whether the directive says anything about an event. -/
def covers (d : Directive) (e : LogEvent) : Bool := d.target.isPrefixOf e.target

/-- Whether the directive lets an event through that it covers. -/
def admits (d : Directive) (e : LogEvent) : Bool :=
  d.threshold.any fun level ↦ level.rank ≤ e.level.rank

/-- Of two directives the one that decides. -/
def moreSpecific (d d' : Directive) : Directive :=
  if d.target.length ≤ d'.target.length then d' else d

/-! ## Reading -/

/-- The level of a number: 0 names none, 1 the most important, 5 the least. -/
def thresholdOfNat? : Nat → Option (Option LogLevel)
  | 0 => some none
  | 1 => some (some .error)
  | 2 => some (some .warn)
  | 3 => some (some .info)
  | 4 => some (some .debug)
  | 5 => some (some .trace)
  | _ => none

/-- The level of a word, in any case; `off` names none. -/
def thresholdOfWord? (t : Text) : Option (Option LogLevel) :=
  let word := String.ofList t.lower
  if word == "off" then some none
  else if word == "error" then some (some .error)
  else if word == "warn" then some (some .warn)
  else if word == "info" then some (some .info)
  else if word == "debug" then some (some .debug)
  else if word == "trace" then some (some .trace)
  else none

/-- The number that digits write, possibly after a plus. -/
def number? : Text → Option Nat
  | '+' :: rest => Number.digits? rest
  | t => Number.digits? t

/-- The level that a number or a word names. -/
def threshold? (t : Text) : Option (Option LogLevel) :=
  match number? t with
  | some n => thresholdOfNat? n
  | none => thresholdOfWord? t

/-- What a directive may begin with. -/
def canBegin (c : Char) : Bool := isAlphanumeric c || c == '-' || c == ':' || c == '_'

/-- Read a directive. -/
def ofText? (t : Text) : Option Directive :=
  if !t.head?.any canBegin then none
  else
    match t.splitAtFirst (· == '=') with
    | some (target, []) => some ⟨target, some .trace⟩
    | some (target, level) => (threshold? level).map fun threshold ↦ ⟨target, threshold⟩
    | none =>
      match threshold? t with
      | some threshold => some ⟨[], threshold⟩
      | none => some ⟨t, some .trace⟩

end Directive

namespace LogFilter

/-- Whether an event is logged. -/
def admits (f : LogFilter) (e : LogEvent) : Bool :=
  match f.directives.filter (·.covers e) with
  | [] => false
  | d :: ds => (ds.foldl Directive.moreSpecific d).admits e

/-- Read a filter. Without any directive errors alone are logged. -/
def ofText? (t : Text) : Option LogFilter :=
  (((t.pieces (· == ',')).filter (!·.isEmpty)).mapM Directive.ofText?).map fun directives ↦
    ⟨if directives.isEmpty then [⟨[], some .error⟩] else directives⟩

/-- The filter of a run that sets none: warnings, or more if the run is verbose, and everything
from the library if it traces. -/
def ofFlags (verbose trace : Bool) : LogFilter :=
  ⟨⟨[], some (if verbose then .debug else .warn)⟩ ::
    if trace then [⟨rootTarget, some .trace⟩] else []⟩

/-- The filter of a run: the one set for it if it can be read, else the one of its flags. -/
def choose (setting : Option Text) (verbose trace : Bool) : LogFilter :=
  (setting.bind ofText?).getD (ofFlags verbose trace)

end LogFilter

end Placement
