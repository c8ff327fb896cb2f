import Placement.Environment
import Placement.Json.Quoted
import Placement.Value

/-!
# Flat JSON objects

Environments and values are the two things written as JSON, both as one object whose members are
strings or truth values. An environment is an object of strings in its own order; a value is an
object with a single member named for its sort.

Reading is strict: blanks may stand between the parts, and nothing else may stand around them.
-/

namespace Placement

namespace Json

/-- What a member may hold. -/
inductive Scalar
  | string (text : Text)
  | boolean (b : Bool)
  deriving DecidableEq, Repr

/-! ## Writing -/

def Scalar.encode : Scalar → Text
  | string text => encodeString text
  | boolean b => .ofBool b

/-- A member: its name, a colon and its content. -/
def encodeMember (member : Text × Scalar) : Text :=
  encodeString member.1 ++ [':'] ++ member.2.encode

/-- An object, without blanks. -/
def encodeObject (members : List (Text × Scalar)) : Text :=
  ['\x7b'] ++ Text.join [','] (members.map encodeMember) ++ ['\x7d']

/-! ## Reading -/

/-- The text without the blanks before it. -/
def skip (t : Text) : Text := t.dropWhile isBlank

/-- Read the content of a member. -/
def readScalar : Text → Option (Scalar × Text)
  | 't' :: 'r' :: 'u' :: 'e' :: rest => some (.boolean true, rest)
  | 'f' :: 'a' :: 'l' :: 's' :: 'e' :: rest => some (.boolean false, rest)
  | t => (readString t).map fun (s, rest) ↦ (.string s, rest)

/-- Read a member. -/
def readMember (t : Text) : Option ((Text × Scalar) × Text) :=
  (readString t).bind fun (name, rest) ↦
    match skip rest with
    | ':' :: rest => (readScalar (skip rest)).map fun (content, rest) ↦ ((name, content), rest)
    | _ => none

theorem length_skip_le (t : Text) : (skip t).length ≤ t.length :=
  (List.dropWhile_sublist isBlank).length_le

theorem length_readScalar {t rest : Text} {x : Scalar} (h : readScalar t = some (x, rest)) :
    rest.length < t.length := by
  unfold readScalar at h
  split at h
  · cases h
    simp only [List.length_cons]
    omega
  · cases h
    simp only [List.length_cons]
    omega
  · obtain ⟨⟨s, r⟩, hs, heq⟩ := Option.map_eq_some_iff.1 h
    cases heq
    exact length_readString hs

theorem length_readMember {t rest : Text} {m : Text × Scalar} (h : readMember t = some (m, rest)) :
    rest.length < t.length := by
  obtain ⟨⟨name, u⟩, hname, h⟩ := Option.bind_eq_some_iff.1 h
  have h₁ := length_readString hname
  dsimp only at h
  split at h
  · next v hv =>
    obtain ⟨⟨x, r⟩, hx, heq⟩ := Option.map_eq_some_iff.1 h
    cases heq
    have h₂ := length_readScalar hx
    have h₃ := length_skip_le v
    have h₄ := length_skip_le u
    rw [hv, List.length_cons] at h₄
    simp only
    omega
  · cases h

/-- Read the members of an object up to its closing brace, and return what follows it. -/
def readMembers (t : Text) : Option (List (Text × Scalar) × Text) :=
  match _h : readMember t with
  | none => none
  | some (m, rest) =>
    match _hrest : skip rest with
    | ',' :: more => (readMembers (skip more)).map fun (ms, rest) ↦ (m :: ms, rest)
    | '\x7d' :: rest => some ([m], rest)
    | _ => none
termination_by t.length
decreasing_by
  have h₁ := length_readMember _h
  have h₂ := length_skip_le rest
  rw [_hrest, List.length_cons] at h₂
  have h₃ := length_skip_le more
  omega

/-- The members of the object that a text writes. -/
def decodeObject (t : Text) : Option (List (Text × Scalar)) :=
  match skip t with
  | '\x7b' :: rest =>
    let read := match skip rest with
      | '\x7d' :: rest => some ([], rest)
      | rest => readMembers rest
    read.bind fun (members, rest) ↦ if (skip rest).isEmpty then some members else none
  | _ => none

end Json

/-! ## Environments -/

namespace Environment

/-- The environment as an object of strings, in its own order. -/
def toJson (e : Environment) : Text :=
  Json.encodeObject (e.entries.map fun (name, value) ↦ (name, .string value))

/-- A member that holds a string, as a property. -/
def ofMember? : Text × Json.Scalar → Option (Text × Text)
  | (name, .string value) => some (name, value)
  | (_, .boolean _) => none

/-- The environment that an object of strings defines, member after member. -/
def ofJson? (t : Text) : Option Environment :=
  (Json.decodeObject t).bind fun members ↦ (members.mapM ofMember?).map ofList

end Environment

/-! ## Values -/

namespace Value

/-- The member name of the literals. -/
def literalTag : Text := "Literal".toList

/-- The member name of the truth values. -/
def booleanTag : Text := "Boolean".toList

/-- The value as an object with one member. -/
def toJson : Value → Text
  | literal text => Json.encodeObject [(literalTag, .string text)]
  | boolean b => Json.encodeObject [(booleanTag, .boolean b)]

/-- The value that an object with one member writes. -/
def ofJson? (t : Text) : Option Value :=
  match Json.decodeObject t with
  | some [(tag, .string text)] => if tag = literalTag then some (literal text) else none
  | some [(tag, .boolean b)] => if tag = booleanTag then some (boolean b) else none
  | _ => none

end Value

end Placement
