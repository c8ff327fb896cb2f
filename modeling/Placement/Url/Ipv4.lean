import Placement.Text.Basic

/-!
# Version 4 addresses

Two forms are read. The strict one is a dotted quad: four decimal numbers up to 255 without
superfluous zeros. The lenient one, for hosts of special schemes, has one to four parts, each
decimal, octal after `0` or hexadecimal after `0x`, the last part filling all bytes that the others
leave; and a host is held to it as soon as its last label looks like a number.
-/

namespace Placement

namespace Ipv4

/-! ## The strict form -/

/-- A decimal number up to 255 without superfluous zeros. -/
def octet? (t : Text) : Option Nat :=
  let n := Text.toNatBase 10 t
  let wellWritten := t.all Char.isDigit && (t.length == 1 || t.head? != some '0')
  if !t.isEmpty && wellWritten && t.length ≤ 3 && n ≤ 255 then some n else none

/-- The four numbers of a dotted quad. -/
def quad? (t : Text) : Option (Nat × Nat × Nat × Nat) :=
  match t.pieces (· == '.') with
  | [a, b, c, d] => do return (← octet? a, ← octet? b, ← octet? c, ← octet? d)
  | _ => none

/-! ## The lenient form -/

/-- The base that the beginning of a number announces, and the digits after it. -/
def splitBase : Text → Nat × Text
  | '0' :: 'x' :: ds => (16, ds)
  | '0' :: 'X' :: ds => (16, ds)
  | '0' :: d :: ds => (8, d :: ds)
  | ds => (10, ds)

/-- A digit of the base. -/
def isDigitOf (base : Nat) (c : Char) : Bool := (Text.hexValue? c).any (· < base)

/-- A number in one of the three bases; `0x` alone is zero. -/
def number? (t : Text) : Option Nat :=
  let (base, ds) := splitBase t
  if !t.isEmpty && ds.all (isDigitOf base) then some (Text.toNatBase base ds) else none

/-- The parts of a host, a dot at the end not starting another one. -/
def parts (t : Text) : List Text :=
  let ps := t.pieces (· == '.')
  if ps.getLast? = some [] then ps.dropLast else ps

/-- Whether the last part is all digits, or a number in one of the bases. -/
def endsInNumber (t : Text) : Bool :=
  match (parts t).getLast? with
  | none => false
  | some part => !part.isEmpty && (part.all Char.isDigit || (number? part).isSome)

/-- The numbers of an address as one: all but the last fill a byte each. -/
def combine (ns : List Nat) : Option Nat :=
  match ns.reverse with
  | [] => none
  | last :: firsts =>
    let free := 4 - firsts.length
    if firsts.length ≤ 3 ∧ last < Nat.pow 256 free ∧ firsts.all (· < 256) then
      some (firsts.reverse.foldl (fun a n ↦ a * 256 + n) 0 * Nat.pow 256 free + last)
    else none

/-- Read the lenient form. -/
def ofText? (t : Text) : Option Nat := ((parts t).mapM number?).bind combine

/-- An address as a dotted quad. -/
def render (address : Nat) : Text :=
  Text.join ['.'] ([3, 2, 1, 0].map fun place ↦ .ofNat (address / Nat.pow 256 place % 256))

end Ipv4

end Placement
