import Placement.Number.Double
import Placement.Text.WhiteSpace

/-!
# Numerals

Which texts are numbers: an optional sign, then digits with an optional point among or around them
and an optional exponent, or one of the words `inf` and `infinity` in any case. White space may
come before a number but not after it. The word `nan` is a numeral of the same grammar but names no
number, so a text that reads `nan` is not one.
-/

namespace Placement

namespace Number

/-- Split off a sign. True means minus. -/
def splitSign : Text → Bool × Text
  | '-' :: rest => (true, rest)
  | '+' :: rest => (false, rest)
  | rest => (false, rest)

/-- The digits that begin a text, and the rest. -/
def splitDigits (t : Text) : Text × Text := (t.takeWhile Char.isDigit, t.dropWhile Char.isDigit)

/-- The digits after a point, if there is a point, and the rest. -/
def splitFraction : Text → Text × Text
  | '.' :: rest => splitDigits rest
  | rest => ([], rest)

/-- Digits and nothing else, at least one. -/
def digits? (t : Text) : Option Nat :=
  if !t.isEmpty && t.all Char.isDigit then some (Text.toNatBase 10 t) else none

/-- What may follow the digits: nothing, or an exponent. -/
def exponent? : Text → Option Int
  | [] => some 0
  | c :: rest =>
    if c == 'e' || c == 'E' then
      let (negative, ds) := splitSign rest
      (digits? ds).map fun n ↦ if negative then -(n : Int) else n
    else none

/-- A number without its sign. -/
def magnitude? (negative : Bool) (t : Text) : Option Number :=
  let word := t.lower
  if word == "inf".toList || word == "infinity".toList then some (infinite negative)
  else
    let (whole, afterWhole) := splitDigits t
    let (fraction, afterFraction) := splitFraction afterWhole
    let digits := (whole ++ fraction).dropWhile (· == '0')
    if whole.isEmpty && fraction.isEmpty then none
    else (exponent? afterFraction).map fun e ↦
      ofDecimal negative (Text.toNatBase 10 digits) digits.length (e - fraction.length)

/-- The number that a text writes, if it writes one. -/
def ofText? (t : Text) : Option Number :=
  let (negative, rest) := splitSign (t.dropWhile isWhiteSpace)
  magnitude? negative rest

end Number

end Placement
