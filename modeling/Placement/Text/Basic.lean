/-!
# Texts

Everything this library reads or writes is a `Text`: a list of characters. Lists are what the
readers recurse on and what the laws about them speak of; positions, on the other hand, are counted
in bytes of the UTF-8 form, which `byteLength` measures and `dropBytes` walks.

Cutting is always by a predicate on characters. `splitAtFirst` is the one primitive, and the
trimming functions are `dropWhile` at either end.
-/

namespace Placement

/-- A text, as the list of its characters. -/
abbrev Text := List Char

/-- The four blanks that the constraint language and its addresses ignore: space, tab, carriage
return and line feed. -/
def isBlank (c : Char) : Bool :=
  c == ' ' || c == '\t' || c == '\r' || c == '\n'

/-- Whether a character lies in one of some ranges of code points. The tables of the Unicode
properties are such ranges. -/
def inRanges (ranges : List (Nat × Nat)) (c : Char) : Bool :=
  ranges.any fun (first, last) ↦ first ≤ c.toNat && c.toNat ≤ last

namespace Text

/-! ## Trimming -/

/-- Drop the characters of `p` from the end. -/
def trimEnd (p : Char → Bool) (t : Text) : Text :=
  (t.reverse.dropWhile p).reverse

/-- Drop the characters of `p` from both ends. -/
def trim (p : Char → Bool) (t : Text) : Text :=
  trimEnd p (t.dropWhile p)

/-- The text without the blanks around it. -/
def trimBlanks (t : Text) : Text := t.trim isBlank

/-! ## Splitting and joining -/

/-- What stands before and after the first character of `p`, that character left out. -/
def splitAtFirst (p : Char → Bool) : Text → Option (Text × Text)
  | [] => none
  | c :: rest =>
    if p c then some ([], rest)
    else (splitAtFirst p rest).map fun (before, after) ↦ (c :: before, after)

/-- The pieces between the characters of `p`. There is always at least one, so that a text without
separators is one piece and the empty text is one empty piece. -/
def pieces (p : Char → Bool) : Text → List Text
  | [] => [[]]
  | c :: rest =>
    if p c then [] :: pieces p rest
    else match pieces p rest with
      | [] => [[c]]
      | piece :: more => (c :: piece) :: more

/-- The texts one after another with `separator` between neighbours. -/
def join (separator : Text) : List Text → Text
  | [] => []
  | [t] => t
  | t :: u :: more => t ++ separator ++ join separator (u :: more)

/-! ## Letters and digits -/

/-- The text with its ASCII capitals made small. -/
def lower (t : Text) : Text := t.map Char.toLower

/-- Equality up to the case of ASCII letters. -/
def sameLetters (t u : Text) : Bool := t.lower == u.lower

/-- The decimal digits of a natural number. -/
def ofNat (n : Nat) : Text := Nat.toDigits 10 n

/-- The word `true` or `false`. -/
def ofBool : Bool → Text
  | true => ['t', 'r', 'u', 'e']
  | false => ['f', 'a', 'l', 's', 'e']

/-- The value of an ASCII hexadecimal digit. -/
def hexValue? (c : Char) : Option Nat :=
  if '0' ≤ c ∧ c ≤ '9' then some (c.toNat - '0'.toNat)
  else if 'a' ≤ c ∧ c ≤ 'f' then some (c.toNat - 'a'.toNat + 10)
  else if 'A' ≤ c ∧ c ≤ 'F' then some (c.toNat - 'A'.toNat + 10)
  else none

/-- An ASCII hexadecimal digit, of either case. -/
def isHexDigit (c : Char) : Bool := (hexValue? c).isSome

/-- The number that digits of the given base write, most significant digit first. Characters that
are no hexadecimal digits count as zero; callers have checked their digits. -/
def toNatBase (base : Nat) (digits : Text) : Nat :=
  digits.foldl (fun n c ↦ n * base + (hexValue? c).getD 0) 0

/-! ## Bytes -/

/-- How many bytes the UTF-8 form of the text takes. -/
def byteLength (t : Text) : Nat := t.foldr (fun c n ↦ c.utf8Size + n) 0

/-- The text from a byte offset on. Offsets inside a character or past the end have none. -/
def dropBytes : Nat → Text → Option Text
  | 0, t => some t
  | _ + 1, [] => none
  | n + 1, c :: rest => if c.utf8Size ≤ n + 1 then dropBytes (n + 1 - c.utf8Size) rest else none

/-- The bytes of the UTF-8 form. -/
def toBytes (t : Text) : List UInt8 := t.flatMap String.utf8EncodeChar

@[simp] theorem byteLength_nil : byteLength [] = 0 := rfl

@[simp] theorem byteLength_cons (c : Char) (t : Text) :
    byteLength (c :: t) = c.utf8Size + byteLength t := rfl

@[simp] theorem byteLength_append (t u : Text) :
    byteLength (t ++ u) = byteLength t + byteLength u := by
  induction t with
  | nil => rw [List.nil_append, byteLength_nil, Nat.zero_add]
  | cons c t ih => rw [List.cons_append, byteLength_cons, byteLength_cons, ih, Nat.add_assoc]

end Text

end Placement
