import Placement.Url.Ipv4

/-!
# Version 6 addresses

Eight pieces of up to four hexadecimal digits between colons. Once, two colons stand for as many
zero pieces as are missing, at least one; and the last two pieces may be written as a dotted quad.
Addresses are always written back in hexadecimal, the first longest run of two or more zero pieces
as two colons.
-/

namespace Placement

namespace Ipv6

/-! ## Reading -/

/-- Pieces read so far, newest first, and how many of them stand before the two colons. -/
structure Partial where
  pieces : List Nat
  gap : Option Nat

namespace Partial

/-- Add a piece. -/
def push (p : Partial) (piece : Nat) : Partial := { p with pieces := piece :: p.pieces }

/-- Add two colons. They stand for one zero piece at least. -/
def openGap (p : Partial) : Partial := ⟨0 :: p.pieces, some (p.pieces.length + 1)⟩

/-- The eight pieces, the gap filled with zeros. -/
def complete (p : Partial) : Option (List Nat) :=
  let pieces := p.pieces.reverse
  match p.gap with
  | none => if pieces.length = 8 then some pieces else none
  | some g => some (pieces.take g ++ List.replicate (8 - pieces.length) 0 ++ pieces.drop g)

end Partial

/-- The hexadecimal digits, at most four, that begin a text. -/
def leadingPiece (t : Text) : Text := (t.take 4).takeWhile Text.isHexDigit

/-- Read the pieces of a text, the ones before it being known. -/
def readPieces (t : Text) (p : Partial) : Option Partial :=
  if t.isEmpty then some p
  else if p.pieces.length = 8 then none
  else
    let ds := leadingPiece t
    let piece := Text.toNatBase 16 ds
    match _h : t.drop ds.length with
    | [] => some (p.push piece)
    | ':' :: more =>
      if ds.isEmpty then
        if p.gap.isSome then none else readPieces more p.openGap
      else if more.isEmpty then none
      else readPieces more (p.push piece)
    | '.' :: _ =>
      if ds.isEmpty || p.pieces.length > 6 then none
      else (Ipv4.quad? t).map fun (a, b, c, d) ↦ (p.push (256 * a + b)).push (256 * c + d)
    | _ => none
termination_by t.length
decreasing_by
  all_goals
    have := congrArg List.length _h
    simp only [List.length_drop, List.length_cons] at this
    omega

/-- Read an address, without the brackets around it. -/
def ofText? (t : Text) : Option (List Nat) :=
  let read := match t with
    | ':' :: ':' :: rest => readPieces rest (Partial.mk [] none).openGap
    | ':' :: _ => none
    | t => readPieces t ⟨[], none⟩
  read.bind Partial.complete

/-! ## Writing -/

/-- How many zero pieces there are from a place on. -/
def zerosFrom (pieces : List Nat) (i : Nat) : Nat := ((pieces.drop i).takeWhile (· == 0)).length

/-- Where the first longest run of zero pieces begins. -/
def longestZeros (pieces : List Nat) : Nat :=
  (List.range pieces.length).foldl
    (fun best i ↦ if zerosFrom pieces best < zerosFrom pieces i then i else best) 0

/-- Pieces in hexadecimal, with colons between them. -/
def renderPieces (pieces : List Nat) : Text := Text.join [':'] (pieces.map (Nat.toDigits 16))

/-- The written form, without brackets. -/
def render (pieces : List Nat) : Text :=
  let i := longestZeros pieces
  let n := zerosFrom pieces i
  if n < 2 then renderPieces pieces
  else renderPieces (pieces.take i) ++ [':', ':'] ++ renderPieces (pieces.drop (i + n))

end Ipv6

end Placement
