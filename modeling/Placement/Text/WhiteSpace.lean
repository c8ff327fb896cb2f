import Placement.Text.Basic

/-!
# White space

The Unicode property White_Space, which numbers, property names and session commands are trimmed
of. It is wider than the four blanks of the constraint language: a no-break space belongs to a
literal, yet is dropped around a session command.
-/

namespace Placement

/-- The characters with the property White_Space, as ranges of code points. -/
def whiteSpaceRanges : List (Nat × Nat) :=
  [(0x9, 0xD), (0x20, 0x20), (0x85, 0x85), (0xA0, 0xA0), (0x1680, 0x1680), (0x2000, 0x200A),
    (0x2028, 0x2029), (0x202F, 0x202F), (0x205F, 0x205F), (0x3000, 0x3000)]

/-- The Unicode property White_Space. -/
def isWhiteSpace (c : Char) : Bool := inRanges whiteSpaceRanges c

/-- The text without the white space around it. -/
def Text.trimSpace (t : Text) : Text := t.trim isWhiteSpace

end Placement
