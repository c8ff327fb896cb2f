import Placement.Text.Combining
import Placement.Text.Unprintable

/-!
# Invisible characters

Characters that cannot be made out when they stand alone: the unprintable ones, the marks, which
show only on the character before them, and the fillers, letters that stand for a missing part of a
syllable and are drawn as nothing. A quoted text shows them by their code points.

Two characters combine with the one before them and are visible all the same: the halfwidth sound
marks of katakana are letters and take a cell of their own.
-/

namespace Placement

/-- The letters among the characters with the property Default_Ignorable_Code_Point: the fillers
of the Hangul script, as ranges in order. -/
def fillerRanges : List (Nat × Nat) :=
  [(0x115F, 0x1160), (0x3164, 0x3164), (0xFFA0, 0xFFA0)]

/-- The letters among the characters with the property Grapheme_Extend: the halfwidth sound marks
of katakana. -/
def soundMarkRanges : List (Nat × Nat) := [(0xFF9E, 0xFF9F)]

/-- Whether a character is a mark: it combines with the one before it and is no letter. -/
def isMark (c : Char) : Bool := isCombining c && !inRanges soundMarkRanges c

/-- Whether a character shows nothing when it stands alone. ASCII is decided first. -/
def isInvisible (c : Char) : Bool :=
  if c.toNat < 0x7F then c.toNat < 0x20
  else isUnprintable c || isMark c || inRanges fillerRanges c

end Placement
