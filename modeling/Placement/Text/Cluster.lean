import Placement.Text.ClusterRole

/-!
# Clusters

A text of one line cut into what a reader takes for its characters. Whether a character continues a
cluster depends on the cluster alone and never on what is before it, so the cut is one walk from the
left that carries the roles in the current cluster, the latest first.
-/

namespace Placement

namespace ClusterRole

/-- Whether these two neighbours belong to one Hangul syllable. -/
def sameSyllable : ClusterRole → ClusterRole → Bool
  | .leading, .leading | .leading, .vowel | .leading, .openSyllable | .leading, .closedSyllable
  | .openSyllable, .vowel | .openSyllable, .trailing | .vowel, .vowel | .vowel, .trailing
  | .closedSyllable, .trailing | .trailing, .trailing => true
  | _, _ => false

/-- Whether the roles, the latest first, are those of a consonant and a linker after it, so that a
further consonant makes a conjunct. -/
def awaitsConsonant (latest : List ClusterRole) : Bool :=
  (latest.takeWhile insideConjunct).contains .linker
    && (latest.dropWhile insideConjunct).head? == some .consonant

/-- Whether the roles, the latest first, are those of a pictograph and a joiner after it, so that a
further pictograph belongs to it. -/
def awaitsPictograph : List ClusterRole → Bool
  | .joiner :: earlier => (earlier.dropWhile insidePictograph).head? == some .pictograph
  | _ => false

/-- Whether the roles, the latest first, end in half a flag. -/
def awaitsRegional (latest : List ClusterRole) : Bool :=
  (latest.takeWhile (· == .regional)).length % 2 == 1

/-- Whether a character continues a cluster whose roles are given, the latest first. -/
def continues (latest : List ClusterRole) (next : ClusterRole) : Bool :=
  match latest with
  | [] | .control :: _ => false
  | last :: _ =>
    next != .control
      && (next.attaches || last == .prepended || sameSyllable last next
        || next == .consonant && awaitsConsonant latest
        || next == .pictograph && awaitsPictograph latest
        || next == .regional && awaitsRegional latest)

end ClusterRole

namespace Text

/-- The clusters of a text, where the first one has begun with the given characters, the latest
first. -/
def clustersFrom (current : List Char) : Text → List Text
  | [] => [current.reverse]
  | c :: rest =>
    if ClusterRole.continues (current.map .ofChar) (.ofChar c) then clustersFrom (c :: current) rest
    else current.reverse :: clustersFrom [c] rest

/-- The clusters of a text. -/
def clusters : Text → List Text
  | [] => []
  | c :: rest => clustersFrom [c] rest

end Text

end Placement
