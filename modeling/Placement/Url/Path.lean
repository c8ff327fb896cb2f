import Placement.Url.Percent
import Placement.Url.Scheme

/-!
# Paths

A path is opaque, or it is a list of segments with a slash before each. Dot segments are resolved
while the segments are taken in one after another: `.` adds nothing, `..` takes the segment before
it away. A segment that is a Windows drive letter is never taken away.

Paths of the scheme `file` get three more rules. A first segment that is a drive letter is written
with a colon and drops the host. A first segment that goes on behind a drive letter and something
ignored is cut there, and the part behind is taken as it stands. Empty segments at the beginning are
dropped.

The second rule is why segments are taken in as written, with what is ignored still in them.
-/

namespace Placement

/-- A path as it is kept. -/
inductive Path
  | opaquePath (text : Text)
  | segments (segments : List Text)
  deriving DecidableEq, Repr

namespace Path

/-- The path as it stands in an address. -/
def render : Path → Text
  | opaquePath text => text
  | segments ss => ss.flatMap ('/' :: ·)

/-! ## Segments of a special form -/

/-- A segment with `%2e` in any case read as a dot. -/
def undotted : Text → Text
  | '%' :: '2' :: 'e' :: rest => '.' :: undotted rest
  | '%' :: '2' :: 'E' :: rest => '.' :: undotted rest
  | c :: rest => c :: undotted rest
  | [] => []

/-- A segment that stands for this place. -/
def isSingleDot (segment : Text) : Bool := undotted segment == ['.']

/-- A segment that stands for the place above. -/
def isDoubleDot (segment : Text) : Bool := undotted segment == ['.', '.']

/-- A Windows drive letter: a letter and `:` or `|`. -/
def isDriveLetter : Text → Bool
  | [c, d] => c.isAlpha && (d == ':' || d == '|')
  | _ => false

/-- A drive letter, alone or with a backslash behind it. -/
def isDrive (segment : Text) : Bool :=
  isDriveLetter (segment.take 2) && (segment.length == 2 || segment[2]? == some '\\')

/-- The drive letter at the beginning of a written segment and what is behind it, if something
ignored stands between them. -/
def cutBehindDrive? (written : Text) : Option (Text × Text) :=
  match written.dropWhile isIgnored with
  | [] => none
  | c :: rest =>
    match rest.dropWhile isIgnored with
    | ':' :: d :: behind =>
      if c.isAlpha && isIgnored d && !(withoutIgnored behind).isEmpty then
        some ([c, ':'], withoutIgnored behind)
      else none
    | _ => none

/-- A segment as it is kept: without what is ignored, and encoded. -/
def encodeSegment (written : Text) : Text :=
  Percent.encode Percent.isPathReserved (withoutIgnored written)

/-! ## Resolving -/

/-- The segments taken in so far, newest first, and whether a drive letter has dropped the host. -/
structure Partial where
  done : List Text
  dropsHost : Bool

namespace Partial

/-- Take the newest segment away, unless it is a drive. -/
def up (p : Partial) : Partial :=
  match p.done with
  | [] => p
  | segment :: below => if isDrive segment then p else { p with done := below }

/-- Take in a segment that is no dot segment. -/
def push (k : SchemeKind) (p : Partial) (segment : Text) : Partial :=
  if k = .file ∧ p.done = [] ∧ isDriveLetter segment then ⟨[segment.take 1 ++ [':']], true⟩
  else { p with done := segment :: p.done }

/-- Where a written segment is to be cut: behind a drive letter that begins a file's path. -/
def cut? (k : SchemeKind) (p : Partial) (written : Text) : Option (Text × Text) :=
  if k = .file ∧ p.done = [] then cutBehindDrive? written else none

/-- Take in a segment that is not cut. A dot segment at the end leaves an empty one. -/
def take (k : SchemeKind) (p : Partial) (segment : Text) (isLast : Bool) : Partial :=
  if isDoubleDot segment then
    if isLast then { p.up with done := [] :: p.up.done } else p.up
  else if isSingleDot segment then
    if isLast then { p with done := [] :: p.done } else p
  else p.push k segment

/-- Take in written segments one after another. -/
def resolve (k : SchemeKind) (p : Partial) : List Text → Partial
  | [] => p
  | written :: rest =>
    match p.cut? k written with
    | some (drive, behind) =>
      resolve k { p with done := encodeSegment behind :: drive :: p.done } rest
    | none => resolve k (p.take k (encodeSegment written) rest.isEmpty) rest

end Partial

/-- Drop empty segments at the beginning, but keep one segment. -/
def dropLeadingEmpty : List Text → List Text
  | [] :: segment :: rest => dropLeadingEmpty (segment :: rest)
  | ss => ss

/-- The segments of a path as written, without its first slash, encoded and resolved; and whether a
drive letter has dropped the host. -/
def ofWritten (k : SchemeKind) (t : Text) : List Text × Bool :=
  let p := Partial.resolve k ⟨[], false⟩ (t.pieces k.isSlash)
  (if k = .file then dropLeadingEmpty p.done.reverse else p.done.reverse, p.dropsHost)

/-- The path, up to a query or fragment, and the rest. -/
def split (t : Text) : Text × Text :=
  (t.takeWhile (!SchemeKind.endsPath ·), t.dropWhile (!SchemeKind.endsPath ·))

end Path

end Placement
