import Placement.Text.Basic

/-!
# Schemes

An address begins with its scheme: a letter, then letters, digits, `+`, `-` and `.`, up to a colon.
Tabs and line breaks in it are ignored, as they are in the rest of an address.
A few schemes are special. They always have an authority, a backslash counts as a slash in them, and
their hosts are domain names or numbers; `file` among them has neither user nor port.
-/

namespace Placement

/-- How the rest of an address is read. -/
inductive SchemeKind
  | file
  | special (defaultPort : Nat)
  | other
  deriving DecidableEq, Repr

namespace SchemeKind

/-- The special schemes, with their default ports. -/
def defaultPorts : List (Text × Nat) :=
  [("http".toList, 80), ("ws".toList, 80), ("https".toList, 443), ("wss".toList, 443),
    ("ftp".toList, 21)]

/-- The kind of a scheme in small letters. -/
def ofScheme (scheme : Text) : SchemeKind :=
  if scheme = "file".toList then file
  else match defaultPorts.lookup scheme with
    | some port => special port
    | none => other

def isSpecial : SchemeKind → Bool
  | other => false
  | _ => true

/-- The port that is never written. -/
def defaultPort? : SchemeKind → Option Nat
  | special port => some port
  | _ => none

/-- The characters that separate path segments. -/
def isSlash (k : SchemeKind) (c : Char) : Bool := c == '/' || (k.isSpecial && c == '\\')

/-- The characters that end a path. -/
def endsPath (c : Char) : Bool := c == '?' || c == '#'

/-- The characters that end an authority. -/
def endsAuthority (k : SchemeKind) (c : Char) : Bool := k.isSlash c || endsPath c

end SchemeKind

/-! ## What is ignored -/

/-- Tabs and line breaks, which are ignored wherever they stand in an address. -/
def isIgnored (c : Char) : Bool := c == '\t' || c == '\n' || c == '\r'

/-- The text without what is ignored. -/
def withoutIgnored (t : Text) : Text := t.filter (!isIgnored ·)

/-! ## Reading -/

/-- A character of a scheme after its first. -/
def isSchemeChar (c : Char) : Bool := c.isAlphanum || c == '+' || c == '-' || c == '.'

/-- The scheme in small letters, and what follows its colon. -/
def splitScheme? (t : Text) : Option (Text × Text) := do
  let (written, rest) ← t.splitAtFirst (· == ':')
  match withoutIgnored written with
  | c :: cs => if c.isAlpha && cs.all isSchemeChar then some (Text.lower (c :: cs), rest) else none
  | [] => none

end Placement
