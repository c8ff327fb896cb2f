import Placement.Url.Authority
import Placement.Url.Path

/-!
# Addresses

An address in normal form: scheme, authority, path, query and fragment. `Url.ofText` reads one
without a base address, `Url.render` writes it. Reading ignores controls and spaces at both ends
and every tab and line break inside; only in a file's path can it matter where one was, so the text
of a file's address is read with them.
-/

namespace Placement

/-- An address in normal form. -/
structure Url where
  /-- In small letters. -/
  scheme : Text
  authority : Option Authority
  path : Path
  query : Option Text
  fragment : Option Text
  deriving DecidableEq, Repr

namespace Url

/-- The path as it stands in the address. -/
def pathText (u : Url) : Text := u.path.render

/-- The authority as it stands in the address. -/
def authorityText (u : Url) : Option Text := u.authority.map Authority.render

/-- The whole address. Without an authority a path must not begin with two slashes, or it would
read as one; so `/.` is put before it. -/
def render (u : Url) : Text :=
  u.scheme ++ [':']
    ++ (match u.authorityText with
      | some a => ['/', '/'] ++ a
      | none => if ['/', '/'].isPrefixOf u.pathText then ['/', '.'] else [])
    ++ u.pathText
    ++ (match u.query with
      | some q => '?' :: q
      | none => [])
    ++ (match u.fragment with
      | some f => '#' :: f
      | none => [])

/-! ## Reading -/

/-- Controls and spaces, which are ignored around an address. -/
def isIgnoredAround (c : Char) : Bool := c.toNat ≤ 0x20

/-- Query and fragment of what follows a path. -/
def readTail (k : SchemeKind) (t : Text) : Option Text × Option Text :=
  let reserved := if k.isSpecial then Percent.isSpecialQueryReserved else Percent.isQueryReserved
  let fragmentOf : Text → Option Text
    | _ :: fragment => some (Percent.encode Percent.isFragmentReserved fragment)
    | [] => none
  match t with
  | '?' :: rest =>
    (some (Percent.encode reserved (rest.takeWhile (· != '#'))),
      fragmentOf (rest.dropWhile (· != '#')))
  | rest => (none, fragmentOf rest)

/-- Put an address together from its scheme, its authority and the segments that follow. -/
def ofSegments (k : SchemeKind) (scheme : Text) (authority : Option Authority) (t : Text) : Url :=
  let (written, tail) := Path.split t
  let (segments, dropsHost) := Path.ofWritten k written
  let (query, fragment) := readTail k (withoutIgnored tail)
  let authority := if dropsHost then some (.ofHost .empty) else authority
  ⟨scheme, authority, .segments segments, query, fragment⟩

/-- What follows a slash at the beginning of the text. -/
def afterSlash? (k : SchemeKind) (t : Text) : Option Text :=
  match t.dropWhile isIgnored with
  | c :: rest => if k.isSlash c then some rest else none
  | [] => none

/-- The text without a slash at its beginning, if there is one. -/
def dropSlash (k : SchemeKind) (t : Text) : Text := (afterSlash? k t).getD t

/-- What follows an authority. Only special schemes always have a path there. -/
def afterAuthority (k : SchemeKind) (scheme : Text) (authority : Authority) (t : Text) : Url :=
  if !k.isSpecial && (Path.split t).1.isEmpty then
    let (query, fragment) := readTail k t
    ⟨scheme, some authority, .segments [], query, fragment⟩
  else ofSegments k scheme (some authority) (dropSlash k t)

/-- An address with an authority. -/
def readAuthority (k : SchemeKind) (scheme t : Text) : Except UrlError Url := do
  let (authority, rest) ← Authority.read k t
  return afterAuthority k scheme authority rest

/-- An address of a scheme that is not special. -/
def readOther (scheme : Text) : Text → Except UrlError Url
  | '/' :: '/' :: rest => readAuthority .other scheme rest
  | '/' :: rest => .ok (ofSegments .other scheme none rest)
  | t =>
    let (written, tail) := Path.split t
    let (query, fragment) := readTail .other tail
    .ok ⟨scheme, none, .opaquePath (Percent.encode Percent.isControl written), query, fragment⟩

/-- The host of a file and what follows it. A drive letter is no host but the beginning of the
path, and `localhost` is the same as no host. -/
def readFileHost (t : Text) : Except UrlError (Host × Text) :=
  let written := withoutIgnored (t.takeWhile (!SchemeKind.file.endsAuthority ·))
  let after := t.dropWhile (!SchemeKind.file.endsAuthority ·)
  if Path.isDriveLetter written then .ok (.empty, t)
  else if written.isEmpty then .ok (.empty, after)
  else (Host.ofDomain written).map fun host ↦
    (if host = .name "localhost".toList then .empty else host, after)

/-- An address of the scheme `file`. It always has an authority, whose host may be empty. -/
def readFile (scheme t : Text) : Except UrlError Url :=
  match (afterSlash? .file t).bind (afterSlash? .file) with
  | some rest => do
    let (host, after) ← readFileHost rest
    return ofSegments .file scheme (some (.ofHost host))
      (if host = .empty then after else dropSlash .file after)
  | none => .ok (ofSegments .file scheme (some (.ofHost .empty)) (dropSlash .file t))

/-- Read an address. -/
def ofText (t : Text) : Except UrlError Url :=
  match splitScheme? (Text.trim isIgnoredAround t) with
  | none => .error .missingScheme
  | some (scheme, rest) =>
    match SchemeKind.ofScheme scheme with
    | .file => readFile scheme rest
    | .special port =>
      readAuthority (.special port) scheme
        ((withoutIgnored rest).dropWhile ((SchemeKind.special port).isSlash ·))
    | .other => readOther scheme (withoutIgnored rest)

end Url

end Placement
