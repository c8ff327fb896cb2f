import Placement.Url.Host

/-!
# Authorities

What stands between `//` and the path: optionally a user with a password and `@`, then the host,
then optionally a port. The last `@` ends the user, the first colon in it begins the password, and
the first colon outside brackets begins the port.
-/

namespace Placement

/-- An authority as it is kept. -/
structure Authority where
  /-- User and password, encoded, with the colon between them if there is a password. Empty if
  there is no `@`. -/
  credentials : Text
  host : Host
  port : Option Nat
  deriving DecidableEq, Repr

namespace Authority

/-- A host alone. -/
def ofHost (host : Host) : Authority := ⟨[], host, none⟩

/-- The authority as it stands in an address. -/
def render (a : Authority) : Text :=
  (if a.credentials.isEmpty then [] else a.credentials ++ ['@']) ++ a.host.render
    ++ (match a.port with
      | some port => ':' :: Text.ofNat port
      | none => [])

/-! ## User and password -/

/-- What stands before and after the last `@`. -/
def splitCredentials (t : Text) : Option (Text × Text) :=
  (Text.splitAtFirst (· == '@') t.reverse).map fun (after, before) ↦
    (before.reverse, after.reverse)

/-- User and password, encoded. An empty password is left out together with its colon. -/
def encodeCredentials (t : Text) : Text :=
  match t.splitAtFirst (· == ':') with
  | none => Percent.encode Percent.isUserReserved t
  | some (user, password) =>
    Percent.encode Percent.isUserReserved user
      ++ (if password.isEmpty then [] else ':' :: Percent.encode Percent.isUserReserved password)

/-! ## Host and port -/

/-- The host, and what follows from the first colon outside brackets on. -/
def splitHost (inBrackets : Bool) : Text → Text × Text
  | [] => ([], [])
  | c :: rest =>
    if c = ':' ∧ !inBrackets then ([], c :: rest)
    else
      let inBrackets := if c = '[' then true else if c = ']' then false else inBrackets
      let (host, after) := splitHost inBrackets rest
      (c :: host, after)

/-- The highest port. -/
def maxPort : Nat := 65535

/-- Read a port. A backslash ends it, and is handed back with what follows. -/
def readPort (k : SchemeKind) (t : Text) : Except UrlError (Option Nat × Text) :=
  let ds := t.takeWhile Char.isDigit
  let after := t.dropWhile Char.isDigit
  let port := Text.toNatBase 10 ds
  if maxPort < port then .error .invalidPort
  else if after.isEmpty || after.head? = some '\\' then
    .ok (if ds.isEmpty || some port = k.defaultPort? then none else some port, after)
  else .error .invalidPort

/-- Read host and port. An empty host has no port, and special schemes have no empty host. -/
def readHostPort (k : SchemeKind) (t : Text) : Except UrlError (Host × Option Nat × Text) := do
  let (written, after) := splitHost false t
  if k.isSpecial && written.isEmpty then throw .emptyHost
  let host ← if k.isSpecial then Host.ofDomain written else Host.ofOpaque written
  match after with
  | ':' :: digits =>
    if host = .empty then throw .emptyHost
    let (port, rest) ← readPort k digits
    return (host, port, rest)
  | _ => return (host, none, after)

/-- Read an authority, and return it with what follows it. -/
def read (k : SchemeKind) (t : Text) : Except UrlError (Authority × Text) := do
  let written := t.takeWhile (!k.endsAuthority ·)
  let after := t.dropWhile (!k.endsAuthority ·)
  if written = ['@'] && !after.isEmpty then throw .emptyHost
  let (user, hostPort) := (splitCredentials written).getD ([], written)
  let credentials := encodeCredentials user
  let (host, port, rest) ← readHostPort k hostPort
  if host = .empty && !credentials.isEmpty then throw .emptyHost
  return (⟨credentials, host, port⟩, rest ++ after)

end Authority

end Placement
