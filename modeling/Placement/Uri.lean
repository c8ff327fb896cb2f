import Placement.Url

/-!
# Hierarchical identifiers

An identifier is an address together with the text that wrote it. The text is kept for display and
must have complete escapes; everything else is asked of the address in normal form.

Two identifiers are equal when their addresses are, up to the case of the authority. One is above
another (`Uri.isPrefixOf`) when its path segments begin those of the other, in the same scheme and
authority. Order and hashing see the same `Uri.Key`.
-/

namespace Placement

/-- Why a text is no identifier. -/
inductive UriError
  | invalidScheme (text : Text)
  | invalidAuthority (text : Text) (cause : UrlError)
  | invalidPort (text : Text)
  | invalidEscape (text : Text)
  deriving DecidableEq, Repr

namespace UriError

/-- The error for an address that cannot be read. -/
def ofUrlError (text : Text) : UrlError → UriError
  | .missingScheme => invalidScheme text
  | .invalidPort => invalidPort text
  | cause => invalidAuthority text cause

/-- The wording of an error. -/
def message : UriError → Text
  | invalidScheme text => "missing or invalid scheme in `".toList ++ text ++ ['`']
  | invalidAuthority text cause =>
    "invalid URI `".toList ++ text ++ "`: ".toList ++ cause.message
  | invalidPort text => "invalid port `".toList ++ text ++ ['`']
  | invalidEscape text => "invalid percent-encoding in `".toList ++ text ++ ['`']

/-- The wording of what lies behind an error. -/
def causes : UriError → List Text
  | invalidAuthority _ cause => [cause.message]
  | _ => []

end UriError

/-- What kind of host an authority names. -/
inductive HostKind
  | none
  | ipv4
  | ipv6
  | registeredName
  deriving DecidableEq, Repr

/-- An identifier: the text that wrote it, without the blanks around it, and its address. -/
structure Uri where
  text : Text
  url : Url
  deriving DecidableEq, Repr

namespace Uri

/-- Read an identifier. -/
def ofText (t : Text) : Except UriError Uri :=
  let text := t.trimBlanks
  match Url.ofText text with
  | .error e => .error (.ofUrlError text e)
  | .ok url =>
    if Percent.escapesComplete text.toBytes then .ok ⟨text, url⟩ else .error (.invalidEscape text)

/-! ## Parts -/

def scheme (u : Uri) : Text := u.url.scheme

def authority (u : Uri) : Option Text := u.url.authorityText

/-- The host as it is kept; the empty one if there is none. -/
def urlHost (u : Uri) : Host := (u.url.authority.map Authority.host).getD .empty

/-- The host without brackets; empty if there is none. -/
def host (u : Uri) : Text := u.urlHost.bare

/-- The kind of the host. A name that is written like a version 4 address counts as one, whatever
the scheme. -/
def hostKind (u : Uri) : HostKind :=
  match u.urlHost with
  | .name [] => .none
  | .name name => if (Ipv4.quad? name).isSome then .ipv4 else .registeredName
  | .ipv4 _ => .ipv4
  | .ipv6 _ => .ipv6

def port (u : Uri) : Option Nat := u.url.authority.bind (·.port)

def query (u : Uri) : Option Text := u.url.query

def fragment (u : Uri) : Option Text := u.url.fragment

def hasQueryOrFragment (u : Uri) : Bool := u.query.isSome || u.fragment.isSome

/-- The segments of the normal path that are not empty. -/
def segments (u : Uri) : List Text :=
  (u.url.pathText.pieces (· == '/')).filter (!·.isEmpty)

/-- What follows the scheme and the authority in a text, up to a query or fragment. -/
def writtenPath (text : Text) : Text :=
  let afterScheme := match text.splitAtFirst (· == ':') with
    | some (_, rest) => rest
    | none => []
  let afterAuthority := match afterScheme with
    | '/' :: '/' :: rest => rest.dropWhile fun c ↦ !(c == '/' || SchemeKind.endsPath c)
    | rest => rest
  afterAuthority.takeWhile (!SchemeKind.endsPath ·)

/-- The path as it was written. -/
def path (u : Uri) : Text := writtenPath u.text

/-! ## Equality and hierarchy -/

/-- The same scheme, and the same authority up to case. -/
def sameOrigin (u v : Uri) : Bool :=
  u.scheme == v.scheme &&
    match u.authority, v.authority with
    | none, none => true
    | some a, some b => a.sameLetters b
    | _, _ => false

/-- Equality as identifiers: of addresses, up to the case of the authority. -/
def same (u v : Uri) : Bool :=
  u.sameOrigin v && u.url.pathText == v.url.pathText && u.query == v.query
    && u.fragment == v.fragment

/-- Whether `u` lies strictly above `v`: it has neither query nor fragment, and its segments begin
those of `v`, which has more of them or else a query or fragment. -/
def isPrefixOf (u v : Uri) : Bool :=
  u.sameOrigin v && !u.hasQueryOrFragment &&
    if u.segments.length < v.segments.length then u.segments.isPrefixOf v.segments
    else u.segments == v.segments && v.hasQueryOrFragment

/-! ## Order and hashing -/

/-- What order and hashing see of an identifier. -/
structure Key where
  scheme : Text
  /-- In small letters. -/
  authority : Option Text
  path : Text
  query : Option Text
  fragment : Option Text
  deriving DecidableEq, Repr

/-- The key of an identifier. -/
def key (u : Uri) : Key :=
  ⟨u.scheme, u.authority.map Text.lower, u.url.pathText, u.query, u.fragment⟩

/-- Keys are compared part by part; an absent part comes before one that is there. -/
def Key.compare (k l : Key) : Ordering :=
  (Ord.compare k.scheme l.scheme).then <| (Ord.compare k.authority l.authority).then <|
    (Ord.compare k.path l.path).then <| (Ord.compare k.query l.query).then <|
      Ord.compare k.fragment l.fragment

/-- Order of identifiers. -/
def compare (u v : Uri) : Ordering := u.key.compare v.key

/-- One item that is handed to a hasher: whether an optional part is there, or a text. -/
inductive HashItem
  | present (b : Bool)
  | text (t : Text)
  deriving DecidableEq, Repr

/-- What is handed to a hasher for an optional text. -/
def HashItem.ofOption : Option Text → List HashItem
  | none => [present false]
  | some t => [present true, text t]

/-- What is handed to a hasher for an identifier, the authority in small letters. -/
def hashItems (u : Uri) : List HashItem :=
  .text u.scheme :: (HashItem.ofOption (u.authority.map Text.lower)
    ++ .text u.url.pathText :: (HashItem.ofOption u.query ++ HashItem.ofOption u.fragment))

/-- Read several identifiers; the first that cannot be read decides. -/
def ofTexts (ts : List Text) : Except UriError (List Uri) := ts.mapM ofText

/-- For each identifier, whether none before it is the same. -/
def fresh (us : List Uri) : List Bool :=
  (us.zipIdx).map fun (u, i) ↦ !(us.take i).any (same · u)

/-- The identifiers in order, equal ones staying as they are. -/
def sort (us : List Uri) : List Uri := us.mergeSort fun u v ↦ (u.compare v).isLE

end Uri

end Placement
