import Placement.Text.Basic

/-!
# Percent-encoding

A character that a part of an address cannot hold is written as the bytes of its UTF-8 form, each
as `%` and two capital hexadecimal digits. Each part has its own set of ASCII characters to encode;
what is outside ASCII is always encoded. A `%` is in none of the sets, so escapes that are already
there stay as they are.
-/

namespace Placement

namespace Percent

/-! ## Encode sets -/

/-- C0 controls and DEL. This is the whole set for opaque hosts and opaque paths. -/
def isControl (c : Char) : Bool := c.toNat < 0x20 || c.toNat == 0x7F

/-- The set for queries. -/
def isQueryReserved (c : Char) : Bool :=
  isControl c || c == ' ' || c == '"' || c == '#' || c == '<' || c == '>'

/-- The set for the queries of special schemes. -/
def isSpecialQueryReserved (c : Char) : Bool := isQueryReserved c || c == '\''

/-- The set for fragments. -/
def isFragmentReserved (c : Char) : Bool :=
  isControl c || c == ' ' || c == '"' || c == '<' || c == '>' || c == '`'

/-- The set for path segments. -/
def isPathReserved (c : Char) : Bool :=
  isFragmentReserved c || c == '#' || c == '?' || c == '\x7b' || c == '\x7d'

/-- The set for user names and passwords. -/
def isUserReserved (c : Char) : Bool :=
  isPathReserved c || c == '/' || c == ':' || c == ';' || c == '=' || c == '@' || c == '['
    || c == '\\' || c == ']' || c == '^' || c == '|'

/-! ## Encoding -/

/-- A byte as `%` and two capital hexadecimal digits. -/
def encodeByte (b : UInt8) : Text :=
  ['%', (Nat.digitChar (b.toNat / 16)).toUpper, (Nat.digitChar (b.toNat % 16)).toUpper]

/-- A character, encoded if it is reserved or outside ASCII. -/
def encodeChar (reserved : Char → Bool) (c : Char) : Text :=
  if c.toNat < 0x80 && !reserved c then [c]
  else (String.utf8EncodeChar c).flatMap encodeByte

/-- A text with its reserved characters encoded. -/
def encode (reserved : Char → Bool) (t : Text) : Text := t.flatMap (encodeChar reserved)

/-! ## Decoding -/

/-- The bytes that a text stands for, with every complete escape replaced by its byte. -/
def decode : Text → List UInt8
  | '%' :: h :: l :: rest =>
    match Text.hexValue? h, Text.hexValue? l with
    | some m, some n => UInt8.ofNat (16 * m + n) :: decode rest
    | _, _ => String.utf8EncodeChar '%' ++ decode (h :: l :: rest)
  | c :: rest => String.utf8EncodeChar c ++ decode rest
  | [] => []

/-! ## Complete escapes -/

/-- The byte `%`. -/
def percentByte : UInt8 := 0x25

/-- Whether a byte is an ASCII hexadecimal digit. -/
def isHexByte (b : UInt8) : Bool := Text.isHexDigit (Char.ofNat b.toNat)

/-- Whether every `%` begins a complete escape. After a complete escape the scan goes on behind its
two digits. -/
def escapesComplete : List UInt8 → Bool
  | [] => true
  | b :: rest =>
    if b = percentByte then
      match rest with
      | h :: l :: rest' => isHexByte h && isHexByte l && escapesComplete rest'
      | _ => false
    else escapesComplete rest

end Percent

end Placement
