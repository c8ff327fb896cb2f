import Placement.Operator

/-!
# Reading a constraint from left to right

A `Scanner` is what is left of a text together with the byte offset reached. It reads a literal
token (everything up to the next operator, without the blanks around it), an operator, or skips
blanks.

Which of these is tried next depends only on what was read before: after a closing parenthesis an
operator must follow, after any other operator a literal may. So a whole text has one sequence of
`readings`, whatever is later made of them, and the reader that builds trees is a fold over it.
-/

namespace Placement

/-- A place in a text: what is left to read, and the byte offset reached. -/
structure Scanner where
  /-- The part not yet read. -/
  rest : Text
  /-- The bytes already passed. -/
  position : Nat
  deriving DecidableEq, Repr

/-- A literal ends where an operator begins. ASCII letters and digits begin none. -/
def endsLiteral (rest : Text) : Bool :=
  match rest with
  | [] => true
  | c :: _ => !c.isAlphanum && (Operator.lookup rest).isSome

/-- The text up to the first operator, and the text from there on. -/
def splitLiteral : Text → Text × Text
  | [] => ([], [])
  | c :: rest =>
    if endsLiteral (c :: rest) then ([], c :: rest)
    else
      let (passed, remaining) := splitLiteral rest
      (c :: passed, remaining)

/-- Nothing is lost where a literal ends. -/
theorem splitLiteral_append (t : Text) : (splitLiteral t).1 ++ (splitLiteral t).2 = t := by
  induction t with
  | nil => rfl
  | cons c rest ih =>
    rw [splitLiteral]
    split
    · rfl
    · simpa using ih

namespace Scanner

/-- The scanner before the first character. -/
def start (text : Text) : Scanner := ⟨text, 0⟩

/-- Nothing is left. -/
def atEnd (s : Scanner) : Bool := s.rest.isEmpty

/-- Pass over the blanks at this place. -/
def skipBlanks (s : Scanner) : Scanner :=
  ⟨s.rest.dropWhile isBlank, s.position + Text.byteLength (s.rest.takeWhile isBlank)⟩

/-- Pass over everything up to the next operator; what was passed, without the blanks around it,
is the token. There is none if only blanks were passed. -/
def readLiteral (s : Scanner) : Option Text × Scanner :=
  let (passed, remaining) := splitLiteral s.rest
  let token := passed.trimBlanks
  (if token.isEmpty then none else some token, ⟨remaining, s.position + passed.byteLength⟩)

/-- Read the operator that begins here. -/
def readOperator (s : Scanner) : Option (Operator × Scanner) :=
  (Operator.lookup s.rest).map fun op ↦
    (op, ⟨s.rest.drop op.symbol.length, s.position + op.symbol.byteLength⟩)

/-! ### How much is left

Every operator read makes the rest shorter; the other two never make it longer. -/

theorem length_skipBlanks_le (s : Scanner) : s.skipBlanks.rest.length ≤ s.rest.length :=
  (List.dropWhile_sublist isBlank).length_le

theorem length_readLiteral_le (s : Scanner) : s.readLiteral.2.rest.length ≤ s.rest.length := by
  have h := congrArg List.length (splitLiteral_append s.rest)
  rw [List.length_append] at h
  change (splitLiteral s.rest).2.length ≤ s.rest.length
  omega

theorem length_readOperator_lt {s next : Scanner} {op : Operator}
    (h : s.readOperator = some (op, next)) : next.rest.length < s.rest.length := by
  obtain ⟨op', hop, heq⟩ := Option.map_eq_some_iff.1 h
  have hpre := List.isPrefixOf_iff_prefix.1 (Operator.isPrefixOf_of_lookup hop)
  have hpos := op'.symbol_length_pos
  have hle := hpre.length_le
  obtain ⟨rfl, rfl⟩ := Prod.mk.inj heq
  simp only [List.length_drop]
  omega

end Scanner

/-! ## The readings of a text -/

/-- One thing found on the way through a text. -/
inductive Reading
  /-- A literal was looked for; there may have been none. -/
  | literal (token : Option Text)
  /-- An operator, and where it begins. -/
  | operator (op : Operator) (position : Nat)
  /-- The end of the text. -/
  | finished (position : Nat)
  /-- Something that is no operator where one had to follow. -/
  | stray (position : Nat) (found : Text)
  deriving DecidableEq, Repr

/-- The readings from a place on, where `expectLiteral` says whether a literal may come first. The
last of them is `finished` or `stray`. -/
def readingsFrom (expectLiteral : Bool) (s : Scanner) : List Reading :=
  if expectLiteral then
    .literal s.readLiteral.1 :: readingsFrom false s.readLiteral.2
  else if s.skipBlanks.atEnd then
    [.finished s.skipBlanks.position]
  else
    match _h : s.skipBlanks.readOperator with
    | none => [.stray s.skipBlanks.position s.skipBlanks.rest]
    | some (op, next) =>
      .operator op s.skipBlanks.position :: readingsFrom op.expectsLiteral next
termination_by 2 * s.rest.length + expectLiteral.toNat
decreasing_by
  · have := s.length_readLiteral_le
    simp_all only [Bool.toNat_true, Bool.toNat_false]
    omega
  · have := Scanner.length_readOperator_lt _h
    have := s.length_skipBlanks_le
    have := op.expectsLiteral.toNat_le
    omega

/-- Everything found on the way through a text. -/
def readings (text : Text) : List Reading := readingsFrom true (.start text)

end Placement
