import Placement.Proofs.Bytes
import Placement.Proofs.Offsets

/-!
# A scanner stays on boundaries

A scanner can be asked for a literal, for an operator, or to skip blanks, in any order and as often
as one likes. It is shown that the offset it counts always lies between two characters of the text,
or at its end, and that what is left of the text begins there (`Scanner.within_after`). So no
request can cut a character in two or run past the end.

Nothing is lost on the way either: the bytes between the offsets before and behind a request are
those of a part of the text, and that part is what the request was for, a literal with the blanks
around it, a symbol, or the blanks (`Scanner.Request.Passes`).
-/

namespace Placement

namespace Scanner

/-- What a scanner can be asked for. -/
inductive Request
  | literal
  | operator
  | blanks
  deriving DecidableEq, Repr

/-- The answer to a request, if there is one, and the scanner behind it. One that is asked for an
operator where none begins stays where it is. -/
def answer (s : Scanner) : Request → Option Text × Scanner
  | .literal => s.readLiteral
  | .operator =>
    match s.readOperator with
    | some (op, next) => (some op.symbol, next)
    | none => (none, s)
  | .blanks => (none, s.skipBlanks)

/-- The scanner of a text after some requests. -/
def after (text : Text) (requests : List Request) : Scanner :=
  requests.foldl (fun s request ↦ (s.answer request).2) (.start text)

/-- What a request passes over, by its answer: the token and nothing but blanks around it, or blanks
alone; the symbol, or nothing; all blanks that there are. -/
def Request.Passes (answer : Option Text) (passed remaining : Text) : Request → Prop
  | literal =>
    match answer with
    | some token => IsToken token ∧
      ∃ before behind, passed = before ++ token ++ behind ∧ AllBlank before ∧ AllBlank behind
    | none => AllBlank passed
  | operator =>
    match answer with
    | some symbol => (∃ op : Operator, op.symbol = symbol) ∧ passed = symbol
    | none => passed = []
  | blanks => AllBlank passed ∧ ∀ c ∈ remaining.head?, isBlank c = false

/-! ## Single requests -/

theorem passes_readLiteral (s : Scanner) :
    Request.literal.Passes s.readLiteral.1 (splitLiteral s.rest).1 s.readLiteral.2.rest := by
  obtain ⟨before, behind, hparts, hbefore, hbehind⟩ :=
    Text.exists_append_trim isBlank (splitLiteral s.rest).1
  cases htoken : s.readLiteral.1 with
  | none =>
    have hnil : (splitLiteral s.rest).1.trim isBlank = [] := by
      simpa [readLiteral, Text.trimBlanks] using htoken
    exact Text.trim_eq_nil_iff.mp hnil
  | some token =>
    obtain rfl : (splitLiteral s.rest).1.trim isBlank = token := by
      rw [readLiteral] at htoken
      dsimp only at htoken
      split at htoken
      · cases htoken
      · exact Option.some_inj.mp htoken
    exact ⟨isToken_of_readLiteral (Prod.ext htoken rfl), before, behind, hparts, hbefore, hbehind⟩

/-- A request moves the scanner over a part of the text, and counts its bytes. -/
theorem exists_passed_answer (s : Scanner) (request : Request) :
    ∃ passed, s.rest = passed ++ (s.answer request).2.rest ∧
      (s.answer request).2.position = s.position + passed.byteLength ∧
      request.Passes (s.answer request).1 passed (s.answer request).2.rest := by
  cases request with
  | literal =>
    exact ⟨(splitLiteral s.rest).1, (splitLiteral_append s.rest).symm, rfl, s.passes_readLiteral⟩
  | operator =>
    rw [answer]
    cases hread : s.readOperator with
    | none => exact ⟨[], rfl, rfl, rfl⟩
    | some found =>
      obtain ⟨hrest, hposition, -⟩ := eq_of_readOperator hread
      exact ⟨found.1.symbol, hrest, hposition, ⟨found.1, rfl⟩, rfl⟩
  | blanks =>
    obtain ⟨gap, hgap, hrest, hposition⟩ := s.exists_passed_skipBlanks
    exact ⟨gap, hrest, hposition, hgap, fun c ↦ s.isBlank_of_mem_head?_skipBlanks⟩

/-! ## Any requests -/

/-- The offset of a scanner is one of the text, and what is left of the text begins there. -/
def Within (text : Text) (s : Scanner) : Prop := text.dropBytes s.position = some s.rest

theorem Within.answer {text : Text} {s : Scanner} (h : s.Within text) (request : Request) :
    (s.answer request).2.Within text := by
  obtain ⟨front, htext, hposition⟩ := Text.dropBytes_eq_some_iff.mp h
  obtain ⟨passed, hrest, hnext, -⟩ := s.exists_passed_answer request
  refine Text.dropBytes_eq_some_iff.mpr ⟨front ++ passed, ?_, ?_⟩
  · rw [htext, hrest, List.append_assoc]
  · rw [Text.byteLength_append, hposition, hnext]

theorem within_start (text : Text) : (start text).Within text :=
  Text.dropBytes_eq_some_iff.mpr ⟨[], rfl, rfl⟩

theorem within_after (text : Text) (requests : List Request) : (after text requests).Within text :=
  List.foldlRecOn (motive := Within text) requests _ (within_start text)
    fun _ h request _ ↦ h.answer request

/-- **Safe positions.** Whatever a scanner was asked for before, the position behind a further
request is not behind the end of the text, lies between two characters, and is not smaller than
before. The bytes in between are those that the request is for, and from the position on the bytes
hold the operator that the scanner finds there. -/
theorem position_answer (text : Text) (before : List Request) (request : Request) :
    let s := after text before
    let next := (s.answer request).2
    next.position ≤ text.toBytes.length ∧ text.dropBytes next.position = some next.rest ∧
      s.position ≤ next.position ∧
      (∃ passed, s.rest = passed ++ next.rest ∧
        text.toBytes.extract s.position next.position = passed.toBytes ∧
        request.Passes (s.answer request).1 passed next.rest) ∧
      Operator.lookupBytes (text.toBytes.drop next.position) = Operator.lookup next.rest := by
  intro s next
  have hs : s.Within text := within_after text before
  have hnext : next.Within text := hs.answer request
  obtain ⟨passed, hrest, hposition, hpasses⟩ := s.exists_passed_answer request
  have hbytes : text.toBytes.extract s.position next.position = passed.toBytes := by
    rw [List.extract_eq_take_drop, Text.drop_toBytes hs, hposition, Nat.add_sub_cancel_left, hrest,
      Text.toBytes_append, ← Text.length_toBytes, List.take_left]
  refine ⟨?_, hnext, ?_, ⟨passed, hrest, hbytes, hpasses⟩, ?_⟩
  · rw [Text.length_toBytes]
    exact Text.le_of_dropBytes hnext
  · rw [hposition]
    exact Nat.le_add_right _ _
  · rw [Operator.lookupBytes_drop, Operator.lookupAt, hnext, Option.bind_some]

-- The letter takes two bytes, and so does the symbol.
example : (after ['é', ' ', '=', '='] [.blanks, .literal, .operator]).position = 5 := by decide

end Scanner

end Placement
