import Placement.Proofs.OrderedMap
import Placement.Proofs.Reference
import Placement.Session

/-!
# Lines of a session do not disturb one another

What a session holds when it reads a line is what the lines before it left, and most lines leave
everything as it was: a constraint is evaluated against a copy of the properties, whether or not the
evaluation fails. So the session at any point can be read off the few lines that do change it
(`Session.after`), and what is seen of a reading depends on nothing but the properties, the replica
and the line (`Turn.of`).

This describes a whole run without running it (`Session.turns`). In particular lines that change
nothing may be left out, and all others look as they did (`Session.turns_keepAt`).
-/

namespace Placement

/-- The elements of a list at the places to keep. -/
def keepAt {α : Type} (keep : Nat → Bool) (l : List α) : List α :=
  (l.zipIdx.filter fun p ↦ keep p.2).map Prod.fst

theorem keepAt_cons {α : Type} (keep : Nat → Bool) (x : α) (l : List α) :
    keepAt keep (x :: l) = if keep 0 then x :: keepAt (fun i ↦ keep (i + 1)) l
      else keepAt (fun i ↦ keep (i + 1)) l := by
  have hshift : ((l.zipIdx 1).filter fun p ↦ keep p.2).map Prod.fst
      = keepAt (fun i ↦ keep (i + 1)) l := by
    rw [List.zipIdx_succ, List.filter_map, List.map_map]
    rfl
  rw [keepAt, List.zipIdx_cons, List.filter_cons]
  split
  · rw [List.map_cons, hshift]
  · exact hshift

/-! ## What lines do -/

namespace Line

/-- The change that a line makes to the properties, if it makes one. -/
def change? : Line → Option Environment.Change
  | set name value => some (.define name value)
  | unset name => some (.remove name)
  | _ => none

def role? : Line → Option Role
  | primary => some .primary
  | secondary => some .secondary
  | _ => none

end Line

namespace TerminalItem

def text? : TerminalItem → Option Text
  | line text => some text
  | interrupt | failure _ => none

/-- The line that was typed, if it is understood. -/
def line? (item : TerminalItem) : Option Line :=
  item.text?.bind fun text ↦ (Line.ofText text).toOption

def failure? : TerminalItem → Option Text
  | failure message => some message
  | line _ | interrupt => none

/-- Whether a session ends with this item. -/
def ends : TerminalItem → Bool
  | line text => (Line.ofText text matches .ok .quit)
  | interrupt | failure _ => true

/-- Whether this is a line that neither changes a session nor ends it: a constraint, a blank line,
a question, or a line that is not understood. -/
def isPassing : TerminalItem → Bool
  | line text =>
    match Line.ofText text with
    | .ok (.eval _) | .ok .blank | .ok .env | .ok .help | .error _ => true
    | _ => false
  | interrupt | failure _ => false

def read (items : List TerminalItem) : List TerminalItem := items.take (items.findIdx ends + 1)

theorem read_cons (item : TerminalItem) (items : List TerminalItem) :
    read (item :: items) = item :: if item.ends then [] else read items := by
  rw [read, List.findIdx_cons, List.take_succ_cons]
  cases item.ends <;> rfl

theorem filterMap_text?_cons (item : TerminalItem) (items : List TerminalItem) :
    (item :: items).filterMap text? = item.text?.toList ++ items.filterMap text? := by
  cases item <;> rfl

theorem line?_line_of_ok {text : Text} {l : Line} (h : Line.ofText text = .ok l) :
    (line text).line? = some l := by
  rw [line?, text?, Option.bind_some, h]
  rfl

theorem line?_line_of_error {text : Text} {e : LineError} (h : Line.ofText text = .error e) :
    (line text).line? = none := by
  rw [line?, text?, Option.bind_some, h]
  rfl

end TerminalItem

namespace Session

/-- The session after some lines were understood. The properties are as those lines left them that
change properties, and the replica is the one that was chosen last. -/
def afterLines (s : Session) (lines : List Line) : Session :=
  ⟨(lines.filterMap Line.change?).foldl Environment.change s.environment,
    ⟨(lines.filterMap Line.role?).getLast?.getD s.context.role, s.context.trace⟩⟩

/-- The session after some items. Only lines that are understood count. -/
def after (s : Session) (items : List TerminalItem) : Session :=
  s.afterLines (items.filterMap TerminalItem.line?)

variable {item : TerminalItem} {line : Line} {text : Text}

theorem afterLines_append (s : Session) (lines lines' : List Line) :
    s.afterLines (lines ++ lines') = (s.afterLines lines).afterLines lines' := by
  rw [afterLines, afterLines, afterLines]
  simp only [List.filterMap_append, List.foldl_append, List.getLast?_append]
  cases (lines'.filterMap Line.role?).getLast? <;> rfl

theorem after_cons (s : Session) (item : TerminalItem) (items : List TerminalItem) :
    s.after (item :: items) = (s.after [item]).after items := by
  rw [after, ← List.singleton_append, List.filterMap_append, afterLines_append]
  rfl

theorem after_of_line? (h : item.line? = some line) (s : Session) :
    s.after [item] = s.afterLines [line] := by
  rw [after, List.filterMap_cons_some h, List.filterMap_nil]

theorem after_of_line?_eq_none (h : item.line? = none) (s : Session) : s.after [item] = s := by
  rw [after, List.filterMap_cons_none h]
  rfl

/-! ## Answers -/

theorem session_handle (s : Session) (line : Line) :
    (s.handle line).session = s.afterLines [line] := by
  cases line <;> rfl

theorem session_answer (s : Session) (text : Text) :
    (s.answer text).session = s.after [.line text] := by
  rw [answer]
  cases h : Line.ofText text with
  | error e => exact (after_of_line?_eq_none (TerminalItem.line?_line_of_error h) s).symm
  | ok line =>
    rw [after_of_line? (TerminalItem.line?_line_of_ok h)]
    exact session_handle s line

theorem goesOn_answer (s : Session) (text : Text) :
    (s.answer text).goesOn = !(TerminalItem.line text).ends := by
  rw [answer, TerminalItem.ends]
  cases h : Line.ofText text with
  | error e => rfl
  | ok line => cases line <;> rfl

theorem report_congr {v w : Evaluation} (houtcome : v.outcome = w.outcome)
    (hremaining : v.remaining = w.remaining) (e : Expression) : report e v = report e w := by
  rw [report, report, houtcome, hremaining]

/-- What is printed in answer to a constraint does not depend on what is reported. -/
theorem evaluate_trace (env : Environment) (role : Role) (trace trace' : Bool) (text : Text) :
    (Session.evaluate ⟨env, ⟨role, trace⟩⟩ text).1
      = (Session.evaluate ⟨env, ⟨role, trace'⟩⟩ text).1 := by
  rw [evaluate, evaluate]
  dsimp only
  cases (Compilation.ofText text).outcome with
  | error e => rfl
  | ok e =>
    have hreport := report_congr (e.root.outcome_evaluate_trace role trace trace' env)
      (e.root.remaining_evaluate_trace role trace trace' env) e
    exact congrArg (Text.join ['\n']) hreport

theorem output_answer_trace (env : Environment) (role : Role) (trace trace' : Bool) (text : Text) :
    (Session.answer ⟨env, ⟨role, trace⟩⟩ text).output
      = (Session.answer ⟨env, ⟨role, trace'⟩⟩ text).output := by
  rw [answer, answer]
  cases Line.ofText text with
  | error e => rfl
  | ok line =>
    cases line with
    | eval text => exact congrArg Text.line (evaluate_trace env role trace trace' text)
    | _ => rfl

theorem after_of_ends (h : item.ends = true) (s : Session) : s.after [item] = s := by
  cases item with
  | interrupt | failure message => exact after_of_line?_eq_none rfl s
  | line text =>
    cases hline : Line.ofText text with
    | error e => exact after_of_line?_eq_none (TerminalItem.line?_line_of_error hline) s
    | ok line =>
      rw [TerminalItem.ends, hline] at h
      rw [after_of_line? (TerminalItem.line?_line_of_ok hline)]
      cases line with
      | quit => rfl
      | _ => cases h

theorem after_read_cons (s : Session) (item : TerminalItem) (items : List TerminalItem) :
    s.after (TerminalItem.read (item :: items))
      = if item.ends then s else (s.after [item]).after (TerminalItem.read items) := by
  rw [TerminalItem.read_cons]
  cases hends : item.ends with
  | true => exact after_of_ends hends s
  | false => exact s.after_cons item _

theorem after_of_isPassing (h : item.isPassing = true) (s : Session) :
    s.after [item] = s ∧ item.ends = false := by
  cases item with
  | interrupt | failure message => cases h
  | line text =>
    rw [TerminalItem.isPassing] at h
    rw [TerminalItem.ends]
    cases hline : Line.ofText text with
    | error e => exact ⟨after_of_line?_eq_none (TerminalItem.line?_line_of_error hline) s, rfl⟩
    | ok line =>
      rw [hline] at h
      rw [after_of_line? (TerminalItem.line?_line_of_ok hline)]
      cases line with
      | blank | env | help | eval text => exact ⟨rfl, rfl⟩
      | primary | secondary | set | unset | quit => cases h

end Session

/-! ## Readings -/

/-- What is seen of one reading: the prompt, and what is printed in answer. -/
structure Turn where
  prompt : Text
  output : Text
  deriving DecidableEq, Repr

/-- A reading with these properties, for this replica. At the end of the input nothing is read. -/
def Turn.of (env : Environment) (role : Role) (item : Option TerminalItem) : Turn :=
  let s : Session := ⟨env, ⟨role, false⟩⟩
  ⟨s.prompt, ((item.bind TerminalItem.text?).map fun text ↦ (s.answer text).output).getD []⟩

namespace Session

variable {item : TerminalItem}

/-- The readings of a session, up to the one that ends it. -/
def turns (s : Session) (items : List TerminalItem) : List Turn :=
  (List.range (items.findIdx TerminalItem.ends + 1)).map fun i ↦
    let before := s.after (items.take i)
    Turn.of before.environment before.context.role items[i]?

theorem turns_nil (s : Session) :
    s.turns [] = [Turn.of s.environment s.context.role none] := rfl

theorem turns_cons (s : Session) (item : TerminalItem) (items : List TerminalItem) :
    s.turns (item :: items) = Turn.of s.environment s.context.role (some item) ::
      if item.ends then [] else (s.after [item]).turns items := by
  rw [turns, List.findIdx_cons, List.range_succ_eq_map, List.map_cons, List.map_map]
  cases hends : item.ends with
  | true => rfl
  | false =>
    rw [turns]
    refine congrArg (List.cons _) (List.map_congr_left fun i _ ↦ ?_)
    have hafter := s.after_cons item (items.take i)
    simp only [Function.comp_apply, List.take_succ_cons, List.getElem?_cons_succ, hafter]

theorem prompt_turn (s : Session) (item : Option TerminalItem) :
    (Turn.of s.environment s.context.role item).prompt = s.prompt := rfl

theorem output_turn (s : Session) (text : Text) :
    (Turn.of s.environment s.context.role (some (.line text))).output = (s.answer text).output :=
  output_answer_trace s.environment s.context.role false s.context.trace text

/-! ## Runs -/

theorem run_of_ends (h : item.ends = true) (s : Session) (items : List TerminalItem) :
    let t := s.run (item :: items)
    t.output = (Turn.of s.environment s.context.role (some item)).output ∧
      t.prompts = [s.prompt] ∧ t.history = item.text?.toList ∧ t.unread = items.length ∧
      t.failure = item.failure? ∧ t.final = s := by
  cases item with
  | interrupt | failure message => exact ⟨rfl, rfl, rfl, rfl, rfl, rfl⟩
  | line text =>
    have hstop : (s.answer text).goesOn = false := by rw [goesOn_answer, h]; rfl
    have hsession : (s.answer text).session = s := by rw [session_answer, after_of_ends h]
    rw [run, hstop, if_neg Bool.false_ne_true, hsession, output_turn]
    exact ⟨rfl, rfl, rfl, rfl, rfl, rfl⟩

theorem run_of_not_ends (h : item.ends = false) (s : Session) (items : List TerminalItem) :
    let t := s.run (item :: items)
    let rest := (s.after [item]).run items
    t.output = (Turn.of s.environment s.context.role (some item)).output ++ rest.output ∧
      t.prompts = s.prompt :: rest.prompts ∧ t.history = item.text?.toList ++ rest.history ∧
      t.unread = rest.unread ∧ t.failure = rest.failure ∧ t.final = rest.final := by
  cases item with
  | interrupt | failure message => cases h
  | line text =>
    have hgoes : (s.answer text).goesOn = true := by rw [goesOn_answer, h]; rfl
    rw [run, hgoes, if_pos rfl, session_answer, output_turn]
    exact ⟨rfl, rfl, rfl, rfl, rfl, rfl⟩

/-- A run shows what its readings show, and ends with the first item that ends it. -/
theorem run_eq (s : Session) (items : List TerminalItem) :
    let t := s.run items
    t.output = (s.turns items).flatMap Turn.output ∧
      t.prompts = (s.turns items).map Turn.prompt ∧
      t.history = (TerminalItem.read items).filterMap TerminalItem.text? ∧
      t.unread = items.length - (TerminalItem.read items).length ∧
      t.failure = (items.find? TerminalItem.ends).bind TerminalItem.failure? ∧
      t.final = s.after (TerminalItem.read items) := by
  induction items generalizing s with
  | nil => exact ⟨rfl, rfl, rfl, rfl, rfl, rfl⟩
  | cons item items ih =>
    dsimp only
    rw [turns_cons, after_read_cons, TerminalItem.read_cons, TerminalItem.filterMap_text?_cons]
    cases hends : item.ends with
    | true =>
      obtain ⟨houtput, hprompts, hhistory, hunread, hfailure, hfinal⟩ := run_of_ends hends s items
      rw [houtput, hprompts, hhistory, hunread, hfailure, hfinal, List.find?_cons_of_pos hends]
      simp [prompt_turn]
    | false =>
      obtain ⟨houtput, hprompts, hhistory, hunread, hfailure, hfinal⟩ :=
        run_of_not_ends hends s items
      obtain ⟨ihoutput, ihprompts, ihhistory, ihunread, ihfailure, ihfinal⟩ := ih (s.after [item])
      rw [houtput, hprompts, hhistory, hunread, hfailure, hfinal, ihoutput, ihprompts, ihhistory,
        ihunread, ihfailure, ihfinal, List.find?_cons_of_neg (by simp [hends])]
      simp [prompt_turn]

/-! ## Leaving lines out -/

/-- Lines that change nothing may be left out: what is seen of the others stays the same, and so
does the session at the end. -/
theorem turns_keepAt {items : List TerminalItem} {keep : Nat → Bool}
    (h : ∀ i, keep i = false → ∃ item, items[i]? = some item ∧ item.isPassing = true)
    (s : Session) : s.turns (keepAt keep items) = keepAt keep (s.turns items) ∧
      s.after (TerminalItem.read (keepAt keep items)) = s.after (TerminalItem.read items) := by
  induction items generalizing s keep with
  | nil =>
    -- There is nothing to leave out, and the end of the input is always seen.
    have hkeep : keep 0 = true := by
      by_contra hdrop
      obtain ⟨item, hitem, -⟩ := h 0 (by simpa using hdrop)
      cases hitem
    rw [turns_nil, keepAt_cons, if_pos hkeep]
    exact ⟨rfl, rfl⟩
  | cons item items ih =>
    have hrest : ∀ i, keep (i + 1) = false →
        ∃ item, items[i]? = some item ∧ item.isPassing = true := fun i hi ↦ h (i + 1) hi
    obtain ⟨ihturns, ihafter⟩ := ih hrest (s.after [item])
    rw [keepAt_cons, turns_cons, keepAt_cons, after_read_cons]
    cases hkeep : keep 0 with
    | true =>
      rw [if_pos rfl, if_pos rfl, turns_cons, after_read_cons, ihturns, ihafter]
      cases item.ends with
      | true => exact ⟨rfl, rfl⟩
      | false => exact ⟨rfl, rfl⟩
    | false =>
      obtain ⟨dropped, hdropped, hpassing⟩ := h 0 hkeep
      cases hdropped
      obtain ⟨hafter, hends⟩ := after_of_isPassing hpassing s
      rw [hafter] at ihturns ihafter
      rw [hafter, hends]
      exact ⟨ihturns, ihafter⟩

/-- **Isolation.** A session reads up to the first line that leaves it, interrupt or failure, keeps
every line in its history, and shows at each reading what the properties, the replica and the line
give. The properties are those that the accepted lines so far made them, and the replica is the one
chosen last. So leaving out lines that change nothing changes neither the prompt nor the output of
any other reading, nor the session at the end. -/
theorem run_isolated (s : Session) (items : List TerminalItem) :
    let t := s.run items
    t.history = (TerminalItem.read items).filterMap TerminalItem.text? ∧
      t.unread = items.length - (TerminalItem.read items).length ∧
      t.failure = (items.find? TerminalItem.ends).bind TerminalItem.failure? ∧
      t.prompts = (s.turns items).map Turn.prompt ∧
      t.output = (s.turns items).flatMap Turn.output ∧
      t.final = s.after (TerminalItem.read items) ∧
      ∀ keep : Nat → Bool,
        (∀ i, keep i = false → ∃ item, items[i]? = some item ∧ item.isPassing = true) →
          s.turns (keepAt keep items) = keepAt keep (s.turns items) ∧
            (s.run (keepAt keep items)).final = t.final := by
  intro t
  obtain ⟨houtput, hprompts, hhistory, hunread, hfailure, hfinal⟩ := run_eq s items
  refine ⟨hhistory, hunread, hfailure, hprompts, houtput, hfinal, fun keep hkeep ↦ ?_⟩
  obtain ⟨-, -, -, -, -, hkept⟩ := run_eq s (keepAt keep items)
  obtain ⟨hturns, hafter⟩ := turns_keepAt hkeep s
  exact ⟨hturns, hkept.trans (hafter.trans hfinal.symm)⟩

theorem run_isolated_consuming :
    let s : Session := ⟨.ofList [(['a'], ['1'])], ⟨.secondary, false⟩⟩
    let items : List TerminalItem := [.line "a==1".toList, .line ":set b=2".toList,
      .line ":set".toList, .line " a==1 ".toList, .line ":q".toList, .line "b".toList]
    let keep : Nat → Bool := fun i ↦ i != 0 && i != 2
    (TerminalItem.line "a==1".toList).isPassing = true ∧
      (TerminalItem.line ":set".toList).isPassing = true ∧
      keepAt keep items = [.line ":set b=2".toList, .line " a==1 ".toList, .line ":q".toList,
        .line "b".toList] ∧
      (s.run items).unread = 1 ∧
      s.turns (keepAt keep items) = keepAt keep (s.turns items) ∧
      (s.run (keepAt keep items)).final = (s.run items).final := by
  intro s items keep
  have hconstraint : (TerminalItem.line "a==1".toList).isPassing = true := by decide +kernel
  have hrejected : (TerminalItem.line ":set".toList).isPassing = true := by decide +kernel
  have hpassing : ∀ i, keep i = false →
      ∃ item, items[i]? = some item ∧ item.isPassing = true := by
    intro i hi
    obtain rfl | rfl : i = 0 ∨ i = 2 := by
      simp only [keep, Bool.and_eq_false_iff, bne_eq_false_iff_eq] at hi
      exact hi
    · exact ⟨_, rfl, hconstraint⟩
    · exact ⟨_, rfl, hrejected⟩
  obtain ⟨-, hunread, -, -, -, -, hleft⟩ := run_isolated s items
  obtain ⟨hturns, hfinal⟩ := hleft keep hpassing
  exact ⟨hconstraint, hrejected, rfl, hunread.trans (by decide +kernel), hturns, hfinal⟩

end Session

end Placement
