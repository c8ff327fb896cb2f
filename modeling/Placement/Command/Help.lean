import Placement.Command.Vocabulary

/-!
# Help texts

A help text says what its scope is for, how it is used, and which words it knows. The words are
listed in two columns, of which the first is as wide as its widest entry.
-/

namespace Placement

/-- The text with blanks after it up to a width. -/
def Text.padTo (width : Nat) (t : Text) : Text := t ++ List.replicate (width - t.length) ' '

/-- Two columns, two blanks apart and in from the margin. -/
def renderColumns (rows : List (Text × Text)) : Text :=
  let width := (rows.map (·.1.length)).foldr max 0
  rows.flatMap fun (left, right) ↦ [' ', ' '] ++ left.padTo width ++ [' ', ' '] ++ right ++ ['\n']

/-- A list of words under a title; nothing at all if there are none. -/
def renderSection (title : String) (rows : List (Text × Text)) : Text :=
  if rows.isEmpty then [] else ['\n'] ++ title.toList ++ [':', '\n'] ++ renderColumns rows

namespace CommandOption

/-- An option and its summary. Without a letter the long form stands where the others have it. -/
def row (o : CommandOption) : Text × Text :=
  let letter := match o.letter with
    | some c => ['-', c, ',', ' ']
    | none => [' ', ' ', ' ', ' ']
  (letter ++ o.setting.longForm, o.summary)

/-- Whether the option has to be given. -/
def isRequired (o : CommandOption) : Bool :=
  match o.setting with
  | .parameter p => p.isRequired
  | .flag _ => false

end CommandOption

namespace Scope

/-- What a scope is for. -/
def about : Scope → Text
  | program => "Compile and evaluate placement constraint expressions".toList
  | verb .parse => "Compile an expression and show its canonical form".toList
  | verb .check => "Evaluate an expression against a set of properties".toList
  | verb .repl => "Evaluate expressions interactively".toList
  | help => "Print this message or the help of the given subcommand(s)".toList

/-- How a scope is used. Options that are required are spelled out. -/
def usage : Scope → List Text
  | program => [programName, "[OPTIONS]".toList, "<COMMAND>".toList]
  | verb v =>
    [programName, v.name, "[OPTIONS]".toList]
      ++ ((verb v).options.filter (·.isRequired)).map (·.setting.longForm)
  | help => [programName, helpName, "[COMMAND]...".toList]

/-- The words that may stand in place of a verb. -/
def commandRows : Scope → List (Text × Text)
  | program => Verb.all.map (fun v ↦ (v.name, (verb v).about)) ++ [(helpName, help.about)]
  | verb _ | help => []

/-- What a scope takes apart from options. -/
def argumentRows : Scope → List (Text × Text)
  | help => [("[COMMAND]...".toList, "Print help for the subcommand(s)".toList)]
  | program | verb _ => []

/-- The help text of a scope. -/
def helpText (s : Scope) : Text :=
  s.about ++ "\n\nUsage: ".toList ++ Text.join [' '] s.usage ++ ['\n']
    ++ renderSection "Commands" s.commandRows
    ++ renderSection "Arguments" s.argumentRows
    ++ renderSection "Options" (s.options.map (·.row))

end Scope

/-- The text that answers the question for the version. -/
def versionText : Text := programName ++ [' '] ++ version ++ ['\n']

end Placement
