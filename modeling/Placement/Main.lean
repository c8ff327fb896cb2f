import Placement.Command.Program

/-!
# The program

Reads the properties file and the lines of the terminal, and prints. What is printed, and how the
program ends, is decided in `Placement.Command.Program`.
-/

namespace Placement

/-- The environment variable that sets the filter. -/
def filterVariable : String := "RUST_LOG"

/-- Print a text on standard output. -/
def printText (t : Text) : IO Unit := do
  let output ← IO.getStdout
  output.putStr (String.ofList t)
  output.flush

/-- Write the events that the filter lets through to standard error. -/
def writeLog (filter : LogFilter) (events : List LogEvent) : IO Unit :=
  (events.filter filter.admits).forM fun e ↦
    IO.eprintln (String.ofList (e.level.name ++ [' '] ++ e.text))

/-- What reading the properties file of a command gives. -/
def readFiles (c : Command) : IO Files := do
  match c.file? with
  | none => return fun _ ↦ .error []
  | some path =>
    match ← (IO.FS.readFile (String.ofList path)).toBaseIO with
    | .ok text => return fun _ ↦ .ok text.toList
    | .error e => return fun _ ↦ .error e.toString.toList

/-- Answer lines from standard input until the session ends. -/
partial def converse (filter : LogFilter) (s : Session) : IO Unit := do
  let input ← IO.getStdin
  if ← input.isTty then printText s.prompt
  match inputLines (← input.getLine).toList with
  | [] => return
  | line :: _ =>
    let r := s.answer line
    writeLog filter r.events
    printText r.output
    if r.goesOn then converse filter r.session

/-- Write what a run of the program left behind. -/
def writeReport (r : Report) : IO UInt32 := do
  printText r.output
  IO.eprint (String.ofList r.errorOutput)
  return r.exitCode.toUInt32

/-- Run a command. The lines of a session are answered as they come in. -/
def runInvocation (filter : LogFilter) (i : Invocation) : IO UInt32 := do
  let files ← readFiles i.command
  let opened := match i.command with
    | .repl primary source => (Session.ofSource files ⟨.ofBool primary, i.trace⟩ source).toOption
    | _ => none
  match opened with
  | some (session, loaded) =>
    writeLog filter loaded
    printText banner
    converse filter session
    return 0
  | none =>
    let run := i.run files []
    writeLog filter run.events
    writeReport (.ofRun run filter)

/-- Run the program on its arguments. -/
def start (args : List String) : IO UInt32 := do
  match readArguments (args.map String.toList) with
  | .error e => writeReport (.ofUsageError e)
  | .ok i =>
    let setting := (← IO.getEnv filterVariable).map String.toList
    runInvocation (.choose setting i.verbose i.trace) i

end Placement

def main (args : List String) : IO UInt32 := Placement.start args
