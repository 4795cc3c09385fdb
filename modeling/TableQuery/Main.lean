import TableQuery.Directory
import TableQuery.Settings.Config
import TableQuery.Web.Remote

/-!
# The program

The command line over the tables of a directory.  Each line is read, the tables
that its query names are read, and what the session says to the line is written.
-/

namespace TableQuery
namespace Program

/-- The bytes of the next line with its line break; none at the end of the input. -/
partial def readLine (input : IO.FS.Stream) : IO ByteArray := do
  let rec more (line : ByteArray) : IO ByteArray := do
    let next ← input.read 1
    if next.isEmpty then
      pure line
    else if next[0]? = some 0x0A then
      pure (line ++ next)
    else
      more (line ++ next)
  more ByteArray.empty

/-- The number of a system error, which may come with its sign turned. -/
def errorNumber (code : UInt32) : UInt32 :=
  if code < 0x80000000 then code else 0 - code

def outcomeOf (e : IO.Error) : FileOutcome :=
  match e with
  | .noFileOrDirectory _ _ _ => .missing
  | .inappropriateType _ code _ | .invalidArgument _ code _ =>
      match errorNumber code with
      | 20 => .failed .notDirectory
      | 21 => .failed .isDirectory
      | 36 => .failed .nameTooLong
      | _ => .failed (.other e.toString)
  | _ => .failed (.other e.toString)

def readTableFile (dataDir table : String) : IO FileOutcome := do
  let path := tablePath table
  if path.toList.contains '\x00' then
    pure (.failed .nulInName)
  else
    try
      let place := if Path.isAbsolute path.toList then path else dataDir ++ "/" ++ path
      let bytes ← IO.FS.readBinFile place
      pure (.found bytes.toList)
    catch e =>
      pure (outcomeOf e)

/-- How queries are answered once the files of their tables have been read. -/
def localBackend (dataDir : String) (command : Console.Command) : IO Console.Backend := do
  let outcomes ← (Console.tablesOf command).mapM fun table => do
    let outcome ← readTableFile dataDir table
    pure (table, outcome)
  let source : Source := fun table =>
    tableOfFile table ((outcomes.lookup table).getD .missing)
  pure (Console.overTables source)

def write (written : Console.Written) : IO Unit := do
  let output ← IO.getStdout
  output.putStr written.output
  output.flush
  IO.eprint written.errors

/-- Answers lines until one ends the session, or the input ends.  The outcome is the
code of the program. -/
partial def loop (prepare : Console.Command → IO Console.Backend) (input : IO.FS.Stream) :
    IO UInt32 := do
  write (.onOutput Console.prompt)
  let line ← readLine input
  if line.isEmpty then
    pure 0
  else do
    let command := Console.commandOf line.toList
    let backend ← prepare command
    match Console.respond backend command with
    | .ended code => pure code
    | .answered response => do
        write response
        loop prepare input

/-- The program sends nothing: a query to a remote service is reported as such. -/
def unsent : Web.Location → Console.Backend := fun location _ =>
  .error ("failed to reach " ++ location.text)

end Program
end TableQuery

open TableQuery in
def main (arguments : List String) : IO UInt32 := do
  match Settings.SessionConfig.ofArguments arguments with
  | .error .helpWanted => do
      IO.println "Usage: rowql [--data-dir <DATA_DIR>] [--server <SERVER>]"
      pure 0
  | .error _ => do
      IO.eprintln "Usage: rowql [--data-dir <DATA_DIR>] [--server <SERVER>]"
      pure 2
  | .ok config => do
      let prepare : Console.Command → IO Console.Backend :=
        match config.server with
        | some server => fun _ => pure (Web.backend Program.unsent server)
        | none => Program.localBackend config.dataDir
      Program.write (.onOutput Console.banner)
      Program.loop prepare (← IO.getStdin)
