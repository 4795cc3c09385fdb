import TableQuery.Execution
import TableQuery.Query.Outline
import TableQuery.Text.Utf8

/-!
# The command line

A session reads lines and answers each one before it reads the next.  What is
written for a line depends on that line and on how queries are answered, and on
nothing that came before.
-/

namespace TableQuery
namespace Console

/-- How queries are answered: with a table, or with a report of what went wrong. -/
abbrev Backend :=
  String → Except String ResultTable

def overTables (source : Source) : Backend := fun text =>
  (answer source text).mapError QueryError.report

/-- What a session writes, on its output and on its error output. -/
@[ext]
structure Written where
  output : String
  errors : String
  deriving Repr, DecidableEq

namespace Written

def nothing : Written :=
  { output := "", errors := "" }

def onOutput (text : String) : Written :=
  { output := text, errors := "" }

def onErrors (text : String) : Written :=
  { output := "", errors := text }

instance : Append Written :=
  ⟨fun a b => { output := a.output ++ b.output, errors := a.errors ++ b.errors }⟩

theorem nothing_append (a : Written) : nothing ++ a = a := by
  ext1
  · exact String.empty_append
  · exact String.empty_append

theorem append_nothing (a : Written) : a ++ nothing = a := by
  ext1
  · exact String.append_empty
  · exact String.append_empty

theorem append_assoc (a b c : Written) : a ++ b ++ c = a ++ (b ++ c) := by
  ext1
  · exact String.append_assoc
  · exact String.append_assoc

end Written

def banner : String :=
  "rowql (type 'help' or 'exit')\n"

def prompt : String :=
  "rowql> "

def helpText : String :=
  "Commands:\n" ++
    "  parse <query> -> show parsed query (debug)\n" ++
    "  exit|quit     -> quit\n" ++
    "  help          -> help\n" ++
    "  (anything else is executed as a SELECT)\n"

/-!
## Commands
-/

inductive Command where
  | unreadable
  | blank
  | exit
  | help
  | outline (query : String)
  | run (query : String)
  deriving Repr, DecidableEq

def outlineWord : List Char :=
  "parse ".toList

/-- The command of a text without blanks at its ends.  The case of a command of one
word does not count. -/
def commandOfText (text : List Char) : Command :=
  if text.isEmpty then .blank
  else if Text.sameWord text "exit".toList || Text.sameWord text "quit".toList then .exit
  else if Text.sameWord text "help".toList then .help
  else if outlineWord.isPrefixOf text then
    .outline (String.ofList (text.drop outlineWord.length))
  else .run (String.ofList text)

/-- The command of a line.  The blanks at its ends do not count, nor does its line break,
which is one of them. -/
def commandOf (line : List UInt8) : Command :=
  match Text.Utf8.decode? line with
  | none => .unreadable
  | some cs => commandOfText (Text.trim cs)

def tablesOf : Command → List String
  | .run text =>
      match parseQuery text with
      | .ok q => q.tables
      | .error _ => []
  | _ => []

/-- What a command leads to: it is answered, or the session ends with a code. -/
inductive Turn where
  | answered (response : Written)
  | ended (code : UInt32)
  deriving Repr, DecidableEq

def showOutline (text : String) : Written :=
  match parseQuery text with
  | .ok q => .onOutput ("Parsed as: " ++ q.outline ++ "\n")
  | .error e => .onErrors ("Parse error: " ++ e.message ++ "\n")

def showAnswer (backend : Backend) (text : String) : Written :=
  match backend text with
  | .ok result => .onOutput (result.text ++ "\n")
  | .error report => .onOutput (report ++ "\n")

def respond (backend : Backend) : Command → Turn
  | .unreadable => .answered (.onOutput "Failed to read input\n")
  | .blank => .answered .nothing
  | .exit => .ended 0
  | .help => .answered (.onOutput helpText)
  | .outline text => .answered (showOutline text)
  | .run text => .answered (showAnswer backend text)

/-!
## Sessions
-/

/-- The bytes of the next line with its line break, and the bytes after them; none at
the end of the input.  The last line may lack a line break. -/
def takeLine? : List UInt8 → Option (List UInt8 × List UInt8)
  | [] => none
  | b :: rest =>
      if b = 0x0A then
        some ([b], rest)
      else
        match takeLine? rest with
        | none => some ([b], [])
        | some (line, after) => some (b :: line, after)

theorem takeLine?_shorter {input line rest : List UInt8}
    (h : takeLine? input = some (line, rest)) : rest.length < input.length := by
  induction input generalizing line rest with
  | nil =>
      simp [takeLine?] at h
  | cons b input ih =>
      rw [takeLine?] at h
      split at h
      · cases h
        simp
      · split at h
        · cases h
          simp
        · rename_i heq
          cases h
          exact Nat.lt_succ_of_lt (ih heq)

/-- What a session leaves: all that it has written, and the code it has ended with. -/
structure Session where
  written : Written
  code : UInt32
  deriving Repr, DecidableEq

def Session.after (before : Written) (s : Session) : Session :=
  { s with written := before ++ s.written }

/-- The session from a prompt on: each line is answered until one ends it, and one more
prompt is written at the end of the input. -/
def replies (backend : Backend) (input : List UInt8) : Session :=
  match _h : takeLine? input with
  | none => { written := .onOutput prompt, code := 0 }
  | some (line, rest) =>
      match respond backend (commandOf line) with
      | .ended code => { written := .onOutput prompt, code }
      | .answered response => (replies backend rest).after (.onOutput prompt ++ response)
termination_by input.length
decreasing_by exact takeLine?_shorter _h

def run (backend : Backend) (input : List UInt8) : Session :=
  (replies backend input).after (.onOutput banner)

def session (backend : Backend) (input : List UInt8) : Written :=
  (run backend input).written

end Console
end TableQuery
