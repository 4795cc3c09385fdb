import TableQuery.Text.Cut

/-!
# Notes

The service notes when it starts and when it stops.  A note has a level, which says
how much of a detail it is, the part of the program that made it, a text, and named
values.
-/

namespace TableQuery
namespace Journal

/-- How detailed notes are: zero stands for none and five for all. -/
abbrev Level := Nat

def errorLevel : Level := 1

def infoLevel : Level := 3

def fullLevel : Level := 5

def levelName : Level → String
  | 1 => "ERROR"
  | 2 => "WARN"
  | 3 => "INFO"
  | 4 => "DEBUG"
  | _ => "TRACE"

structure Note where
  source : String
  level : Level
  text : String
  values : List (String × String)
  deriving Repr, DecidableEq

namespace Note

/-- The names of all that a note holds: its text counts as a value of its own. -/
def names (n : Note) : List String :=
  "message" :: n.values.map Prod.fst

def line (n : Note) : String :=
  String.intercalate " "
    ((levelName n.level ++ " " ++ n.source ++ ":") :: n.text ::
      n.values.map fun v => v.1 ++ "=" ++ v.2)

/-- The lines of the log that a note takes: more than one if it holds line breaks. -/
def lines (n : Note) : List String :=
  (Text.pieces '\n' n.line.toList).map String.ofList

end Note

/-!
## The life of the service
-/

/-- The part of the program that sets up the service. -/
def setup : String :=
  "rowql_server"

/-- The part of the program that waits for requests. -/
def waiting : String :=
  "axum::serve"

def listening (address dataDir : String) : Note :=
  { source := setup, level := infoLevel, text := "rowql_server listening"
    values := [("addr", address), ("data_dir", dataDir)] }

/-- What is noted in detail when the service is told to stop, and has no request to
finish. -/
def stopping : List Note :=
  ["received graceful shutdown signal. Telling tasks to shutdown",
   "signal received, not accepting new connections",
   "waiting for 0 task(s) to finish"].map fun text =>
    { source := waiting, level := fullLevel, text, values := [] }

def stopped : Note :=
  { source := setup, level := infoLevel, text := "rowql_server stopped", values := [] }

def notes (address dataDir : String) : List Note :=
  listening address dataDir :: stopping ++ [stopped]

end Journal
end TableQuery
