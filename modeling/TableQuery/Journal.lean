import TableQuery.Journal.Filter

/-!
# The log of the service

The service notes when it starts and when it stops, and a filter chooses which notes
are written.  A service that cannot listen notes nothing and says why on its way out.
-/

namespace TableQuery
namespace Journal

/-- What a run of the service leaves behind. -/
structure Run where
  code : Nat
  log : List String
  errors : String
  deriving Repr, DecidableEq

def servedRun (address dataDir : String) (filter : Option String) : Run :=
  let written := (notes address dataDir).filter (passes (filterOf filter))
  { code := 0, log := written.flatMap Note.lines, errors := "" }

def addressTaken : String :=
  "Address already in use (os error 98)"

def failedRun (address reason : String) : Run :=
  { code := 1, log := []
    errors := "Error: failed to bind " ++ address ++ "\n\nCaused by:\n    " ++ reason ++ "\n" }

end Journal
end TableQuery
