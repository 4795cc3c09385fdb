import TableQuery.Csv.Table
import TableQuery.Query.Grammar

/-!
# Errors

Every way in which a query or a change of the store can fail.
-/

namespace TableQuery

/-- Why a file could not be read, other than that there is none. -/
inductive ReadFault where
  | isDirectory
  | notDirectory
  | nameTooLong
  | nulInName
  | other (message : String)
  deriving Repr, DecidableEq

namespace ReadFault

def message : ReadFault → String
  | isDirectory => "Is a directory (os error 21)"
  | notDirectory => "Not a directory (os error 20)"
  | nameTooLong => "File name too long (os error 36)"
  | nulInName => "file name contained an unexpected NUL byte"
  | other message => message

end ReadFault

/-- Why a change does not fit the tables that there are. -/
inductive SchemaFault where
  | tableExists (table : String)
  | arity (expected given : Nat)
  deriving Repr, DecidableEq

namespace SchemaFault

def message : SchemaFault → String
  | tableExists table => "Table '" ++ table ++ "' already exists"
  | arity expected given =>
      "Expected " ++ toString expected ++ " values but got " ++ toString given

end SchemaFault

inductive QueryError where
  | query (fault : QueryFault)
  | noTable (table : String)
  | unreadable (table : String) (fault : ReadFault)
  | malformed (table : String) (fault : Csv.Fault)
  | schema (fault : SchemaFault)
  deriving Repr, DecidableEq

namespace QueryError

/-- The text of the failure that lies behind an error, if another one does.  Behind that one
lies none: its text already holds all that is known of it. -/
def cause? : QueryError → Option String
  | unreadable _ fault => some fault.message
  | malformed _ fault => some fault.message
  | _ => none

def message : QueryError → String
  | query fault => fault.message
  | noTable table => "Table '" ++ table ++ "' does not exist"
  | unreadable table fault => "Failed to read table '" ++ table ++ "': " ++ fault.message
  | malformed table fault => "Malformed CSV in table '" ++ table ++ "': " ++ fault.message
  | schema fault => fault.message

/-- The message, and behind it the text of the cause. -/
def report (e : QueryError) : String :=
  match e.cause? with
  | none => e.message
  | some cause => e.message ++ ": " ++ cause

end QueryError
end TableQuery
