import TableQuery.Execution
import TableQuery.Json.Request
import TableQuery.Json.Result

/-!
# Queries over HTTP

The service answers queries that are posted to `/query`, and says at `/health`
that it is there.  The status of an answer tells whose fault a failure is: a
query that cannot be read is the client's, and a table that cannot be read is the
service's.
-/

namespace TableQuery
namespace Service

structure Request where
  method : String
  /-- The target with its query string, as it stands in the request. -/
  target : String
  /-- Whether the body is declared to be JSON. -/
  declaresJson : Bool
  body : String
  deriving Repr, DecidableEq

/-- A status, and the text of the body if it is JSON. -/
structure Response where
  status : Nat
  json : Option String
  deriving Repr, DecidableEq

/-!
## Targets
-/

/-- The target after its scheme and host, if it has them. -/
def dropHost (target : List Char) : List Char :=
  match Text.cut? ':' target with
  | some (_, '/' :: '/' :: rest) => rest.dropWhile fun c => c != '/' && c != '?' && c != '#'
  | _ => target

/-- The path of a target: up to its query string, and after its host. -/
def pathOf (target : String) : String :=
  let rest := if target.toList.head? = some '/' then target.toList else dropHost target.toList
  String.ofList (rest.takeWhile fun c => c != '?' && c != '#')

inductive Route where
  | health
  | query
  deriving Repr, DecidableEq

def routeOf? (path : String) : Option Route :=
  match path with
  | "/health" => some .health
  | "/query" => some .query
  | _ => none

/-!
## Answers
-/

def bare (status : Nat) : Response :=
  { status, json := none }

def okText : String :=
  String.ofList (Json.writeObject [Json.writeMember "status" (Json.writeString "ok")])

def errorText (e : QueryError) : String :=
  String.ofList (Json.writeObject [Json.writeMember "error" (Json.writeString e.message)])

def statusOf : QueryError → Nat
  | .query _ => 400
  | .noTable _ => 404
  | .unreadable _ _ => 500
  | .malformed _ _ => 500
  | .schema _ => 500

def respondTo (source : Source) (sql : String) : Response :=
  match answer source sql with
  | .ok result => { status := 200, json := some (String.ofList (Json.writeResult result)) }
  | .error e => { status := statusOf e, json := some (errorText e) }

/-- Health is asked for with `GET`, or with `HEAD` for an answer without a body. -/
def health (method : String) : Response :=
  if method = "GET" then { status := 200, json := some okText }
  else if method = "HEAD" then { status := 200, json := some "" }
  else bare 405

/-- The greatest number of bytes of a body that is read. -/
def maxBody : Nat :=
  2097152

def query (source : Source) (request : Request) : Response :=
  if request.method ≠ "POST" then bare 405
  else if !request.declaresJson then bare 415
  else if maxBody < request.body.utf8ByteSize then bare 413
  else
    match Json.readRequest request.body with
    | .error .malformed => bare 400
    | .error .mismatch => bare 422
    | .ok sql => respondTo source sql

def respond (source : Source) (request : Request) : Response :=
  match routeOf? (pathOf request.target) with
  | none => bare 404
  | some .health => health request.method
  | some .query => query source request

end Service
end TableQuery
