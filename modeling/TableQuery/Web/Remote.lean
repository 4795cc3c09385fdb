import TableQuery.Console
import TableQuery.Web.Location

/-!
# Queries to a remote service

A session may send its queries to a service elsewhere.  Queries are posted below
the address of the service, and only to addresses that are requested over HTTP.
-/

namespace TableQuery
namespace Web

/-- The address without the slashes that it ends in. -/
def dropSlashes (server : String) : String :=
  String.ofList ((server.toList.reverse.dropWhile (· == '/')).reverse)

def queryAddress (server : String) : String :=
  dropSlashes server ++ "/query"

inductive Refusal where
  | malformed (fault : Fault)
  | scheme (location : Location)
  deriving Repr, DecidableEq

namespace Refusal

def message : Refusal → String
  | malformed fault => "builder error: " ++ fault.message
  | scheme location =>
      "builder error for url (" ++ location.text ++ "): URL scheme is not allowed"

end Refusal

/-- The location that a request is sent to.  A user is told to the service apart from
the address, and is not shown. -/
def target (address : String) : Except Refusal Location :=
  match Location.read address with
  | .error fault => .error (.malformed fault)
  | .ok location =>
      if location.scheme = "http" || location.scheme = "https" then
        .ok location
      else
        .error (.scheme location.anonymous)

/-- Answers queries by posting them: a query for which no request can be sent is
refused, whatever its text. -/
def backend (send : Location → Console.Backend) (server : String) : Console.Backend :=
  fun text =>
    let address := queryAddress server
    match target address with
    | .ok location => send location text
    | .error refusal => .error ("failed to reach " ++ address ++ ": " ++ refusal.message)

end Web
end TableQuery
