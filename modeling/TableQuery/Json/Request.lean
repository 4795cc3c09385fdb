import TableQuery.Json.Token

/-!
# Query requests as JSON

A request is an object with the text of a query under `sql`.  Other members are
passed over.  An array whose only item is the text is a request too.
-/

namespace TableQuery
namespace Json

def requestName : String := "sql"

/-- The members from a name on, up to the closing brace, at most `fuel` of them, and
the text among them.  A second text is refused as soon as its name is met. -/
def takeRequestMembers (sql : Option String) :
    Nat → List Token → Except Fault (Option String × List Token)
  | 0, _ => .error .malformed
  | fuel + 1, tokens =>
      match tokens with
      | .string (some name) :: tokens =>
          if name = requestName && sql.isSome then
            .error .mismatch
          else
            match tokens with
            | .colon :: tokens => do
                let (sql, rest) ←
                  if name = requestName then do
                    let (text, rest) ← takeString tokens
                    pure (some text, rest)
                  else do
                    let rest ← skipValue tokens
                    pure (sql, rest)
                match rest with
                | .comma :: rest => takeRequestMembers sql fuel rest
                | .closeBrace :: rest => pure (sql, .closeBrace :: rest)
                | _ => .error .malformed
            | _ => .error .malformed
      | _ => .error .malformed

def takeRequest : List Token → Except Fault (String × List Token)
  | .openBrace :: .closeBrace :: _ => .error .mismatch
  | .openBrace :: rest => do
      let (sql, rest) ← takeRequestMembers none rest.length rest
      match sql with
      | none => .error .mismatch
      | some text => pure (text, rest.drop 1)
  | .openBracket :: .closeBracket :: _ => .error .mismatch
  | .openBracket :: rest => do
      let (text, rest) ← takeString rest
      match rest with
      | .closeBracket :: rest => pure (text, rest)
      | _ => .error .malformed
  | tokens => .error (faultAt tokens)

def readRequest (body : String) : Except Fault String :=
  match takeRequest (tokens body) with
  | .error fault => .error fault
  | .ok (sql, []) => .ok sql
  | .ok _ => .error .malformed

def writeRequest (sql : String) : String :=
  String.ofList
    ('\x7b' :: writeString requestName ++ ':' :: writeString sql ++ ['\x7d'])

end Json
end TableQuery
