import TableQuery.Web.Host

/-!
# Schemes

An address begins with a scheme and a colon.  The scheme says how the rest is read:
some schemes belong to the web, one to the files of a host, and of the others nothing
is known.
-/

namespace TableQuery
namespace Web

inductive SchemeKind where
  | file
  | web
  | other
  deriving Repr, DecidableEq

def schemeKind (scheme : String) : SchemeKind :=
  if scheme = "file" then .file
  else if ["http", "https", "ws", "wss", "ftp"].contains scheme then .web
  else .other

def defaultPort? (scheme : String) : Option Nat :=
  match scheme with
  | "http" => some 80
  | "ws" => some 80
  | "https" => some 443
  | "wss" => some 443
  | "ftp" => some 21
  | _ => none

def isSchemeChar (c : Char) : Bool :=
  c.isAlphanum || c = '+' || c = '-' || c = '.'

/-- A scheme in lower case, and what follows its colon. -/
def takeScheme (cs : List Char) : Except Fault (String × List Char) :=
  match cs with
  | [] => .error .relative
  | c :: _ =>
      if !c.isAlpha then
        .error .relative
      else
        match cs.dropWhile isSchemeChar with
        | ':' :: rest =>
            .ok (String.ofList ((cs.takeWhile isSchemeChar).map Char.toLower), rest)
        | _ => .error .relative

end Web
end TableQuery
