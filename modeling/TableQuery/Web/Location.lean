import TableQuery.Web.Path

/-!
# Web addresses

An address begins with a scheme.  For the schemes of the web, a host follows
whatever number of slashes there are, and a backslash is a slash.  For others, a
host follows two slashes, and what has no slash at all is not looked into.  In front
of a host may stand the name and the password of a user.
-/

namespace TableQuery
namespace Web

structure Credentials where
  username : String
  password : Option String
  deriving Repr, DecidableEq

structure Location where
  scheme : String
  credentials : Credentials
  host : Option String
  port : Option Nat
  path : String
  query : Option String
  fragment : Option String
  deriving Repr, DecidableEq

/-!
## Users
-/

namespace Credentials

def nobody : Credentials :=
  { username := "", password := none }

def isEmpty (c : Credentials) : Bool :=
  c.username.isEmpty && c.password.isNone

def chars : List Char :=
  pathChars ++ "/:;=@[\\]^|".toList

def encode (cs : List Char) : String :=
  String.ofList (percentEncode chars cs)

/-- A name, and a password behind the first colon; an empty password is none. -/
def read (cs : List Char) : Credentials :=
  match Text.cut? ':' cs with
  | none => { username := encode cs, password := none }
  | some (name, word) =>
      { username := encode name
        password := if word.isEmpty then none else some (encode word) }

def text (c : Credentials) : String :=
  if c.isEmpty then ""
  else c.username ++ (c.password.map fun word => ":" ++ word).getD "" ++ "@"

/-- Whether they can be read: the name must be well-formed, and if it is empty, there
must be a password that is. -/
def isReadable (c : Credentials) : Bool :=
  match Text.Utf8.decode? (percentDecode c.username.toList) with
  | none => false
  | some name =>
      !name.isEmpty ||
        (c.password.bind fun word => Text.Utf8.decode? (percentDecode word.toList)).isSome

end Credentials

/-!
## Parts
-/

/-- Blanks and controls at the ends do not count. -/
def withoutEnds (cs : List Char) : List Char :=
  let isOuter (c : Char) : Bool := c.toNat ≤ 0x20
  ((cs.dropWhile isOuter).reverse.dropWhile isOuter).reverse

def endsHost (kind : SchemeKind) (c : Char) : Bool :=
  c = '/' || c = '?' || c = '#' || (c = '\\' && kind != .other)

def cutLast? (sep : Char) (cs : List Char) : Option (List Char × List Char) :=
  (Text.cut? sep cs.reverse).map fun parts => (parts.2.reverse, parts.1.reverse)

/-- The host up to a colon that is not in brackets, and the rest. -/
def takeHost (inside : Bool) : List Char → List Char × List Char
  | [] => ([], [])
  | c :: cs =>
      if c = ':' && !inside then
        ([], c :: cs)
      else
        let inside := if c = '[' then true else if c = ']' then false else inside
        let (host, rest) := takeHost inside cs
        (c :: host, rest)

def endsPort (c : Char) : Bool :=
  c = '/' || c = '\\' || c = '?' || c = '#'

/-- A port after a colon, and what follows it; the usual one of the scheme is not
kept. -/
def takePort (scheme : String) : List Char → Except Fault (Option Nat × List Char)
  | ':' :: cs =>
      let digits := cs.takeWhile Char.isDigit
      let rest := cs.dropWhile Char.isDigit
      let port := Decimal.digitsValue digits
      if 65535 < port || !(rest.head?.all endsPort) then .error .badPort
      else if digits.isEmpty || defaultPort? scheme = some port then .ok (none, rest)
      else .ok (some port, rest)
  | cs => .ok (none, cs)

def queryChars (kind : SchemeKind) : List Char :=
  if kind = .other then " \x22#<>".toList else " \x22#<>\x27".toList

def fragmentChars : List Char :=
  " \x22<>\x60".toList

structure Tail where
  path : List Char
  query : Option (List Char)
  fragment : Option (List Char)
  deriving Repr, DecidableEq

namespace Tail

def ofText (cs : List Char) : Tail :=
  let (front, fragment) :=
    match Text.cut? '#' cs with
    | some (front, fragment) => (front, some fragment)
    | none => (cs, none)
  match Text.cut? '?' front with
  | some (path, query) => { path, query := some query, fragment }
  | none => { path := front, query := none, fragment }

/-- The address that ends in a tail, without a user, a host and a port. -/
def location (tail : Tail) (kind : SchemeKind) (scheme path : String) : Location :=
  { scheme, credentials := Credentials.nobody, host := none, port := none, path
    query := tail.query.map fun q => String.ofList (percentEncode (queryChars kind) q)
    fragment := tail.fragment.map fun f => String.ofList (percentEncode fragmentChars f) }

end Tail

/-!
## Whole addresses
-/

/-- A file on a host, or on the own one, which is not named.  What follows its slash is
the path; on the own host, the slash is part of it.  On a drive, no host counts. -/
def fileOn (scheme host : String) (cs : List Char) : Location :=
  let tail := Tail.ofText (withoutBreaks cs)
  let path := withSlashes .file (cs.takeWhile fun c => c != '?' && c != '#')
  let path := path.dropWhile isBreak
  let walk := walkAlong .file (if host.isEmpty then path else dropSlash path)
  let host := if walk.isOnDrive then "" else host
  { tail.location .file scheme (filePathText walk.segments) with host := some host }

/-- A file, from behind its scheme on, with the breaks. -/
def readFileLocation (scheme : String) (cs : List Char) : Except Fault Location :=
  match cs.dropWhile isBreak with
  | a :: rest =>
      if !isSlash a then
        .ok (fileOn scheme "" (a :: rest))
      else
        match rest.dropWhile isBreak with
        | b :: rest =>
            if !isSlash b then
              .ok (fileOn scheme "" (b :: rest))
            else
              let host := withoutBreaks (rest.takeWhile fun c => !endsHost .file c)
              if isDrive host then
                .ok (fileOn scheme "" rest)
              else do
                let host ← if host.isEmpty then .ok "" else webHost host
                let host := if host = "localhost" then "" else host
                pure (fileOn scheme host (rest.dropWhile fun c => !endsHost .file c))
        | [] => .ok (fileOn scheme "" [])
  | [] => .ok (fileOn scheme "" [])

/-- What follows the slashes: a user, a host, a port and a path. -/
def readHosted (kind : SchemeKind) (scheme : String) (cs : List Char) :
    Except Fault Location := do
  let front := cs.takeWhile fun c => !endsHost kind c
  let tail := cs.dropWhile fun c => !endsHost kind c
  let (user, place) := (cutLast? '@' front).getD ([], front)
  let (host, rest) := takeHost false place
  let credentials := Credentials.read user
  let isAlone := front = ['@'] && !tail.isEmpty
  if isAlone || host.isEmpty && (kind = .web || !rest.isEmpty || !credentials.isEmpty) then
    .error .emptyHost
  else do
    let host ← if kind = .web then webHost host else otherHost host
    let (port, rest) ← takePort scheme (rest ++ tail)
    let tail := Tail.ofText rest
    pure { tail.location kind scheme (readPath kind tail.path) with
      credentials, host := some host, port }

def readOther (scheme : String) (cs : List Char) : Except Fault Location :=
  match cs with
  | '/' :: '/' :: rest => readHosted .other scheme rest
  | '/' :: _ =>
      let tail := Tail.ofText cs
      .ok (tail.location .other scheme (readPath .other tail.path))
  | cs =>
      let tail := Tail.ofText cs
      .ok (tail.location .other scheme (String.ofList (percentEncode [] tail.path)))

namespace Location

def read (text : String) : Except Fault Location := do
  let cs := withoutEnds text.toList
  let (scheme, rest) ← takeScheme (withoutBreaks cs)
  match schemeKind scheme with
  | .file => readFileLocation scheme ((cs.dropWhile (· != ':')).drop 1)
  | .web => readHosted .web scheme (rest.dropWhile isSlash)
  | .other => readOther scheme rest

def text (l : Location) : String :=
  let host :=
    match l.host with
    | none => if l.path.startsWith "//" then "/." else ""
    | some host => "//" ++ l.credentials.text ++ host
  let port := (l.port.map fun n => ":" ++ toString n).getD ""
  let query := (l.query.map fun q => "?" ++ q).getD ""
  let fragment := (l.fragment.map fun f => "#" ++ f).getD ""
  l.scheme ++ ":" ++ host ++ port ++ l.path ++ query ++ fragment

/-- The address without its user, if the user can be read. -/
def anonymous (l : Location) : Location :=
  if l.credentials.isReadable then { l with credentials := Credentials.nobody } else l

end Location

end Web
end TableQuery
