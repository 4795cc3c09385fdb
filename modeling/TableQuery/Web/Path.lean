import TableQuery.Web.Scheme

/-!
# Paths of web addresses

A path is a row of segments, each behind a slash.  Steps in place and steps up are
carried out when it is read; no step leads up from a segment that names a drive.  In
the path of a file, a drive comes first and is named with a colon, and the path begins
with one slash alone.  Tabs and line breaks do not count, unless one parts a drive from
what follows it.
-/

namespace TableQuery
namespace Web

def isBreak (c : Char) : Bool :=
  c = '\t' || c = '\n' || c = '\r'

def withoutBreaks (cs : List Char) : List Char :=
  cs.filter fun c => !isBreak c

/-!
## Segments
-/

/-- A step to the folder above, also in encoded form. -/
def isUp (segment : List Char) : Bool :=
  ["..", ".%2e", "%2e.", "%2e%2e"].contains (String.ofList (segment.map Char.toLower))

/-- A step to the same folder, also in encoded form. -/
def isHere (segment : List Char) : Bool :=
  [".", "%2e"].contains (String.ofList (segment.map Char.toLower))

def isDriveSign (c : Char) : Bool :=
  c = ':' || c = '|'

/-- The name of a drive: a letter, and a colon or a bar. -/
def isDrive : List Char → Bool
  | [letter, sign] => letter.isAlpha && isDriveSign sign
  | _ => false

/-- A segment that is the name of a drive up to its end or to a backslash. -/
def startsWithDrive : List Char → Bool
  | letter :: sign :: rest =>
      letter.isAlpha && isDriveSign sign && (rest.isEmpty || rest.head? = some '\\')
  | _ => false

def driveName : List Char → List Char
  | [letter, _] => [letter, ':']
  | segment => segment

/-- The segments that remain after a step up, in reverse order. -/
def stepUp : List (List Char) → List (List Char)
  | [] => []
  | segment :: outer => if startsWithDrive segment then segment :: outer else outer

/-- A drive and what a break parts from it, in a segment that has its breaks. -/
def partedDrive? (segment : List Char) : Option (List Char × List Char) :=
  match Text.cut? ':' segment with
  | none => none
  | some (letter, rest) =>
      let drive := withoutBreaks letter ++ [':']
      if isDrive drive && rest.head?.any isBreak && !(withoutBreaks rest).isEmpty then
        some (drive, withoutBreaks rest)
      else
        none

/-- A path that is walked along: the segments that remain, in reverse order, and whether
the first of them is a drive as a whole. -/
structure Walk where
  done : List (List Char)
  isOnDrive : Bool
  deriving Repr, DecidableEq

namespace Walk

def start : Walk :=
  { done := [], isOnDrive := false }

/-- A walk one segment further, where the path goes on behind it or not.  Steps up and in
place are no segments, and a path that ends in such a step ends in a slash. -/
def take (isFile : Bool) (w : Walk) (segment : List Char) (goesOn : Bool) : Walk :=
  let isFirst := isFile && w.done.isEmpty
  let name := withoutBreaks segment
  match if isFirst then partedDrive? segment else none with
  | some (drive, rest) => { w with done := rest :: drive :: w.done }
  | none =>
      if isUp name || isHere name then
        let outer := if isUp name then stepUp w.done else w.done
        { w with done := if goesOn then outer else [] :: outer }
      else if isFirst && isDrive name then
        { done := [driveName name], isOnDrive := true }
      else
        { w with done := name :: w.done }

def takeAll (isFile : Bool) (w : Walk) : List (List Char) → Walk
  | [] => w
  | segment :: rest => (w.take isFile segment (!rest.isEmpty)).takeAll isFile rest

def segments (w : Walk) : List (List Char) :=
  w.done.reverse

end Walk

/-!
## Whole paths
-/

def isSlash (c : Char) : Bool :=
  c = '/' || c = '\\'

/-- A backslash is a slash, but for schemes of which nothing is known. -/
def withSlashes (kind : SchemeKind) (cs : List Char) : List Char :=
  if kind = .other then cs else cs.map fun c => if c = '\\' then '/' else c

def dropSlash : List Char → List Char
  | '/' :: cs => cs
  | cs => cs

def walkAlong (kind : SchemeKind) (cs : List Char) : Walk :=
  Walk.start.takeAll (kind = .file) (Text.pieces '/' cs)

def pathChars : List Char :=
  " \x22#<>?\x60\x7b\x7d".toList

def pathText (segments : List (List Char)) : List Char :=
  segments.flatMap fun segment => '/' :: percentEncode pathChars segment

/-- The text of a path after a host: for the web it is never empty. -/
def readPath (kind : SchemeKind) (cs : List Char) : String :=
  if kind = .other && cs.isEmpty then ""
  else String.ofList (pathText (walkAlong kind (dropSlash (withSlashes kind cs))).segments)

def filePathText (segments : List (List Char)) : String :=
  String.ofList ('/' :: (pathText segments).dropWhile (· == '/'))

end Web
end TableQuery
