import TableQuery.Execution

/-!
# Tables in files

A table is the file of its name, with `.csv` behind it, in a directory.  A name
is a path: it may lead into folders, and a name that climbs out of the directory,
or that starts at the root of the file system, leads to nothing that the
directory holds.
-/

namespace TableQuery

/-!
## Paths
-/

def tablePath (table : String) : String :=
  table ++ ".csv"

namespace Path

def isAbsolute (path : List Char) : Bool :=
  path.head? = some '/'

/-- The steps of a path: empty ones and those to the same folder lead nowhere. -/
def steps (path : List Char) : List (List Char) :=
  (Text.pieces '/' path).filter fun step => !step.isEmpty && step != ['.']

/-- The path without the leading steps that lead nowhere. -/
def dropIdle : List Char → List Char
  | [] => []
  | '/' :: cs => dropIdle cs
  | '.' :: '/' :: cs => dropIdle cs
  | cs => cs

/-- The path as it is seen from the directory, if it is not absolute. -/
def seenFromDirectory (path : String) : String :=
  if isAbsolute path.toList then path else String.ofList (dropIdle path.toList)

/-- The place that steps lead to from a folder, where each climb undoes the last
step that was not one; nothing for steps that climb out. -/
def resolve : List (List Char) → List (List Char) → Option (List (List Char))
  | here, [] => some here
  | here, step :: rest =>
      if step = ['.', '.'] then
        match here with
        | [] => none
        | _ :: outer => resolve outer rest
      else
        resolve (step :: here) rest

def staysInside (path : String) : Bool :=
  !isAbsolute path.toList && (resolve [] (steps path.toList)).isSome

end Path

/-!
## Directories
-/

/-- What a directory holds: files and folders by their steps from it. -/
structure DataDirectory where
  files : List (List (List Char) × List UInt8)
  folders : List (List (List Char))
  deriving Inhabited

inductive FileOutcome where
  | missing
  | failed (fault : ReadFault)
  | found (bytes : List UInt8)
  deriving Repr, DecidableEq

namespace DataDirectory

def empty : DataDirectory :=
  { files := [], folders := [] }

def addFile (d : DataDirectory) (path : String) (bytes : List UInt8) : DataDirectory :=
  { d with files := (Path.steps path.toList, bytes) :: d.files }

def addFolder (d : DataDirectory) (path : String) : DataDirectory :=
  { d with folders := Path.steps path.toList :: d.folders }

def file? (d : DataDirectory) (place : List (List Char)) : Option (List UInt8) :=
  d.files.lookup place

/-- A folder is named as one, or lies on the way to a file or a folder. -/
def isFolder (d : DataDirectory) (place : List (List Char)) : Bool :=
  place.isEmpty || d.folders.any place.isPrefixOf ||
    d.files.any fun file => place.isPrefixOf file.1 && place != file.1

def maxStep : Nat := 255

def maxPath : Nat := 4095

def isTooLong (step : List Char) : Bool :=
  maxStep < (Text.Utf8.encode step).length

/-- Follows steps from a folder outside the directory.  Folders lead up from there, and
nothing else is known to be there. -/
def followOutside : List (List Char) → FileOutcome
  | [] => .failed .isDirectory
  | step :: rest =>
      if step = ['.', '.'] then followOutside rest
      else if isTooLong step then .failed .nameTooLong
      else .missing

/-- Follows steps from a folder, given by its own steps.  Every step but the last
must lead to a folder. -/
def follow (d : DataDirectory) (here : List (List Char)) : List (List Char) → FileOutcome
  | [] => .failed .isDirectory
  | step :: rest =>
      if step = ['.', '.'] then
        if here.isEmpty then followOutside rest else d.follow here.dropLast rest
      else if isTooLong step then
        .failed .nameTooLong
      else
        let place := here ++ [step]
        if d.isFolder place then
          d.follow place rest
        else
          match d.file? place with
          | none => .missing
          | some bytes => if rest.isEmpty then .found bytes else .failed .notDirectory

def readFile (d : DataDirectory) (path : String) : FileOutcome :=
  if path.toList.contains '\x00' then
    .failed .nulInName
  else if maxPath < path.utf8ByteSize then
    .failed .nameTooLong
  else if Path.isAbsolute path.toList then
    followOutside (Path.steps path.toList)
  else
    d.follow [] (Path.steps path.toList)

end DataDirectory

def tableOfFile (table : String) : FileOutcome → Except QueryError Table
  | .missing => .error (.noTable table)
  | .failed fault => .error (.unreadable table fault)
  | .found bytes => (Csv.readTable table bytes).mapError (QueryError.malformed table)

namespace DataDirectory

/-- Tables are read anew for every query. -/
def load (d : DataDirectory) : Source := fun table =>
  tableOfFile table (d.readFile (tablePath table))

end DataDirectory
end TableQuery
