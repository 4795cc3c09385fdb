import TableQuery.Json.Token
import TableQuery.Table

/-!
# Result tables as JSON

A result is an object with the labels under `columns` and the rows under `rows`,
and a row is an object in its own order.  Numbers that are written as integers in
a table are written so here too; numbers that are not finite are written as null.
-/

namespace TableQuery
namespace Json

/-!
## Writing
-/

/-- From the fifth place behind the point to the sixteenth before it digits stand
in their places; elsewhere a power of ten is written.  Every such number shows that
it is no integer, and ties go to the even digit. -/
def numberStyle : Decimal.Style :=
  { tie := .even, positional := some (-5, 15), marksIntegers := true }

def writeNumber (x : Float) : List Char :=
  match Cell.writtenInteger? x with
  | some n => Decimal.writeInteger n
  | none =>
      match Decimal.kind x with
      | .finite parts => numberStyle.write parts
      | _ => "null".toList

def writeCell : Cell → List Char
  | .null => "null".toList
  | .number x => writeNumber x
  | .text s => writeString s

def separate (items : List (List Char)) : List Char :=
  List.intercalate [','] items

def writeArray (items : List (List Char)) : List Char :=
  '[' :: separate items ++ [']']

def writeMember (name : String) (value : List Char) : List Char :=
  writeString name ++ ':' :: value

def writeObject (members : List (List Char)) : List Char :=
  '\x7b' :: separate members ++ ['\x7d']

def writeRow (row : Row) : List Char :=
  writeObject (row.entries.map fun entry => writeMember entry.1 (writeCell entry.2))

def writeResult (r : ResultTable) : List Char :=
  writeObject
    [writeMember "columns" (writeArray (r.columns.map writeString)),
      writeMember "rows" (writeArray (r.rows.map writeRow))]

/-!
## Reading rows
-/

def takeCell : List Token → Except Fault (Cell × List Token)
  | .null :: rest => .ok (.null, rest)
  | .number (some x) :: rest => .ok (.number x, rest)
  | .string (some s) :: rest => .ok (.text s, rest)
  | tokens => .error (faultAt tokens)

/-- The members of a row from a name on, up to its closing brace. -/
def takeEntries : List Token → Except Fault (List (String × Cell) × List Token)
  | .string (some name) :: .colon :: value :: rest => do
      let (cell, _) ← takeCell [value]
      match rest with
      | .comma :: rest => do
          let (entries, rest) ← takeEntries rest
          pure ((name, cell) :: entries, rest)
      | .closeBrace :: rest => pure ([(name, cell)], rest)
      | _ => .error .malformed
  | _ => .error .malformed

/-- A row is an object; a name that is repeated keeps its place and its last cell. -/
def takeRow : List Token → Except Fault (Row × List Token)
  | .openBrace :: .closeBrace :: rest => .ok (Row.empty, rest)
  | .openBrace :: rest => do
      let (entries, rest) ← takeEntries rest
      pure (Row.ofList entries, rest)
  | tokens => .error (faultAt tokens)

/-!
## Reading lists
-/

/-- The items of an array from the first of at most `fuel` of them on, up to its
closing bracket.  Every item takes at least one token. -/
def takeItems (item : List Token → Except Fault (α × List Token)) :
    Nat → List Token → Except Fault (List α × List Token)
  | 0, _ => .error .malformed
  | fuel + 1, tokens => do
      let (first, rest) ← item tokens
      match rest with
      | .comma :: rest => do
          let (items, rest) ← takeItems item fuel rest
          pure (first :: items, rest)
      | .closeBracket :: rest => pure ([first], rest)
      | _ => .error .malformed

def takeArray (item : List Token → Except Fault (α × List Token)) (tokens : List Token) :
    Except Fault (List α × List Token) :=
  match tokens with
  | .openBracket :: .closeBracket :: rest => .ok ([], rest)
  | .openBracket :: rest => takeItems item rest.length rest
  | tokens => .error (faultAt tokens)

def takeColumns (tokens : List Token) : Except Fault (List String × List Token) :=
  takeArray takeString tokens

def takeRows (tokens : List Token) : Except Fault (List Row × List Token) :=
  takeArray takeRow tokens

/-!
## Reading results
-/

structure Members where
  columns : Option (List String)
  rows : Option (List Row)

namespace Members

/-- Reads the member of the given name, which must be new if it is known. -/
def take (members : Members) (name : String) (tokens : List Token) :
    Except Fault (Members × List Token) :=
  if name = "columns" && members.columns.isSome || name = "rows" && members.rows.isSome then
    .error .mismatch
  else
    match tokens with
    | .colon :: tokens =>
        if name = "columns" then do
          let (columns, rest) ← takeColumns tokens
          pure ({ members with columns }, rest)
        else if name = "rows" then do
          let (rows, rest) ← takeRows tokens
          pure ({ members with rows }, rest)
        else do
          let rest ← skipValue tokens
          pure (members, rest)
    | _ => .error .malformed

/-- The members from a name on, up to the closing brace, at most `fuel` of them. -/
def takeAll (members : Members) : Nat → List Token → Except Fault (Members × List Token)
  | 0, _ => .error .malformed
  | fuel + 1, tokens =>
      match tokens with
      | .string (some name) :: tokens => do
          let (members, rest) ← members.take name tokens
          match rest with
          | .comma :: rest => members.takeAll fuel rest
          | .closeBrace :: rest => pure (members, rest)
          | _ => .error .malformed
      | _ => .error .malformed

/-- The result, if no member is missing. -/
def result (members : Members) : Except Fault ResultTable :=
  match members.columns, members.rows with
  | some columns, some rows => .ok { columns, rows }
  | _, _ => .error .mismatch

end Members

/-- A result is an object with both members, or an array of the two. -/
def takeResult : List Token → Except Fault (ResultTable × List Token)
  | .openBrace :: .closeBrace :: _ => .error .mismatch
  | .openBrace :: rest => do
      let (members, rest) ← Members.takeAll { columns := none, rows := none } rest.length rest
      let result ← members.result
      pure (result, rest)
  | .openBracket :: rest => do
      let (columns, rest) ← takeColumns rest
      match rest with
      | .comma :: rest => do
          let (rows, rest) ← takeRows rest
          match rest with
          | .closeBracket :: rest => pure ({ columns, rows }, rest)
          | _ => .error .malformed
      | _ => .error .mismatch
  | tokens => .error (faultAt tokens)

def readAll (take : List Token → Except Fault (α × List Token)) (text : String) :
    Except Fault α :=
  match take (tokens text) with
  | .error fault => .error fault
  | .ok (value, []) => .ok value
  | .ok _ => .error .malformed

def readRow (text : String) : Except Fault Row :=
  readAll takeRow text

def readResult (text : String) : Except Fault ResultTable :=
  readAll takeResult text

end Json
end TableQuery
