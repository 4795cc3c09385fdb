import TableQuery.Csv.Record
import TableQuery.Text.Utf8
import TableQuery.Table

/-!
# Tables from separated values

The first record names the columns, without blanks around the names; every other
record is a row of texts.  The only bytes that are no table are those in which
some field is no well-formed text.
-/

namespace TableQuery
namespace Csv

/-- A field that is no well-formed text: the record and the place where it begins,
counted from zero except for lines, and the well-formed beginning of the field. -/
structure Fault where
  record : Nat
  line : Nat
  byte : Nat
  field : Nat
  index : Nat
  deriving Repr, DecidableEq

namespace Fault

def message (f : Fault) : String :=
  "CSV parse error: record " ++ toString f.record ++ " (line " ++ toString f.line ++
    ", field: " ++ toString f.field ++ ", byte: " ++ toString f.byte ++
    "): invalid utf-8: invalid UTF-8 in field " ++ toString f.field ++
    " near byte index " ++ toString f.index

end Fault

/-- A place in the bytes: a line counted from one, and a byte counted from zero. -/
structure Place where
  line : Nat
  byte : Nat
  deriving Repr, DecidableEq

namespace Place

/-- The place in the bytes that has the given ones after it. -/
def before (bytes onward : List UInt8) : Place :=
  let consumed := bytes.take (bytes.length - onward.length)
  { line := consumed.count 0x0A + 1, byte := consumed.length }

/-- The fault of a record that begins at the place: its first field that is no
well-formed text, and the length of the well-formed beginning of that. -/
def fault (place : Place) (record field index : Nat) : Fault :=
  { record, line := place.line, byte := place.byte, field, index }

end Place

/-- The texts of fields counted from `n`, or the first field that is none. -/
def decodeFields (n : Nat) : List (List UInt8) → Except (Nat × Nat) (List String)
  | [] => .ok []
  | field :: fields =>
      match Text.Utf8.decode? field with
      | none => .error (n, Text.Utf8.validLength field)
      | some cs => do
          let texts ← decodeFields (n + 1) fields
          pure (String.ofList cs :: texts)

/-- The rows of the records, the first of which has the given number. -/
def decodeRows (bytes : List UInt8) (columns : List String) (number : Nat) :
    List Record → Except Fault (List Row)
  | [] => .ok []
  | record :: records => do
      let texts ← (decodeFields 0 record.fields).mapError fun (field, index) =>
        (Place.before bytes record.onward).fault number field index
      let rows ← decodeRows bytes columns (number + 1) records
      pure (Table.rowOfTexts columns texts :: rows)

/-- A column is named by its text in the header without blanks around it. -/
def columnName (header : String) : String :=
  String.ofList (Text.trim header.toList)

def readTable (name : String) (bytes : List UInt8) : Except Fault Table :=
  match records (dropMark bytes) with
  | [] => .ok { name, columns := [], rows := [] }
  | header :: records => do
      let headers ← (decodeFields 0 header.fields).mapError fun (field, index) =>
        Place.fault { line := 1, byte := 0 } 0 field index
      let columns := headers.map columnName
      let rows ← decodeRows bytes columns 1 records
      pure { name, columns, rows }

end Csv
end TableQuery
