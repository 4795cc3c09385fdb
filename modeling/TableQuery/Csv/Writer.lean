import TableQuery.Csv.Record
import TableQuery.Text.Utf8

/-!
# Writing separated values

Every field is written in quotes, with each quote inside it twice, so that no
character of a field is taken for a separator.
-/

namespace TableQuery
namespace Csv

def doubleQuotes (bytes : List UInt8) : List UInt8 :=
  bytes.flatMap fun b => if b = quote then [quote, quote] else [b]

@[simp]
theorem doubleQuotes_nil : doubleQuotes [] = [] :=
  rfl

theorem doubleQuotes_cons (b : UInt8) (bytes : List UInt8) :
    doubleQuotes (b :: bytes) =
      (if b = quote then [quote, quote] else [b]) ++ doubleQuotes bytes :=
  rfl

def writeField (field : String) : List UInt8 :=
  quote :: doubleQuotes (Text.Utf8.encode field.toList) ++ [quote]

def writeFields : List String → List UInt8
  | [] => []
  | [field] => writeField field
  | field :: fields => writeField field ++ comma :: writeFields fields

/-- Fields with commas between them, and a line break after the last one. -/
def writeRecord (fields : List String) : List UInt8 :=
  writeFields fields ++ [0x0A]

def writeRecords (records : List (List String)) : List UInt8 :=
  records.flatMap writeRecord

/-!
## Reading back
-/

/-- A quoted field that has been opened ends at the first quote that stands alone. -/
theorem takeQuoted_doubleQuotes (bytes : List UInt8) {b : UInt8} {rest : List UInt8}
    (h : isSeparator b = true) :
    takeQuoted (doubleQuotes bytes ++ quote :: b :: rest) = (bytes, b :: rest) := by
  have hb : b ≠ quote := by
    rintro rfl
    simp [isSeparator, comma, quote, isBreak] at h
  induction bytes with
  | nil =>
      simp [takeQuoted, takeBare, hb, h]
  | cons a bytes ih =>
      by_cases ha : a = quote
      · subst ha
        simp [doubleQuotes_cons, takeQuoted_quote_quote, ih]
      · simp [doubleQuotes_cons, takeQuoted_cons_of_ne ha, ha, ih]

theorem takeField_writeField (field : String) {b : UInt8} {rest : List UInt8}
    (h : isSeparator b = true) :
    takeField (writeField field ++ b :: rest) =
      (Text.Utf8.encode field.toList, b :: rest) := by
  simp [writeField, takeField, takeQuoted_doubleQuotes _ h]

end Csv
end TableQuery
