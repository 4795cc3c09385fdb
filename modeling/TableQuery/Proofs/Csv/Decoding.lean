import Mathlib.Data.List.Forall2
import TableQuery.Csv.Table
import TableQuery.Proofs.Text.Utf8

/-!
# Tables of decoded records

Records whose fields are all texts make a table: the first one names its columns, and each
other one is a row with the texts in the columns of their places.
-/

namespace TableQuery
namespace Csv

/-- The bytes of a text. -/
def bytesOf (text : String) : List UInt8 :=
  Text.Utf8.encode text.toList

theorem decode?_bytesOf (text : String) :
    Text.Utf8.decode? (bytesOf text) = some text.toList :=
  Text.Utf8.decode?_eq_some_iff.mpr rfl

theorem bytesOf_inj {s t : String} (h : bytesOf s = bytesOf t) : s = t :=
  String.toList_inj.mp (Text.Utf8.encode_inj h)

theorem exists_bytesOf {bytes : List UInt8} (h : Text.Utf8.IsValid bytes) :
    ∃ text, bytesOf text = bytes := by
  rcases h with ⟨cs, rfl⟩
  exact ⟨String.ofList cs, by rw [bytesOf, String.toList_ofList]⟩

/-!
## Reading texts
-/

theorem decodeFields_bytesOf (n : Nat) (texts : List String) :
    decodeFields n (texts.map bytesOf) = .ok texts := by
  induction texts generalizing n with
  | nil =>
      rfl
  | cons text texts ih =>
      rw [List.map_cons, decodeFields, decode?_bytesOf]
      simp only [ih, String.ofList_toList]
      rfl

/-- The record has the texts as its fields. -/
def Record.Holds (texts : List String) (record : Record) : Prop :=
  record.fields = texts.map bytesOf

theorem decodeRows_of_holds {bytes : List UInt8} {columns : List String} {number : Nat}
    {lines : List (List String)} {records : List Record}
    (h : List.Forall₂ Record.Holds lines records) :
    decodeRows bytes columns number records = .ok (lines.map (Table.rowOfTexts columns)) := by
  induction h generalizing number with
  | nil =>
      rfl
  | cons hrecord _ ih =>
      rw [decodeRows, hrecord, decodeFields_bytesOf, ih]
      rfl

/-- The table that lines of texts make. -/
def tableOf (name : String) : List (List String) → Table
  | [] => { name, columns := [], rows := [] }
  | header :: lines =>
      { name, columns := header.map columnName
        rows := lines.map (Table.rowOfTexts (header.map columnName)) }

theorem readTable_of_holds {name : String} {bytes : List UInt8} {lines : List (List String)}
    (h : List.Forall₂ Record.Holds lines (records (dropMark bytes))) :
    readTable name bytes = .ok (tableOf name lines) := by
  rw [readTable]
  generalize records (dropMark bytes) = found at h
  cases h with
  | nil =>
      rfl
  | cons hheader hlines =>
      show (decodeFields 0 _).mapError _ >>= _ = _
      rw [hheader, decodeFields_bytesOf]
      show decodeRows bytes _ 1 _ >>= _ = _
      rw [decodeRows_of_holds hlines]
      rfl

end Csv
end TableQuery
