import TableQuery.Proofs.Csv.Decoding
import TableQuery.Proofs.Row.Placing

/-!
# Tables of well-formed bytes

Separators, quotes and line breaks are ASCII characters, so that a text is cut into texts
wherever they stand.  Whatever else is wrong with it, it is a table: nothing but a field that
is no text is refused.
-/

namespace TableQuery
namespace Csv

open Text.Utf8 (IsValid isValid_nil)

variable {bytes : List UInt8}

/-!
## Fields
-/

theorem toNat_quote_lt : quote.toNat < 0x80 := by
  decide

theorem toNat_lt_of_isBreak {b : UInt8} (h : isBreak b = true) : b.toNat < 0x80 := by
  simp only [isBreak, Bool.or_eq_true, beq_iff_eq] at h
  rcases h with rfl | rfl <;> decide

theorem toNat_lt_of_isSeparator {b : UInt8} (h : isSeparator b = true) : b.toNat < 0x80 := by
  simp only [isSeparator, Bool.or_eq_true, beq_iff_eq] at h
  rcases h with rfl | hbreak
  · decide
  · exact toNat_lt_of_isBreak hbreak

theorem isValid_takeBare (h : IsValid bytes) :
    IsValid (takeBare bytes).1 ∧ IsValid (takeBare bytes).2 := by
  refine h.span ?_
  intro b hb
  rw [Bool.not_eq_true', Bool.eq_false_iff]
  intro hseparator
  have := toNat_lt_of_isSeparator hseparator
  omega

theorem takeQuoted_append {head : List UInt8} (h : ∀ b ∈ head, 0x80 ≤ b.toNat)
    (rest : List UInt8) :
    takeQuoted (head ++ rest) = (head ++ (takeQuoted rest).1, (takeQuoted rest).2) := by
  induction head with
  | nil =>
      rfl
  | cons b head ih =>
      rw [List.forall_mem_cons] at h
      have hb : b ≠ quote := by
        rintro rfl
        exact absurd h.1 (by decide)
      rw [List.cons_append, takeQuoted_cons_of_ne hb, ih h.2]
      rfl

theorem takeQuoted_quote_of_ne {b : UInt8} (h : b ≠ quote) (rest : List UInt8) :
    takeQuoted (quote :: b :: rest) = takeBare (b :: rest) := by
  rw [takeQuoted.eq_def]
  simp [h]

/-- The statement is for the bytes and for what follows a quote at their beginning: behind two
quotes the field goes on. -/
theorem isValid_takeQuoted (h : IsValid bytes) :
    (IsValid (takeQuoted bytes).1 ∧ IsValid (takeQuoted bytes).2) ∧
      ∀ rest, bytes = quote :: rest →
        IsValid (takeQuoted rest).1 ∧ IsValid (takeQuoted rest).2 := by
  induction h using IsValid.induction with
  | nil =>
      exact ⟨⟨isValid_nil, isValid_nil⟩, nofun⟩
  | ascii b rest hb hrest h ih =>
      refine ⟨?_, ?_⟩
      · by_cases hquote : b = quote
        · subst hquote
          cases rest with
          | nil =>
              exact ⟨isValid_nil, isValid_nil⟩
          | cons c rest =>
              by_cases hc : c = quote
              · subst hc
                rw [takeQuoted_quote_quote]
                exact ⟨(ih.2 rest rfl).1.cons toNat_quote_lt, (ih.2 rest rfl).2⟩
              · rw [takeQuoted_quote_of_ne hc]
                exact isValid_takeBare hrest
        · rw [takeQuoted_cons_of_ne hquote]
          exact ⟨ih.1.1.cons hb, ih.1.2⟩
      · rintro _ hcons
        cases hcons
        exact ih.1
  | long head rest hne hhead hvalid hrest _ ih =>
      refine ⟨?_, ?_⟩
      · rw [takeQuoted_append hhead]
        exact ⟨hvalid.append ih.1.1, ih.1.2⟩
      · rcases List.exists_cons_of_ne_nil hne with ⟨b, more, rfl⟩
        rintro _ hcons
        cases hcons
        exact absurd (hhead quote List.mem_cons_self) (by decide)

theorem isValid_takeField (h : IsValid bytes) :
    IsValid (takeField bytes).1 ∧ IsValid (takeField bytes).2 := by
  cases bytes with
  | nil =>
      exact ⟨isValid_nil, isValid_nil⟩
  | cons b rest =>
      rw [takeField]
      split
      · rename_i hquote
        subst hquote
        exact (isValid_takeQuoted h).2 rest rfl
      · exact isValid_takeBare h

/-!
## Records
-/

theorem isSeparator_of_takeBare {b : UInt8} {rest : List UInt8}
    (h : (takeBare bytes).2 = b :: rest) : isSeparator b = true := by
  have hhead := List.head?_dropWhile_not (fun b => !isSeparator b) bytes
  have hrest : bytes.dropWhile (fun b => !isSeparator b) = b :: rest := h
  rw [hrest] at hhead
  simpa using hhead

theorem isSeparator_of_takeQuoted {b : UInt8} {rest : List UInt8}
    (h : (takeQuoted bytes).2 = b :: rest) : isSeparator b = true := by
  fun_induction takeQuoted bytes with
  | case1 =>
      cases h
  | case2 =>
      cases h
  | case3 _ ih =>
      exact ih h
  | case4 _ _ _ =>
      exact isSeparator_of_takeBare h
  | case5 _ _ _ ih =>
      exact ih h

theorem isSeparator_of_takeField {b : UInt8} {rest : List UInt8}
    (h : (takeField bytes).2 = b :: rest) : isSeparator b = true := by
  cases bytes with
  | nil =>
      cases h
  | cons c bytes =>
      rw [takeField] at h
      split at h
      · exact isSeparator_of_takeQuoted h
      · exact isSeparator_of_takeBare h

theorem isValid_of_takeField {b : UInt8} {field rest : List UInt8} (h : IsValid bytes)
    (hfield : takeField bytes = (field, b :: rest)) : IsValid field ∧ IsValid rest := by
  have hparts := isValid_takeField h
  have hseparator : isSeparator b = true := isSeparator_of_takeField (congrArg Prod.snd hfield)
  rw [hfield] at hparts
  exact ⟨hparts.1, hparts.2.of_cons (toNat_lt_of_isSeparator hseparator)⟩

theorem isValid_takeRecord (h : IsValid bytes) :
    (∀ field ∈ (takeRecord bytes).1, IsValid field) ∧ IsValid (takeRecord bytes).2 := by
  fun_induction takeRecord bytes with
  | case1 bytes field hfield =>
      have hparts := isValid_takeField h
      rw [hfield] at hparts
      exact ⟨List.forall_mem_singleton.mpr hparts.1, isValid_nil⟩
  | case2 bytes field rest _ hfield ih =>
      rcases isValid_of_takeField h hfield with ⟨hvalid, hrest⟩
      rcases ih hrest with ⟨hfields, hend⟩
      exact ⟨List.forall_mem_cons.mpr ⟨hvalid, hfields⟩, hend⟩
  | case3 bytes field b rest hfield _ =>
      rcases isValid_of_takeField h hfield with ⟨hvalid, hrest⟩
      exact ⟨List.forall_mem_singleton.mpr hvalid, hrest⟩

theorem isValid_records (h : IsValid bytes) :
    ∀ record ∈ records bytes, ∀ field ∈ record.fields, IsValid field := by
  fun_induction records bytes with
  | case1 bytes _ =>
      exact nofun
  | case2 bytes b rest hdrop tail ih =>
      have hstart : IsValid (b :: rest) := by
        rw [← hdrop]
        exact h.dropWhile fun _ => toNat_lt_of_isBreak
      rcases isValid_takeRecord hstart with ⟨hfields, hrest⟩
      exact List.forall_mem_cons.mpr ⟨hfields, ih hrest⟩

theorem encodeChar_mark : String.utf8EncodeChar '\uFEFF' = [0xEF, 0xBB, 0xBF] := by
  decide

theorem isValid_dropMark (h : IsValid bytes) : IsValid (dropMark bytes) := by
  unfold dropMark
  split
  · rename_i rest
    rcases h with ⟨cs, hcs⟩
    -- The three bytes are the form of one character, which the text must begin with.
    have hnext : Text.Utf8.next? (0xEF :: 0xBB :: 0xBF :: rest) = some ('\uFEFF', rest) :=
      Text.Utf8.next?_eq_some_iff.mpr (by rw [encodeChar_mark]; rfl)
    rw [← hcs] at hnext
    cases cs with
    | nil =>
        cases hnext
    | cons c cs =>
        rw [Text.Utf8.next?_eq_some_iff.mpr (Text.Utf8.encode_cons c cs)] at hnext
        cases hnext
        exact ⟨cs, rfl⟩
  · exact h

theorem exists_forall₂ {α β : Type} {R : α → β → Prop} {bs : List β}
    (h : ∀ b ∈ bs, ∃ a, R a b) : ∃ as, List.Forall₂ R as bs := by
  induction bs with
  | nil =>
      exact ⟨[], .nil⟩
  | cons b bs ih =>
      rw [List.forall_mem_cons] at h
      rcases h.1 with ⟨a, ha⟩
      rcases ih h.2 with ⟨as, has⟩
      exact ⟨a :: as, .cons ha has⟩

theorem exists_holds {record : Record} (h : ∀ field ∈ record.fields, IsValid field) :
    ∃ texts, record.Holds texts := by
  rcases exists_forall₂ fun field hfield => exists_bytesOf (h field hfield) with ⟨texts, htexts⟩
  rw [← List.forall₂_map_left_iff (R := Eq), List.forall₂_eq_eq_eq] at htexts
  exact ⟨texts, htexts.symm⟩

/-!
## Tables
-/

/-- The column is the text of the field without the blanks around it. -/
def NamesColumn (field : List UInt8) (column : String) : Prop :=
  ∃ text, bytesOf text = field ∧ column.toList = Text.trim text.toList

/-- The row has the columns of the fields of the record, each once, and in each of them the
text of the last field that stands there. -/
structure HoldsFields (columns : List String) (record : Record) (row : Row) : Prop where
  keys : row.keys = (columns.take record.fields.length).eraseDups
  texts : ∀ entry ∈ row.entries, ∃ text, entry.2 = .text text
  cells : ∀ (i : Nat) (column text : String), columns[i]? = some column →
    record.fields[i]? = some (bytesOf text) →
      column ∉ (columns.take record.fields.length).drop (i + 1) →
        row.get? column = some (.text text)

/-- The table has a column for each field of the first record, and a row for each other
record. -/
structure HoldsRecords (name : String) (found : List Record) (t : Table) : Prop where
  name : t.name = name
  columns : List.Forall₂ NamesColumn ((found.head?.map Record.fields).getD []) t.columns
  rows : List.Forall₂ (HoldsFields t.columns) found.tail t.rows

theorem holdsFields_rowOfTexts {columns texts : List String} {record : Record}
    (h : record.Holds texts) : HoldsFields columns record (Table.rowOfTexts columns texts) where
  keys := by
    rw [Table.keys_rowOfTexts, h, List.length_map]
  texts := by
    rintro ⟨key, cell⟩ hentry
    rw [← Row.get?_eq_some_iff] at hentry
    rcases Row.mem_or_of_get?_insertAll hentry with hplaced | hempty
    · exact Table.exists_text_of_mem_placed hplaced
    · cases hempty
  cells := by
    intro i column text hcolumn hfield hlast
    rw [h, List.getElem?_map, Option.map_eq_some_iff] at hfield
    rcases hfield with ⟨found, htext, hbytes⟩
    rw [bytesOf_inj hbytes] at htext
    rw [h, List.length_map] at hlast
    exact Table.get?_insertAll_placed hcolumn htext hlast

theorem holdsRecords_tableOf (name : String) {lines : List (List String)} {found : List Record}
    (h : List.Forall₂ Record.Holds lines found) : HoldsRecords name found (tableOf name lines) := by
  cases h with
  | nil =>
      exact { name := rfl, columns := .nil, rows := .nil }
  | @cons header record lines found hheader hlines =>
      refine { name := rfl, columns := ?_, rows := ?_ }
      · show List.Forall₂ NamesColumn record.fields (header.map columnName)
        rw [hheader, List.forall₂_map_left_iff, List.forall₂_map_right_iff, List.forall₂_same]
        intro text _
        exact ⟨text, rfl, String.toList_ofList⟩
      · show List.Forall₂ (HoldsFields (header.map columnName)) found
          (lines.map (Table.rowOfTexts (header.map columnName)))
        rw [List.forall₂_map_right_iff]
        exact (hlines.imp fun _ _ => holdsFields_rowOfTexts).flip

/-- Well-formed bytes are a table, whatever their quotes, separators and line breaks: its
columns are the fields of the first record without the blanks around them, and every other
record is a row of texts. -/
theorem readTable_of_isValid (name : String) (h : IsValid bytes) :
    ∃ t, readTable name bytes = .ok t ∧ HoldsRecords name (records (dropMark bytes)) t := by
  have hvalid := isValid_records (isValid_dropMark h)
  rcases exists_forall₂ fun record hrecord => exists_holds (hvalid record hrecord) with
    ⟨lines, hlines⟩
  exact ⟨tableOf name lines, readTable_of_holds hlines, holdsRecords_tableOf name hlines⟩

theorem readTable_of_isValid_open_quote :
    let bytes := bytesOf "\uFEFF a ,b,a\r\n\r\r\"x\"\"y\"z,1\n2,3,4,5\r\"open, \n"
    IsValid bytes ∧
      ∃ t, readTable "t" bytes = .ok t ∧ HoldsRecords "t" (records (dropMark bytes)) t :=
  ⟨⟨_, rfl⟩, readTable_of_isValid "t" ⟨_, rfl⟩⟩

example :
    (readTable "t"
        (bytesOf "\uFEFF a ,b,a\r\n\r\r\"x\"\"y\"z,1\n2,3,4,5\r\"open, \n")).toOption.map
      (fun t => (t.columns, t.rows.map fun row => row.entries.map fun entry =>
        (entry.1, entry.2.display))) =
      some (["a", "b", "a"], [[("a", "x\"yz"), ("b", "1")], [("a", "4"), ("b", "3")],
        [("a", "open, \n")]]) := by
  decide +kernel

end Csv
end TableQuery
