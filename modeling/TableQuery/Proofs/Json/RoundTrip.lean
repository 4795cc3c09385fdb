import TableQuery.Proofs.Json.Tokens
import TableQuery.Proofs.Cell.Literals
import TableQuery.Proofs.Row.Filling

/-!
# Results written and read

A result that is written as JSON is read as itself, but for what JSON cannot tell of its
numbers: the sign of a zero, and which number it was that is not finite.  Texts are never
taken for numbers, and numbers never for texts.
-/

namespace TableQuery

open Decimal Json

/-!
## What is carried over
-/

namespace Cell

/-- The cell that is read where the cell is written. -/
def carried : Cell → Cell
  | number x => if isFinite x then number (unsignZero x) else null
  | cell => cell

/-- A number that is written with a point or a power of ten is read as it was. -/
def ReadsBack : Cell → Prop
  | number x => isFinite x = true → writtenInteger? x = none →
      readNumber? (writeNumber x) = some x
  | _ => True

def token : Cell → Json.Token
  | null => .null
  | number x => .number (some x)
  | text s => .string (some s)

theorem writeNumber_of_not_isFinite {x : Float} (h : ¬isFinite x = true) :
    writeNumber x = "null".toList := by
  cases hkind : kind x with
  | finite b => exact absurd (isFinite_iff_exists.mpr ⟨b, hkind⟩) h
  | infinite negative => simp [writeNumber, writtenInteger?, hkind]
  | notANumber => simp [writeNumber, writtenInteger?, hkind]

theorem spells_writeCell {cell : Cell} (h : cell.ReadsBack) :
    Spells (writeCell cell) [cell.carried.token] := by
  cases cell with
  | null =>
      exact spells_null
  | text s =>
      exact spells_writeString s
  | number x =>
      have hwritten : writeCell (number x) = writeNumber x := rfl
      rw [hwritten, carried]
      by_cases hfinite : isFinite x = true
      · rw [if_pos hfinite]
        rcases isFinite_iff_exists.mp hfinite with ⟨b, hkind⟩
        cases hinteger : writtenInteger? x with
        | some k =>
            have hread := readNumber?_writeInteger hinteger
            rw [writeNumber, hinteger]
            exact spells_number hread
        | none =>
            have hnonzero : ¬(x == 0.0) = true := by
              intro hzero
              rw [writtenInteger?_of_beq_zero hkind hzero] at hinteger
              cases hinteger
            rw [unsignZero, if_neg hnonzero]
            exact spells_number (h hfinite hinteger)
      · rw [if_neg hfinite]
        rw [writeNumber_of_not_isFinite hfinite]
        exact spells_null

end Cell

namespace Row

/-- The row that is read where the row is written. -/
def carried (row : Row) : Row where
  entries := row.entries.map fun entry => (entry.1, entry.2.carried)
  distinct := by
    rw [List.map_map]
    exact row.distinct

def entryTokens (entry : String × Cell) : List Json.Token :=
  memberTokens entry.1 [entry.2.token]

def tokens (row : Row) : List Json.Token :=
  objectTokens (row.entries.map entryTokens)

theorem spells_writeRow {row : Row} (h : ∀ entry ∈ row.entries, entry.2.ReadsBack) :
    Spells (writeRow row) row.carried.tokens := by
  apply spells_writeObject
  rw [carried, List.map_map, List.forall₂_map_left_iff, List.forall₂_map_right_iff,
    List.forall₂_same]
  intro entry hentry
  exact spells_writeMember entry.1 (Cell.spells_writeCell (h entry hentry))

end Row

namespace ResultTable

/-- The result that is read where the result is written. -/
def carried (r : ResultTable) : ResultTable :=
  { columns := r.columns, rows := r.rows.map Row.carried }

/-- Every number of the result is read as it was, if it is written with a point or a power
of ten. -/
def ReadsBack (r : ResultTable) : Prop :=
  ∀ row ∈ r.rows, ∀ entry ∈ row.entries, entry.2.ReadsBack

def tokens (r : ResultTable) : List Json.Token :=
  objectTokens
    [memberTokens "columns" (arrayTokens (r.columns.map fun column => [.string (some column)])),
      memberTokens "rows" (arrayTokens (r.rows.map Row.tokens))]

theorem spells_writeResult {r : ResultTable} (h : r.ReadsBack) :
    Spells (writeResult r) r.carried.tokens := by
  have hcolumns : List.Forall₂ Spells (r.columns.map writeString)
      (r.columns.map fun column => [.string (some column)]) := by
    rw [List.forall₂_map_left_iff, List.forall₂_map_right_iff, List.forall₂_same]
    intro column _
    exact spells_writeString column
  have hrows : List.Forall₂ Spells (r.rows.map writeRow)
      ((r.rows.map Row.carried).map Row.tokens) := by
    rw [List.map_map, List.forall₂_map_left_iff, List.forall₂_map_right_iff, List.forall₂_same]
    intro row hrow
    exact Row.spells_writeRow (h row hrow)
  apply spells_writeObject
  exact .cons (spells_writeMember "columns" (spells_writeArray hcolumns))
    (.cons (spells_writeMember "rows" (spells_writeArray hrows)) .nil)

end ResultTable

/-!
## Reading tokens
-/

theorem takeCell_token (cell : Cell) (rest : List Json.Token) :
    takeCell (cell.token :: rest) = .ok (cell, rest) := by
  cases cell <;> rfl

theorem takeEntries_listed {entries : List (String × Cell)} (hne : entries ≠ [])
    (rest : List Json.Token) :
    takeEntries (listed (entries.map Row.entryTokens) ++ .closeBrace :: rest) =
      .ok (entries, rest) := by
  induction entries with
  | nil =>
      exact absurd rfl hne
  | cons entry entries ih =>
      cases entries with
      | nil =>
          rw [List.map_singleton, listed_singleton, Row.entryTokens, memberTokens,
            List.cons_append, List.cons_append, List.cons_append, takeEntries, takeCell_token]
          rfl
      | cons next entries =>
          rw [listed_map_cons_cons, Row.entryTokens, memberTokens, List.append_assoc,
            List.cons_append, List.cons_append, List.cons_append, takeEntries, takeCell_token]
          simp only [ok_bind, List.nil_append, List.cons_append]
          rw [ih (List.cons_ne_nil _ _)]
          rfl

theorem takeRow_objectTokens (entries : List (String × Cell)) (rest : List Json.Token) :
    takeRow (objectTokens (entries.map Row.entryTokens) ++ rest) =
      .ok (Row.ofList entries, rest) := by
  by_cases hempty : entries = []
  · rw [hempty]
    rfl
  · -- No entry starts with the closing brace that an empty row has.
    have htake := takeEntries_listed hempty rest
    rw [objectTokens, List.cons_append, List.append_assoc, List.singleton_append,
      takeRow.eq_2, htake]
    · rfl
    · intro after hclose
      rw [hclose] at htake
      cases htake

theorem takeRow_tokens (row : Row) (rest : List Json.Token) :
    takeRow (row.tokens ++ rest) = .ok (row, rest) := by
  rw [Row.tokens, takeRow_objectTokens, Row.ofList_entries]

section Arrays

variable {α : Type} {item : List Json.Token → Except Fault (α × List Json.Token)}
  {spelled : α → List Json.Token} {values : List α}

theorem takeItems_listed (hitem : ∀ a ∈ values, ∀ rest, item (spelled a ++ rest) = .ok (a, rest))
    (hne : values ≠ []) {fuel : Nat} (hfuel : values.length ≤ fuel) (rest : List Json.Token) :
    takeItems item fuel (listed (values.map spelled) ++ .closeBracket :: rest) =
      .ok (values, rest) := by
  induction values generalizing fuel with
  | nil =>
      exact absurd rfl hne
  | cons a values ih =>
      rcases Nat.exists_eq_succ_of_ne_zero (Nat.ne_of_gt (Nat.lt_of_lt_of_le
        (Nat.succ_pos _) hfuel)) with ⟨fuel, rfl⟩
      cases values with
      | nil =>
          rw [List.map_singleton, listed_singleton, takeItems, hitem a List.mem_cons_self]
          rfl
      | cons next values =>
          have hrest := ih (fun b hb => hitem b (List.mem_cons_of_mem a hb))
            (List.cons_ne_nil _ _) (Nat.le_of_succ_le_succ hfuel)
          rw [listed_map_cons_cons, List.append_assoc, takeItems, hitem a List.mem_cons_self]
          simp only [ok_bind, List.cons_append]
          rw [hrest]
          rfl

theorem takeArray_tokens (hitem : ∀ a ∈ values, ∀ rest, item (spelled a ++ rest) = .ok (a, rest))
    (hclose : ∀ ts p, item (.closeBracket :: ts) ≠ .ok p) (rest : List Json.Token) :
    takeArray item (arrayTokens (values.map spelled) ++ rest) = .ok (values, rest) := by
  by_cases hempty : values = []
  · rw [hempty]
    rfl
  · have hfuel : values.length ≤ (listed (values.map spelled) ++ .closeBracket :: rest).length := by
      have hlength := length_le_listed (values.map spelled)
      rw [List.length_map] at hlength
      rw [List.length_append, List.length_cons]
      omega
    have htake := takeItems_listed hitem hempty hfuel rest
    rw [arrayTokens, List.cons_append, List.append_assoc, List.singleton_append,
      takeArray.eq_2, htake]
    intro after hend
    rw [hend, List.length_cons, takeItems] at htake
    cases hread : item (.closeBracket :: after) with
    | error fault =>
        rw [hread] at htake
        cases htake
    | ok p =>
        exact hclose after p hread

end Arrays

theorem takeColumns_tokens (columns : List String) (rest : List Json.Token) :
    takeColumns (arrayTokens (columns.map fun column => [.string (some column)]) ++ rest) =
      .ok (columns, rest) := by
  apply takeArray_tokens
  · intro column _ rest
    rfl
  · intro ts p h
    cases h

theorem takeRows_tokens (rows : List Row) (rest : List Json.Token) :
    takeRows (arrayTokens (rows.map Row.tokens) ++ rest) = .ok (rows, rest) := by
  apply takeArray_tokens
  · intro row _ rest
    exact takeRow_tokens row rest
  · intro ts p h
    cases h

theorem Members.take_columns {members : Members} (h : members.columns = none)
    (columns : List String) (rest : List Json.Token) :
    members.take "columns"
        (.colon :: (arrayTokens (columns.map fun column => [.string (some column)]) ++ rest)) =
      .ok ({ members with columns := some columns }, rest) := by
  have hnew : ("columns" = "columns" && members.columns.isSome ||
      "columns" = "rows" && members.rows.isSome) = false := by
    simp [h]
  rw [Members.take, hnew, if_neg Bool.false_ne_true]
  dsimp only
  rw [if_pos rfl, takeColumns_tokens]
  rfl

theorem Members.take_rows {members : Members} (h : members.rows = none) (rows : List Row)
    (rest : List Json.Token) :
    members.take "rows" (.colon :: (arrayTokens (rows.map Row.tokens) ++ rest)) =
      .ok ({ members with rows := some rows }, rest) := by
  have hnew : ("rows" = "columns" && members.columns.isSome ||
      "rows" = "rows" && members.rows.isSome) = false := by
    simp [h]
  rw [Members.take, hnew, if_neg Bool.false_ne_true]
  dsimp only
  rw [if_neg (by decide), if_pos rfl, takeRows_tokens]
  rfl

theorem takeResult_tokens (r : ResultTable) : takeResult r.tokens = .ok (r, []) := by
  let columns := arrayTokens (r.columns.map fun column => [.string (some column)])
  let rows := arrayTokens (r.rows.map Row.tokens)
  have htokens : r.tokens = .openBrace :: .string (some "columns") :: .colon ::
      (columns ++ .comma :: .string (some "rows") :: .colon :: (rows ++ [.closeBrace])) := by
    rw [ResultTable.tokens, objectTokens, listed_cons_cons, listed_singleton, List.append_assoc]
    rfl
  rw [htokens, takeResult.eq_2 _ (by simp)]
  rw [List.length_cons, List.length_cons, Members.takeAll]
  dsimp only
  rw [Members.take_columns rfl]
  simp only [ok_bind]
  rw [Members.takeAll]
  dsimp only
  rw [Members.take_rows rfl]
  rfl

/-!
## Results that are the same
-/

/-- Cells of one kind: equal texts, or equal numbers, where both zeros are equal. -/
inductive Cell.Same : Cell → Cell → Prop
  | null : Same .null .null
  | number {x y : Float} (h : (x == y) = true) : Same (.number x) (.number y)
  | text (s : String) : Same (.text s) (.text s)

/-- The same names in the same order, with the same cells. -/
def Row.Same (row other : Row) : Prop :=
  List.Forall₂ (fun entry entry' => entry.1 = entry'.1 ∧ entry.2.Same entry'.2)
    row.entries other.entries

def ResultTable.Same (r other : ResultTable) : Prop :=
  r.columns = other.columns ∧ List.Forall₂ Row.Same r.rows other.rows

def ResultTable.IsFinite (r : ResultTable) : Prop :=
  ∀ row ∈ r.rows, ∀ entry ∈ row.entries, entry.2.IsFinite

theorem Cell.same_carried {cell : Cell} (h : cell.IsFinite) : cell.Same cell.carried := by
  cases cell with
  | null =>
      exact .null
  | text s =>
      exact .text s
  | number x =>
      rcases isFinite_iff_exists.mp h with ⟨b, hkind⟩
      have hfinite : isFinite x = true := h
      rw [carried, if_pos hfinite]
      exact .number (beq_unsignZero hkind)

theorem ResultTable.same_carried {r : ResultTable} (h : r.IsFinite) : r.Same r.carried := by
  constructor
  · rfl
  · rw [carried, List.forall₂_map_right_iff, List.forall₂_same]
    intro row hrow
    rw [Row.Same, Row.carried, List.forall₂_map_right_iff, List.forall₂_same]
    intro entry hentry
    exact ⟨rfl, Cell.same_carried (h row hrow entry hentry)⟩

instance : DecidablePred Cell.ReadsBack
  | .null => instDecidableTrue
  | .number x =>
      inferInstanceAs (Decidable (isFinite x = true → Cell.writtenInteger? x = none →
        readNumber? (writeNumber x) = some x))
  | .text _ => instDecidableTrue

instance : DecidablePred ResultTable.ReadsBack := fun r =>
  inferInstanceAs (Decidable (∀ row ∈ r.rows, ∀ entry ∈ row.entries, entry.2.ReadsBack))

instance : DecidablePred ResultTable.IsFinite := fun r =>
  inferInstanceAs (Decidable (∀ row ∈ r.rows, ∀ entry ∈ row.entries, entry.2.IsFinite))

theorem readResult_writeResult_carried {r : ResultTable} (h : r.ReadsBack) :
    readResult (String.ofList (writeResult r)) = .ok r.carried := by
  have htokens := (ResultTable.spells_writeResult h).tokens_eq
  rw [readResult, readAll, htokens, takeResult_tokens]

/-- A result with finite numbers is read as it was written. -/
theorem readResult_writeResult (r : ResultTable) (hfinite : r.IsFinite)
    (hback : r.ReadsBack) :
    ∃ back, readResult (String.ofList (writeResult r)) = .ok back ∧ r.Same back :=
  ⟨r.carried, readResult_writeResult_carried hback, ResultTable.same_carried hfinite⟩

/-- Texts that look like something else, a zero with a sign, and a number with a power of
ten. -/
theorem readResult_writeResult_disguised :
    let r : ResultTable :=
      { columns := ["a", "b", "a"],
        rows :=
          [ { entries := [("a", .number (-0.0)), ("b", .text "null")], distinct := by decide },
            { entries := [("a", .number 2.5e-7), ("b", .text "2.5e-7")],
              distinct := by decide },
            { entries := [("a", .null), ("b", .text "say \"\\\n\x01é")],
              distinct := by decide } ] }
    r.IsFinite ∧ r.ReadsBack ∧
      ∃ back, readResult (String.ofList (writeResult r)) = .ok back ∧ r.Same back := by
  intro r
  have hfinite : r.IsFinite := by decide +kernel
  have hback : r.ReadsBack := by decide +kernel
  exact ⟨hfinite, hback, readResult_writeResult r hfinite hback⟩

end TableQuery
