import TableQuery.Proofs.Grouping.Partition
import TableQuery.Proofs.Text.Pieces

/-!
# Which rows share a group

A key joins the texts at the names to group by with bars, and a text may have bars of
its own.  Rows share a group exactly if the pieces between all bars are the same, so
rows with different texts do exactly if they have the same pieces and the bars lie in
different texts.
-/

namespace TableQuery
namespace Grouping

/-- The two rows are in one group of the partition of `rows`. -/
def SameGroup (groupBy : Option (List String)) (isSummary : Bool) (fields : List Field)
    (rows : List Row) (r s : Row) : Prop :=
  ∃ group ∈ (Partition.ofRows fields (key groupBy isSummary) rows).groups,
    r ∈ group.rows ∧ s ∈ group.rows

/-- What lies between the bars of a key, wherever these come from. -/
def keyPieces (names : List String) (row : Row) : List (List Char) :=
  (keyTexts names row).flatMap fun text => Text.pieces '|' text.toList

/-- The number of bars inside each text of a key. -/
def keyBars (names : List String) (row : Row) : List Nat :=
  (keyTexts names row).map fun text => text.toList.count '|'

variable {names : List String} {isSummary : Bool}

theorem sameGroup_iff_key_eq (groupBy : Option (List String)) (isSummary : Bool)
    (fields : List Field) {rows : List Row} {r s : Row} (hr : r ∈ rows) (hs : s ∈ rows) :
    SameGroup groupBy isSummary fields rows r s ↔
      key groupBy isSummary r = key groupBy isSummary s := by
  have hgroups := (Partition.holds_ofRows fields (key groupBy isSummary) rows).groups
  unfold SameGroup
  constructor
  · rintro ⟨group, hgroup, hrgroup, hsgroup⟩
    rw [← Array.mem_toList_iff, hgroups, List.mem_map] at hgroup
    rcases hgroup with ⟨k, _, rfl⟩
    rw [Accumulator.rows_gather] at hrgroup hsgroup
    rw [(mem_rowsOf.mp hrgroup).2, (mem_rowsOf.mp hsgroup).2]
  · intro hkey
    refine ⟨Accumulator.gather fields
      (rowsOf (key groupBy isSummary) (key groupBy isSummary s) rows), ?_, ?_⟩
    · rw [← Array.mem_toList_iff, hgroups]
      exact List.mem_map.mpr ⟨_, mem_firstKeys.mpr ⟨s, hs, rfl⟩, rfl⟩
    · rw [Accumulator.rows_gather]
      exact ⟨mem_rowsOf.mpr ⟨hr, hkey⟩, mem_rowsOf.mpr ⟨hs, rfl⟩⟩

theorem toList_key (row : Row) :
    (key (some names) isSummary row).toList =
      ['|'].intercalate ((keyTexts names row).map String.toList) := by
  simp [key, String.toList_intercalate]

theorem keyPieces_eq (row : Row) :
    keyPieces names row =
      ((keyTexts names row).map String.toList).flatMap (Text.pieces '|') := by
  simp [keyPieces, List.flatMap_map]

theorem keyBars_eq (row : Row) :
    keyBars names row = ((keyTexts names row).map String.toList).map (List.count '|') := by
  simp [keyBars]

theorem key_eq_iff_keyPieces_eq {r s : Row} :
    key (some names) isSummary r = key (some names) isSummary s ↔
      keyPieces names r = keyPieces names s := by
  have hlength : ((keyTexts names r).map String.toList).length =
      ((keyTexts names s).map String.toList).length := by
    simp [keyTexts]
  rw [← String.toList_inj, toList_key, toList_key, Text.intercalate_inj_iff hlength,
    keyPieces_eq, keyPieces_eq]

theorem keyTexts_eq_iff {r s : Row} :
    keyTexts names r = keyTexts names s ↔
      keyPieces names r = keyPieces names s ∧ keyBars names r = keyBars names s := by
  constructor
  · intro htexts
    simp [keyPieces, keyBars, htexts]
  · rintro ⟨hpieces, hbars⟩
    rw [keyPieces_eq, keyPieces_eq] at hpieces
    rw [keyBars_eq, keyBars_eq] at hbars
    have htexts := (Text.flatMap_pieces_inj hbars).mp hpieces
    exact List.map_injective_iff.mpr (fun _ _ => String.toList_inj.mp) htexts

/-- Rows share a group exactly if they have the same pieces.  That says that they have
the same texts, except where the same pieces come with the bars in different texts. -/
theorem sameGroup_iff_keyPieces_eq (names : List String) (isSummary : Bool)
    (fields : List Field) (rows : List Row) (r s : Row) (hr : r ∈ rows) (hs : s ∈ rows) :
    (SameGroup (some names) isSummary fields rows r s ↔
        key (some names) isSummary r = key (some names) isSummary s) ∧
      (SameGroup (some names) isSummary fields rows r s ↔
        keyPieces names r = keyPieces names s) ∧
      ((SameGroup (some names) isSummary fields rows r s ↔
          keyTexts names r = keyTexts names s) ↔
        (keyPieces names r = keyPieces names s → keyBars names r = keyBars names s)) := by
  have hgroup := sameGroup_iff_key_eq (some names) isSummary fields hr hs
  have hpieces := hgroup.trans key_eq_iff_keyPieces_eq
  refine ⟨hgroup, hpieces, ?_⟩
  rw [hpieces, keyTexts_eq_iff]
  tauto

/-!
## Two rows with one key
-/

def barInFirst : Row :=
  Row.ofList [("a", .text "x|y"), ("b", .text "z")]

def barInSecond : Row :=
  Row.ofList [("a", .text "x"), ("b", .text "y|z")]

theorem sameGroup_iff_keyPieces_eq_bars :
    let rows := [barInFirst, barInSecond]
    barInFirst ∈ rows ∧ barInSecond ∈ rows ∧
      (SameGroup (some ["a", "b"]) false [] rows barInFirst barInSecond ↔
        keyPieces ["a", "b"] barInFirst = keyPieces ["a", "b"] barInSecond) ∧
      keyPieces ["a", "b"] barInFirst = keyPieces ["a", "b"] barInSecond ∧
      keyBars ["a", "b"] barInFirst ≠ keyBars ["a", "b"] barInSecond :=
  ⟨by simp, by simp,
    (sameGroup_iff_keyPieces_eq ["a", "b"] false [] [barInFirst, barInSecond] barInFirst
      barInSecond (by simp) (by simp)).2.1, by decide, by decide⟩

theorem sameGroup_of_keyTexts_ne :
    SameGroup (some ["a", "b"]) false [] [barInFirst, barInSecond] barInFirst barInSecond ∧
      keyTexts ["a", "b"] barInFirst ≠ keyTexts ["a", "b"] barInSecond := by
  refine ⟨?_, by decide⟩
  rw [sameGroup_iff_key_eq (some ["a", "b"]) false [] (by simp) (by simp)]
  decide

end Grouping
end TableQuery
