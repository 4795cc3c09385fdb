import Mathlib.Data.List.Nodup
import TableQuery.Proofs.Joining.Owners

/-!
# Conditions on the main table

A row of a left join holds all cells of its main row under their qualified names, and the
requested cells are set over them.  Where both write the same name they write the same
cell, or a null where there was none.  So a condition on a qualified column holds of the
joined rows exactly if it holds of the column in the main row, and rows may be chosen
before the join instead of after it.
-/

namespace TableQuery

namespace Name

theorem qualify_inj {table column column' : String} :
    qualify table column = qualify table column' ↔ column = column' := by
  constructor
  · intro h
    rw [← String.toList_inj] at h ⊢
    simpa [qualify] using h
  · rintro rfl
    rfl

end Name

namespace Condition

/-- The condition on the column of a table, written with its qualified name. -/
def qualify (table : String) (condition : Condition) : Condition :=
  { condition with field := Name.qualify table condition.field }

end Condition

namespace Joining

variable {table column : String} {fields : List Field}

/-!
## Main rows under qualified names
-/

theorem map_fst_qualified (table : String) (main : Row) :
    (qualified table main).map Prod.fst = main.keys.map (Name.qualify table) := by
  simp [qualified, Row.keys]

theorem entries_ofList_qualified (table : String) (main : Row) :
    (Row.ofList (qualified table main)).entries = qualified table main := by
  apply Row.entries_insertAll (r := Row.empty)
  rw [Row.keys_empty, List.nil_append, map_fst_qualified]
  apply main.nodup_keys.map
  intro column column' h
  exact Name.qualify_inj.mp h

theorem get?_ofList_qualified (table column : String) (main : Row) :
    (Row.ofList (qualified table main)).get? (Name.qualify table column) =
      main.get? column := by
  apply Option.ext
  intro cell
  rw [Row.get?_eq_some_iff, Row.get?_eq_some_iff, entries_ofList_qualified, qualified,
    List.mem_map]
  constructor
  · rintro ⟨entry, hentry, heq⟩
    rw [Prod.mk.injEq, Name.qualify_inj] at heq
    rw [← heq.1, ← heq.2]
    exact hentry
  · intro hentry
    exact ⟨(column, cell), hentry, rfl⟩

/-!
## What a condition sees
-/

theorem get?_wideRow_of_notMem {main : Row} {partner : Option Row} {name : String}
    (hname : name ∉ sources fields) :
    (wideRow table fields main partner).get? name =
      (Row.ofList (qualified table main)).get? name := by
  unfold wideRow requested
  rw [Row.get?_insertAll_map, if_neg hname]

theorem coerce?_get?_wideRow (h : Name.IsBare table) {main : Row} {partner : Option Row}
    (hlacks : Name.qualify table column ∉ main.keys) :
    Cell.coerce? ((wideRow table fields main partner).get? (Name.qualify table column)) =
      Cell.coerce? (main.get? column) := by
  by_cases hname : Name.qualify table column ∈ sources fields
  · -- The name is requested: a null stands where the main row has no cell.
    have hread : cellFor table main partner (Name.qualify table column) =
        (main.get? column).getD .null := by
      simp [cellFor, readsMain_qualify h,
        Row.lookup?_qualify h (Row.get?_eq_none_iff.mpr hlacks)]
    rw [get?_wideRow hname, hread]
    cases main.get? column <;> rfl
  · rw [get?_wideRow_of_notMem hname, get?_ofList_qualified]

theorem meetsAll_wideRow (h : Name.IsBare table) {conditions : List Condition} {main : Row}
    (hlacks : ∀ condition ∈ conditions, Name.qualify table condition.field ∉ main.keys)
    (partner : Option Row) :
    meetsAll (conditions.map (Condition.qualify table)) (wideRow table fields main partner) =
      meetsAll conditions main := by
  unfold meetsAll
  rw [List.all_map, Bool.eq_iff_iff, List.all_eq_true, List.all_eq_true]
  apply forall₂_congr
  intro condition hcondition
  have hsees : Cell.coerce? ((wideRow table fields main partner).get?
      (condition.qualify table).field) = Cell.coerce? (main.get? condition.field) :=
    coerce?_get?_wideRow h (hlacks condition hcondition)
  rw [Function.comp_apply, Condition.holds, Condition.holds, hsees]
  rfl

/-!
## Choosing before the join
-/

variable {joined : List Row} {link : Link}

theorem exists_wideRow_of_mem_leftRows {main row : Row}
    (hrow : row ∈ leftRows table joined link fields main) :
    ∃ partner, row = wideRow table fields main partner := by
  cases hpartners : partners link joined main with
  | nil =>
      rw [leftRows_eq_of_partners_nil hpartners, List.mem_singleton] at hrow
      exact ⟨none, hrow⟩
  | cons partner rest =>
      rw [leftRows_eq_of_partners_cons hpartners, List.mem_map] at hrow
      rcases hrow with ⟨found, _, rfl⟩
      exact ⟨some found, rfl⟩

theorem chooseRows_leftRows (h : Name.IsBare table) {conditions : List Condition} {main : Row}
    (hlacks : ∀ condition ∈ conditions, Name.qualify table condition.field ∉ main.keys) :
    chooseRows (conditions.map (Condition.qualify table))
        (leftRows table joined link fields main) =
      if meetsAll conditions main then leftRows table joined link fields main else [] := by
  have hmeets : ∀ row ∈ leftRows table joined link fields main,
      meetsAll (conditions.map (Condition.qualify table)) row = meetsAll conditions main := by
    intro row hrow
    rcases exists_wideRow_of_mem_leftRows hrow with ⟨partner, rfl⟩
    exact meetsAll_wideRow h hlacks partner
  unfold chooseRows
  split
  · rename_i hmain
    rw [List.filter_eq_self]
    intro row hrow
    rw [hmeets row hrow, hmain]
  · rename_i hmain
    rw [List.filter_eq_nil_iff]
    intro row hrow
    rw [hmeets row hrow]
    exact hmain

theorem flatMap_filter_eq {α β : Type} (p : α → Bool) (f : α → List β) (xs : List α) :
    (xs.filter p).flatMap f = xs.flatMap fun x => if p x then f x else [] := by
  induction xs with
  | nil =>
      rfl
  | cons x xs ih =>
      by_cases h : p x <;> simp [h, ih]

/-- Choosing rows of a left join by columns of the main table, under their qualified names,
gives the left join of the rows of the main table that are chosen by the bare columns. -/
theorem chooseRows_leftJoin (main : Table) (hbare : Name.IsBare main.name)
    (joined : List Row) (link : Link) (fields : List Field) (conditions : List Condition)
    (hlacks : ∀ condition ∈ conditions, ∀ row ∈ main.rows,
      Name.qualify main.name condition.field ∉ row.keys) :
    chooseRows (conditions.map (Condition.qualify main.name))
        (leftJoin main joined link fields) =
      leftJoin { main with rows := chooseRows conditions main.rows } joined link fields := by
  unfold leftJoin
  rw [chooseRows, List.filter_flatMap]
  show main.rows.flatMap _ =
    (main.rows.filter (meetsAll conditions)).flatMap (leftRows main.name joined link fields)
  rw [flatMap_filter_eq]
  apply List.flatMap_congr
  intro row hrow
  apply chooseRows_leftRows hbare
  intro condition hcondition
  exact hlacks condition hcondition row hrow

/-- Of three members of staff two are chosen, by a column that is requested and by one that
is not; one of them has a team and one has none. -/
theorem chooseRows_leftJoin_office :
    let link := Office.membership.oriented "staff" "teams"
    let conditions : List Condition := [⟨"name", .notEqual, "Bob"⟩, ⟨"team", .atMost, "3"⟩]
    Name.IsBare "staff" ∧
    (∀ condition ∈ conditions, ∀ row ∈ Office.staff.rows,
      Name.qualify "staff" condition.field ∉ row.keys) ∧
    chooseRows (conditions.map (Condition.qualify "staff"))
        (leftJoin Office.staff Office.teams.rows link Office.fields) =
      leftJoin { Office.staff with rows := chooseRows conditions Office.staff.rows }
        Office.teams.rows link Office.fields := by
  intro link conditions
  have hlacks : ∀ condition ∈ conditions, ∀ row ∈ Office.staff.rows,
      Name.qualify "staff" condition.field ∉ row.keys := by
    decide +kernel
  exact ⟨by decide, hlacks,
    chooseRows_leftJoin Office.staff (by decide) _ link Office.fields conditions hlacks⟩

end Joining
end TableQuery
