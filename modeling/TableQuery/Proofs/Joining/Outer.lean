import Mathlib.Data.List.Basic
import TableQuery.Proofs.Joining.Sides

/-!
# Outer joins

A left join pairs a row with all of its partners, a right join with the first one only,
and the two fill a missing partner with nulls in different ways.  The requested cells
are the same nevertheless, so a right join is the left join of the exchanged tables
with only the first of the rows that each row gives.
-/

namespace TableQuery

/-!
## Rows that agree on some names
-/

namespace Row

def AgreeOn (names : List String) (r s : Row) : Prop :=
  ∀ name ∈ names, r.get? name = s.get? name

variable {names : List String} {r s : Row}

theorem AgreeOn.meetsAll {conditions : List Condition} (h : AgreeOn names r s)
    (hfields : ∀ condition ∈ conditions, condition.field ∈ names) :
    meetsAll conditions r = meetsAll conditions s := by
  unfold TableQuery.meetsAll
  rw [Bool.eq_iff_iff, List.all_eq_true, List.all_eq_true]
  apply forall_congr'
  intro condition
  apply forall_congr'
  intro hcondition
  rw [Condition.holds, Condition.holds, h condition.field (hfields condition hcondition)]

theorem AgreeOn.projectRow (h : AgreeOn names r s) :
    projectRow names r = projectRow names s := by
  unfold TableQuery.projectRow
  congr 1
  apply List.map_congr_left
  intro name hname
  rw [getD, getD, h name hname]

end Row

theorem projectRows_chooseRows_congr {fields : List Field} {conditions : List Condition}
    (hconditions : ∀ condition ∈ conditions, condition.field ∈ fields.map Field.label)
    {rows : List Row} {f g : Row → Row}
    (hagree : ∀ row ∈ rows, (f row).AgreeOn (fields.map Field.label) (g row)) :
    projectRows fields (chooseRows conditions (rows.map f)) =
      projectRows fields (chooseRows conditions (rows.map g)) := by
  induction rows with
  | nil =>
      rfl
  | cons row rows ih =>
      have hrow := hagree row (List.mem_cons_self ..)
      have hrest := ih fun row hmem => hagree row (List.mem_cons_of_mem _ hmem)
      rw [List.map_cons, List.map_cons, chooseRows, chooseRows, List.filter_cons,
        List.filter_cons, hrow.meetsAll hconditions]
      split
      · rw [projectRows, projectRows, List.map_cons, List.map_cons, hrow.projectRow]
        exact congrArg _ hrest
      · exact hrest

namespace Joining

/-!
## Rows of a left join
-/

variable {table : String} {joined : List Row} {link : Link} {fields : List Field}

theorem leftRows_eq_of_partners_nil {row : Row} (h : partners link joined row = []) :
    leftRows table joined link fields row = [wideRow table fields row none] := by
  rw [leftRows, h]

theorem leftRows_eq_of_partners_cons {row partner : Row} {rest : List Row}
    (h : partners link joined row = partner :: rest) :
    leftRows table joined link fields row =
      (partner :: rest).map fun partner => wideRow table fields row (some partner) := by
  rw [leftRows, h]

theorem take_one_leftRows (row : Row) :
    (leftRows table joined link fields row).take 1 =
      [wideRow table fields row (partners link joined row).head?] := by
  cases h : partners link joined row with
  | nil =>
      rw [leftRows_eq_of_partners_nil h]
      rfl
  | cons partner rest =>
      rw [leftRows_eq_of_partners_cons h]
      rfl

theorem leftRows_ne_nil (row : Row) : leftRows table joined link fields row ≠ [] := by
  cases h : partners link joined row with
  | nil =>
      simp [leftRows_eq_of_partners_nil h]
  | cons partner rest =>
      simp [leftRows_eq_of_partners_cons h]

theorem length_leftRows_le_one {row : Row} (h : (partners link joined row).length ≤ 1) :
    (leftRows table joined link fields row).length ≤ 1 := by
  cases hpartners : partners link joined row with
  | nil =>
      rw [leftRows_eq_of_partners_nil hpartners]
      exact Nat.le_refl 1
  | cons partner rest =>
      rw [leftRows_eq_of_partners_cons hpartners, List.length_map, ← hpartners]
      exact h

/-!
## Requested cells
-/

theorem get?_wideRow {main : Row} {partner : Option Row} {name : String}
    (hname : name ∈ sources fields) :
    (wideRow table fields main partner).get? name = some (cellFor table main partner name) := by
  unfold wideRow requested
  rw [Row.get?_insertAll_map, if_pos hname]

theorem getD_lookup?_nullRow (t : Table) (name : String) :
    (t.nullRow.lookup? name).getD .null = .null := by
  have hget : ∀ key, t.nullRow.get? key = none ∨ t.nullRow.get? key = some .null := by
    intro key
    rw [Table.nullRow, Row.get?_ofList_map (fun _ => Cell.null)]
    split
    · exact Or.inr rfl
    · exact Or.inl rfl
  unfold Row.lookup?
  rcases hget name with h | h
  · rw [h]
    cases Name.column? name with
    | none =>
        rfl
    | some column =>
        rcases hget column with h | h <;> simp [h]
  · rw [h]
    rfl

variable {a b : Table}

theorem cellFor_nullRow (ha : Name.IsBare a.name) (hb : Name.IsBare b.name)
    (hne : a.name ≠ b.name) (s : Row) {name : String}
    (hname : ∃ c, name = Name.qualify a.name c ∨ name = Name.qualify b.name c) :
    cellFor b.name s none name = cellFor a.name a.nullRow (some s) name := by
  rcases hname with ⟨c, rfl | rfl⟩
  · simp [cellFor, readsMain_qualify ha, hne, getD_lookup?_nullRow]
  · simp [cellFor, readsMain_qualify hb, Ne.symm hne]

theorem wideRow_agreeOn (ha : Name.IsBare a.name) (hb : Name.IsBare b.name)
    (hne : a.name ≠ b.name) (hfields : ∀ f ∈ fields, f.IsColumnOf a.name b.name)
    (partner : Option Row) (s : Row) :
    (wideRow a.name fields (partner.getD a.nullRow) (some s)).AgreeOn
      (fields.map Field.label) (wideRow b.name fields s partner) := by
  intro name hname
  rw [← Field.sources_eq_labels hfields] at hname
  have hqualified := Field.exists_of_mem_sources hfields hname
  rw [get?_wideRow hname, get?_wideRow hname]
  cases partner with
  | none =>
      rw [cellFor_nullRow ha hb hne s hqualified]
      rfl
  | some r =>
      rw [cellFor_swap ha hb hne r s hqualified]
      rfl

theorem rightRow_eq (a : Table) (link : Link) (fields : List Field) (s : Row) :
    rightRow a link fields s =
      wideRow a.name fields ((partners link.flip a.rows s).head?.getD a.nullRow) (some s) := by
  unfold rightRow partners
  simp only [Link.matches?_flip, List.head?_filter]

theorem rightJoin_agrees_take_one (ha : Name.IsBare a.name) (hb : Name.IsBare b.name)
    (hne : a.name ≠ b.name) (hfields : ∀ f ∈ fields, f.IsColumnOf a.name b.name)
    {conditions : List Condition}
    (hconditions : ∀ condition ∈ conditions, condition.field ∈ fields.map Field.label) :
    projectRows fields (chooseRows conditions (rightJoin a b.rows link fields)) =
      projectRows fields (chooseRows conditions (b.rows.flatMap fun s =>
        (leftRows b.name a.rows link.flip fields s).take 1)) := by
  simp only [take_one_leftRows, ← List.map_eq_flatMap]
  apply projectRows_chooseRows_congr hconditions
  intro s _
  rw [rightRow_eq]
  exact wideRow_agreeOn ha hb hne hfields _ s

theorem flatMap_take_one_leftRows {rows : List Row}
    (h : ∀ row ∈ rows, (partners link joined row).length ≤ 1) :
    (rows.flatMap fun row => (leftRows table joined link fields row).take 1) =
      rows.flatMap (leftRows table joined link fields) := by
  apply List.flatMap_congr
  intro row hrow
  exact List.take_of_length_le (length_leftRows_le_one (h row hrow))

theorem get?_of_mem_leftRows (ha : Name.IsBare a.name) (hne : a.name ≠ b.name) {s row : Row}
    (hpartners : partners link a.rows s = [])
    (hrow : row ∈ leftRows b.name a.rows link fields s) {c : String}
    (hc : .column (Name.qualify a.name c) ∈ fields) :
    row.get? (Name.qualify a.name c) = some .null := by
  rw [leftRows_eq_of_partners_nil hpartners, List.mem_singleton] at hrow
  have hsource : Name.qualify a.name c ∈ sources fields :=
    List.mem_filterMap.mpr ⟨_, hc, rfl⟩
  rw [hrow, get?_wideRow hsource]
  simp [cellFor, readsMain_qualify ha, hne]

end Joining

/-- A right join gives, for each row of the joined table, the first of the rows which
that row gives to the left join of the exchanged tables.  The two joins are the same if
no row has two partners. -/
theorem run_rightJoin_mirrors_leftJoin (source : Source) (a b : Table)
    (hloadA : source a.name = .ok a) (hloadB : source b.name = .ok b)
    (ha : Name.IsBare a.name) (hb : Name.IsBare b.name) (hne : a.name ≠ b.name)
    (link : Link) (hlink : link.Ties a.name b.name) (fields : List Field)
    (hfields : ∀ f ∈ fields, f.IsColumnOf a.name b.name) (conditions : List Condition)
    (hconditions : ∀ condition ∈ conditions, condition.field ∈ fields.map Field.label) :
    let turned := link.oriented b.name a.name
    let given := Joining.leftRows b.name a.rows turned fields
    let left := Query.ofJoin .left b.name a.name link fields conditions
    let right := Query.ofJoin .right a.name b.name link fields conditions
    left.run source =
        .ok (projectRows fields (chooseRows conditions (b.rows.flatMap given))) ∧
      right.run source =
        .ok (projectRows fields (chooseRows conditions
          (b.rows.flatMap fun s => (given s).take 1))) ∧
      (∀ s ∈ b.rows, given s ≠ []) ∧
      (∀ s ∈ b.rows, Joining.partners turned a.rows s = [] →
        ∀ row ∈ given s, ∀ c, .column (Name.qualify a.name c) ∈ fields →
          row.get? (Name.qualify a.name c) = some .null) ∧
      ((∀ s ∈ b.rows, (Joining.partners turned a.rows s).length ≤ 1) →
        right.run source = left.run source) := by
  intro turned given left right
  have hleft : left.run source =
      .ok (projectRows fields (chooseRows conditions (b.rows.flatMap given))) :=
    Query.run_ofJoin hloadB hloadA hfields .left link conditions
  have hright : right.run source =
      .ok (projectRows fields (chooseRows conditions
        (b.rows.flatMap fun s => (given s).take 1))) := by
    have hturned : turned = (link.oriented a.name b.name).flip :=
      hlink.oriented_swap ha hb hne
    rw [Query.run_ofJoin hloadA hloadB hfields .right link conditions]
    simp only [given, hturned]
    rw [← Joining.rightJoin_agrees_take_one ha hb hne hfields hconditions]
    rfl
  refine ⟨hleft, hright, ?_, ?_, ?_⟩
  · intro s _
    exact Joining.leftRows_ne_nil s
  · intro s _ hpartners row hrow c hc
    exact Joining.get?_of_mem_leftRows ha hne hpartners hrow hc
  · intro hpartners
    rw [hleft, hright, Joining.flatMap_take_one_leftRows hpartners]

theorem run_rightJoin_mirrors_leftJoin_office :
    let conditions : List Condition := [⟨"teams.title", .notEqual, "Green"⟩]
    let given := Joining.leftRows "teams" Office.staff.rows Office.membership Office.fields
    (∀ condition ∈ conditions, condition.field ∈ Office.fields.map Field.label) ∧
    (Query.ofJoin .left "teams" "staff" Office.membership Office.fields conditions).run
        Office.source =
      .ok (projectRows Office.fields (chooseRows conditions
        (Office.teams.rows.flatMap given))) ∧
    (Query.ofJoin .right "staff" "teams" Office.membership Office.fields conditions).run
        Office.source =
      .ok (projectRows Office.fields (chooseRows conditions
        (Office.teams.rows.flatMap fun s => (given s).take 1))) := by
  intro conditions given
  have hmirror := run_rightJoin_mirrors_leftJoin Office.source Office.staff Office.teams
    rfl rfl (by decide) (by decide) (by decide) Office.membership Office.membership_ties
    Office.fields Office.isColumnOf_of_mem_fields conditions (by decide)
  exact ⟨by decide, hmirror.1, hmirror.2.1⟩

end TableQuery
