import TableQuery.Proofs.Joining.Matched

/-!
# Owners of qualified names

A requested field names its table before the first dot.  If the name of the table has no
dot, the field reads the row of that table, on whichever side of the join it stands.  A
table with a dot in its name is taken for another one: its fields read the wrong row, or
the wrong column of the right one.
-/

namespace TableQuery

/-!
## Names with more than one dot
-/

namespace Name

theorem column?_qualify {table : String} (h : IsBare table) (column : String) :
    column? (qualify table column) = some column := by
  have hcut : Text.cut? '.' (qualify table column).toList =
      some (table.toList, column.toList) := by
    rw [Text.cut?_eq_some_iff]
    constructor
    · simp [qualify]
    · exact h
  simp [column?, hcut]

theorem qualify_qualify (table inner column : String) :
    qualify (qualify table inner) column = qualify table (qualify inner column) := by
  simp [qualify, String.append_assoc]

theorem exists_qualify_of_not_isBare {table : String} (h : ¬IsBare table) :
    ∃ owner rest, IsBare owner ∧ table = qualify owner rest := by
  cases hcut : Text.cut? '.' table.toList with
  | none =>
      exact absurd (Text.cut?_eq_none_iff.mp hcut) h
  | some parts =>
      rcases Text.cut?_eq_some_iff.mp hcut with ⟨heq, hbefore⟩
      refine ⟨String.ofList parts.1, String.ofList parts.2, ?_, ?_⟩
      · simpa [IsBare] using hbefore
      · apply String.toList_inj.mp
        simpa [qualify] using heq

theorem qualify_ne_self (table column : String) : qualify table column ≠ column := by
  intro h
  have hlength := congrArg (fun name => name.toList.length) h
  simp [qualify] at hlength
  omega

theorem qualify_not_isBare (table column : String) : ¬IsBare (qualify table column) := by
  simp [IsBare, qualify]

end Name

/-!
## Reading a qualified name
-/

theorem Row.lookup?_qualify {table column : String} {row : Row} (h : Name.IsBare table)
    (hlacks : row.get? (Name.qualify table column) = none) :
    row.lookup? (Name.qualify table column) = row.get? column := by
  rw [Row.lookup?, hlacks, Name.column?_qualify h]
  rfl

namespace Joining

/-- No row of the pair has the name itself. -/
def Lacks (name : String) (pair : Row × Option Row) : Prop :=
  pair.1.get? name = none ∧ ∀ partner, pair.2 = some partner → partner.get? name = none

/-- The cell of a column in a row that may be missing. -/
def cellIn (row : Option Row) (column : String) : Cell :=
  (row.bind fun row => row.get? column).getD .null

variable {owner table column : String} {pair : Row × Option Row}

theorem cellFor_qualify_main (h : Name.IsBare table)
    (hlacks : Lacks (Name.qualify table column) pair) :
    cellFor table pair.1 pair.2 (Name.qualify table column) = cellIn (some pair.1) column := by
  simp [cellFor, cellIn, readsMain_qualify h, Row.lookup?_qualify h hlacks.1]

theorem cellFor_qualify_joined (h : Name.IsBare owner) (hne : owner ≠ table)
    (hlacks : Lacks (Name.qualify owner column) pair) :
    cellFor table pair.1 pair.2 (Name.qualify owner column) = cellIn pair.2 column := by
  rcases pair with ⟨main, partner⟩
  cases partner with
  | none =>
      simp [cellFor, cellIn, readsMain_qualify h, hne]
  | some partner =>
      have hget : partner.get? (Name.qualify owner column) = none := hlacks.2 partner rfl
      simp [cellFor, cellIn, readsMain_qualify h, hne, Row.lookup?_qualify h hget]

/-- Of a table with a dot in its name the part before the dot is taken for the table, and
the rest for the beginning of the column. -/
theorem cellFor_qualify_dotted {rest : String} (h : Name.IsBare owner)
    (hlacks : Lacks (Name.qualify (Name.qualify owner rest) column) pair) :
    cellFor table pair.1 pair.2 (Name.qualify (Name.qualify owner rest) column) =
      cellIn (if owner = table then some pair.1 else pair.2) (Name.qualify rest column) := by
  rw [Name.qualify_qualify] at hlacks ⊢
  by_cases heq : owner = table
  · subst heq
    rw [if_pos rfl, cellFor_qualify_main h hlacks]
  · rw [if_neg heq, cellFor_qualify_joined h heq hlacks]

/-!
## Pairs of a join
-/

/-- The pairs of rows that a join puts together, in the order of its rows. -/
def pairs (kind : JoinKind) (main : Table) (joined : List Row) (link : Link) :
    List (Row × Option Row) :=
  match kind with
  | .inner => (matchingPairs main.rows joined link).map fun pair => (pair.1, some pair.2)
  | .left => main.rows.flatMap fun row =>
      match partners link joined row with
      | [] => [(row, none)]
      | found => found.map fun partner => (row, some partner)
  | .right => joined.map fun row =>
      ((main.rows.find? fun candidate => link.matches? candidate row).getD main.nullRow,
        some row)

/-- The row that a pair gives. -/
def pairRow (kind : JoinKind) (table : String) (fields : List Field)
    (pair : Row × Option Row) : Row :=
  match kind with
  | .inner => narrowRow table fields pair.1 pair.2
  | .left => wideRow table fields pair.1 pair.2
  | .right => wideRow table fields pair.1 pair.2

theorem joinRows_eq_map (kind : JoinKind) (main : Table) (joined : List Row) (link : Link)
    (fields : List Field) :
    joinRows kind main joined link fields =
      (pairs kind main joined link).map (pairRow kind main.name fields) := by
  cases kind with
  | inner =>
      rw [joinRows, innerJoin_eq_map, pairs, List.map_map]
      rfl
  | left =>
      rw [joinRows, leftJoin, pairs, List.map_flatMap]
      apply List.flatMap_congr
      intro row _
      cases h : partners link joined row with
      | nil =>
          rw [leftRows_eq_of_partners_nil h]
          rfl
      | cons partner rest =>
          rw [leftRows_eq_of_partners_cons h]
          simp [pairRow]
  | right =>
      rw [joinRows, rightJoin, pairs, List.map_map]
      rfl

theorem get?_pairRow (kind : JoinKind) {fields : List Field} {name : String}
    (hname : name ∈ sources fields) (pair : Row × Option Row) :
    (pairRow kind table fields pair).get? name =
      some (cellFor table pair.1 pair.2 name) := by
  cases kind with
  | inner => exact get?_narrowRow hname
  | left => exact get?_wideRow hname
  | right => exact get?_wideRow hname

/-!
## The side of a field
-/

/-- Requested fields that are qualified with one of the two tables hold the cell of their
column in the row of that table. -/
def KeepsSides (main joined : String) (fields : List Field) (pair : Row × Option Row)
    (row : Row) : Prop :=
  ∀ column,
    (Name.qualify main column ∈ sources fields → Lacks (Name.qualify main column) pair →
      row.get? (Name.qualify main column) = some (cellIn (some pair.1) column)) ∧
    (Name.qualify joined column ∈ sources fields → Lacks (Name.qualify joined column) pair →
      row.get? (Name.qualify joined column) = some (cellIn pair.2 column))

/-- Every row of every join of the two tables keeps their sides. -/
def AlwaysKeepsSides (main joined : String) : Prop :=
  ∀ (kind : JoinKind) (t : Table) (rows : List Row) (link : Link) (fields : List Field),
    t.name = main →
      List.Forall₂ (KeepsSides main joined fields) (pairs kind t rows link)
        (joinRows kind t rows link fields)

variable {main joined : String}

theorem keepsSides_pairRow (hmain : Name.IsBare main) (hjoined : Name.IsBare joined)
    (hne : main ≠ joined) (kind : JoinKind) (fields : List Field) (pair : Row × Option Row) :
    KeepsSides main joined fields pair (pairRow kind main fields pair) := by
  intro column
  constructor
  · intro hname hlacks
    rw [get?_pairRow kind hname, cellFor_qualify_main hmain hlacks]
  · intro hname hlacks
    rw [get?_pairRow kind hname, cellFor_qualify_joined hjoined hne.symm hlacks]

theorem alwaysKeepsSides_of_isBare (hmain : Name.IsBare main) (hjoined : Name.IsBare joined)
    (hne : main ≠ joined) : AlwaysKeepsSides main joined := by
  intro kind t rows link fields hname
  subst hname
  rw [joinRows_eq_map, List.forall₂_map_right_iff, List.forall₂_same]
  intro pair _
  exact keepsSides_pairRow hmain hjoined hne kind fields pair

/-!
## Names with a dot
-/

/-- The row with one text, under the name of a column. -/
def oneText (column : String) : Row :=
  Row.ofList [(column, .text "")]

theorem get?_oneText (column name : String) :
    (oneText column).get? name = if name = column then some (.text "") else none := by
  rw [oneText, Row.ofList, Row.insertAll_cons, Row.insertAll_nil, Row.get?_insert,
    Row.get?_empty]

theorem get?_oneText_qualify (table column : String) :
    (oneText column).get? (Name.qualify table column) = none := by
  rw [get?_oneText, if_neg (Name.qualify_ne_self table column)]

theorem cellIn_oneText (column : String) :
    cellIn (some (oneText column)) column = .text "" := by
  simp [cellIn, get?_oneText]

theorem cellIn_oneText_qualify (table column : String) :
    cellIn (some (oneText column)) (Name.qualify table column) = .null := by
  simp [cellIn, get?_oneText_qualify]

theorem isBare_main_of_alwaysKeepsSides (h : AlwaysKeepsSides main joined) :
    Name.IsBare main := by
  by_contra hdot
  rcases Name.exists_qualify_of_not_isBare hdot with ⟨owner, rest, howner, rfl⟩
  -- A row without a partner: its text is looked for in the partner.
  let name := Name.qualify (Name.qualify owner rest) "c"
  have hrequested : name ∈ sources [.column name] := List.mem_singleton.mpr rfl
  have hlacks : Lacks name (oneText "c", none) :=
    ⟨get?_oneText_qualify _ "c", fun partner hpartner => nomatch hpartner⟩
  have hother : owner ≠ Name.qualify owner rest := by
    intro heq
    exact Name.qualify_not_isBare owner rest (heq ▸ howner)
  have hjoin := h .left { name := Name.qualify owner rest, columns := [], rows := [oneText "c"] }
    [] { left := "", right := "" } [.column name] rfl
  have hcell := ((List.forall₂_cons.mp hjoin).1 "c").1 hrequested hlacks
  rw [get?_wideRow hrequested, cellFor_qualify_dotted howner hlacks, if_neg hother,
    cellIn_oneText] at hcell
  cases hcell

theorem isBare_joined_of_alwaysKeepsSides (h : AlwaysKeepsSides main joined) :
    Name.IsBare joined := by
  by_contra hdot
  rcases Name.exists_qualify_of_not_isBare hdot with ⟨owner, rest, howner, rfl⟩
  -- A row of the joined table without a partner: a longer column is looked for, in it or
  -- in the empty row on the other side.
  let name := Name.qualify (Name.qualify owner rest) "c"
  have hrequested : name ∈ sources [.column name] := List.mem_singleton.mpr rfl
  have hlacks : Lacks name (Row.empty, some (oneText "c")) := by
    constructor
    · rfl
    · intro partner hpartner
      cases hpartner
      exact get?_oneText_qualify _ "c"
  have hread : cellFor main Row.empty (some (oneText "c")) name = .null := by
    refine (cellFor_qualify_dotted howner hlacks).trans ?_
    split
    · rfl
    · exact cellIn_oneText_qualify rest "c"
  have hjoin := h .right { name := main, columns := [], rows := [] } [oneText "c"]
    { left := "", right := "" } [.column name] rfl
  have hcell := ((List.forall₂_cons.mp hjoin).1 "c").2 hrequested hlacks
  rw [rightRow_eq, get?_wideRow hrequested, cellIn_oneText] at hcell
  have htext := (congrArg some hread).symm.trans hcell
  cases htext

/-- Requested fields read the rows of their own tables, in every join of two tables, exactly
if neither table has a dot in its name. -/
theorem alwaysKeepsSides_iff (hne : main ≠ joined) :
    AlwaysKeepsSides main joined ↔ Name.IsBare main ∧ Name.IsBare joined := by
  constructor
  · intro h
    constructor
    · exact isBare_main_of_alwaysKeepsSides h
    · exact isBare_joined_of_alwaysKeepsSides h
  · rintro ⟨hmain, hjoined⟩
    exact alwaysKeepsSides_of_isBare hmain hjoined hne

theorem alwaysKeepsSides_iff_offices :
    "north.staff" ≠ "teams" ∧
      (AlwaysKeepsSides "north.staff" "teams" ↔
        Name.IsBare "north.staff" ∧ Name.IsBare "teams") :=
  ⟨by decide, alwaysKeepsSides_iff (by decide)⟩

/-- The names of a table with a dot in its name are not found, whether a row has a partner
or not. -/
theorem answer_dotted_table :
    let north : Table := { Office.staff with name := "north.staff" }
    ¬AlwaysKeepsSides north.name Office.teams.name ∧
      (north.rows.map fun row => ResultTable.cellText (row.get? "name")) =
        ["Ann", "Bob", "Cal"] ∧
      (answer ((Store.empty.put north).put Office.teams).load
          "SELECT north.staff.name FROM north.staff LEFT JOIN teams ON team = id").toOption.map
        ResultTable.text = some "north.staff.name\nNULL\nNULL\nNULL" := by
  intro north
  refine ⟨?_, by decide +kernel, by decide +kernel⟩
  intro h
  have hbare : Name.IsBare north.name := isBare_main_of_alwaysKeepsSides h
  exact absurd hbare (by decide)

end Joining
end TableQuery
