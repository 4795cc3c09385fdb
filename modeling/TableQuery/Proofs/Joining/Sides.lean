import TableQuery.Execution
import TableQuery.Proofs.Cell.Order
import TableQuery.Proofs.Row.Filling
import TableQuery.Store

/-!
# The two sides of a join

A name that is qualified with one of two tables is read from the row of that table,
whichever of them the query names first.  A link between the two tables is turned so
that it matches the same pairs of rows either way.
-/

namespace TableQuery

/-!
## Qualified names
-/

namespace Name

/-- A name without a dot, so that what it qualifies is known to be its own. -/
def IsBare (table : String) : Prop :=
  '.' ∉ table.toList

instance (table : String) : Decidable (IsBare table) :=
  inferInstanceAs (Decidable ('.' ∉ table.toList))

theorem owner?_qualify {table : String} (h : IsBare table) (column : String) :
    owner? (qualify table column) = some table := by
  have hcut : Text.cut? '.' (qualify table column).toList =
      some (table.toList, column.toList) := by
    rw [Text.cut?_eq_some_iff]
    constructor
    · simp [qualify]
    · exact h
  simp [owner?, hcut]

end Name

/-!
## Links
-/

namespace Link

/-- The link ties a column of one table to a column of the other, in either order. -/
def Ties (a b : String) (link : Link) : Prop :=
  ∃ x y, link = { left := Name.qualify a x, right := Name.qualify b y } ∨
    link = { left := Name.qualify b y, right := Name.qualify a x }

def flip (link : Link) : Link :=
  { left := link.right, right := link.left }

variable {a b : String} {link : Link}

theorem Ties.oriented_swap (h : link.Ties a b) (ha : Name.IsBare a) (hb : Name.IsBare b)
    (hne : a ≠ b) : link.oriented b a = (link.oriented a b).flip := by
  rcases h with ⟨x, y, rfl | rfl⟩
  · simp [oriented, flip, Name.owner?_qualify ha, Name.owner?_qualify hb, hne]
  · simp [oriented, flip, Name.owner?_qualify ha, Name.owner?_qualify hb, hne, Ne.symm hne]

theorem matches?_of_flip (link : Link) {r s : Row} (h : link.flip.matches? s r = true) :
    link.matches? r s = true := by
  simp only [matches?, flip, Bool.and_eq_true, Bool.not_eq_true', beq_iff_eq] at h ⊢
  rcases h with ⟨hnull, hequal⟩
  constructor
  · rw [← Cell.isNull_eq_of_compare? hequal]
    exact hnull
  · exact Cell.compare?_eq_some_eq_comm.mp hequal

theorem matches?_flip (link : Link) (r s : Row) :
    link.flip.matches? s r = link.matches? r s := by
  rw [Bool.eq_iff_iff]
  constructor
  · exact matches?_of_flip link
  · exact matches?_of_flip link.flip

end Link

/-!
## Requested columns
-/

namespace Field

/-- A column of one of two tables, under its qualified name. -/
def IsColumnOf (a b : String) (f : Field) : Prop :=
  ∃ c, f = .column (Name.qualify a c) ∨ f = .column (Name.qualify b c)

variable {a b : String} {fields : List Field}

theorem IsColumnOf.isAggregate {f : Field} (h : f.IsColumnOf a b) : f.isAggregate = false := by
  rcases h with ⟨c, rfl | rfl⟩ <;> rfl

theorem IsColumnOf.source? {f : Field} (h : f.IsColumnOf a b) : f.source? = some f.label := by
  rcases h with ⟨c, rfl | rfl⟩ <;> rfl

theorem sources_eq_labels (h : ∀ f ∈ fields, f.IsColumnOf a b) :
    Joining.sources fields = fields.map label := by
  unfold Joining.sources
  induction fields with
  | nil =>
      rfl
  | cons f fields ih =>
      rw [List.filterMap_cons, (h f (List.mem_cons_self ..)).source?, List.map_cons]
      rw [ih fun f hf => h f (List.mem_cons_of_mem _ hf)]

theorem exists_of_mem_sources {name : String} (h : ∀ f ∈ fields, f.IsColumnOf a b)
    (hname : name ∈ Joining.sources fields) :
    ∃ c, name = Name.qualify a c ∨ name = Name.qualify b c := by
  rw [sources_eq_labels h, List.mem_map] at hname
  rcases hname with ⟨f, hf, rfl⟩
  rcases h f hf with ⟨c, rfl | rfl⟩
  · exact ⟨c, Or.inl rfl⟩
  · exact ⟨c, Or.inr rfl⟩

end Field

namespace Joining

variable {a b : String}

theorem readsMain_qualify (ha : Name.IsBare a) (table c : String) :
    readsMain table (Name.qualify a c) = (a == table) := by
  simp [readsMain, Name.owner?_qualify ha]

theorem cellFor_swap (ha : Name.IsBare a) (hb : Name.IsBare b) (hne : a ≠ b) (r s : Row)
    {name : String} (hname : ∃ c, name = Name.qualify a c ∨ name = Name.qualify b c) :
    cellFor b s (some r) name = cellFor a r (some s) name := by
  rcases hname with ⟨c, rfl | rfl⟩
  · simp [cellFor, readsMain_qualify ha, hne]
  · simp [cellFor, readsMain_qualify hb, Ne.symm hne]

end Joining

/-!
## Queries of two tables
-/

namespace Query

/-- The query for plain fields of two joined tables. -/
def ofJoin (kind : JoinKind) (main joined : String) (link : Link) (fields : List Field)
    (conditions : List Condition) : Query :=
  { fields, table := main, conditions, join := some { kind, table := joined, link }
    groupBy := none }

theorem run_ofJoin {source : Source} {main joined : Table} {a b : String}
    (hmain : source main.name = .ok main) (hjoined : source joined.name = .ok joined)
    {fields : List Field} (hfields : ∀ f ∈ fields, f.IsColumnOf a b) (kind : JoinKind)
    (link : Link) (conditions : List Condition) :
    (ofJoin kind main.name joined.name link fields conditions).run source =
      .ok (projectRows fields (chooseRows conditions
        (joinRows kind main joined.rows (link.oriented main.name joined.name) fields))) := by
  have hplain : fields.any Field.isAggregate = false := by
    rw [List.any_eq_false]
    intro f hf
    simp [(hfields f hf).isAggregate]
  have hload : (ofJoin kind main.name joined.name link fields conditions).loadRows source =
      .ok (joinRows kind main joined.rows (link.oriented main.name joined.name) fields) := by
    simp only [loadRows, ofJoin, hmain, hjoined]
    rfl
  have hshape : ∀ rows, (ofJoin kind main.name joined.name link fields conditions).shape rows =
      projectRows fields rows := by
    intro rows
    simp [shape, isSummary, ofJoin, hplain]
  rw [run, hload]
  exact congrArg Except.ok (hshape _)

end Query

/-!
## Two tables

Two members of staff are on the first team, written differently, one is on a team that
is not listed, and nobody is on the other listed team.
-/

namespace Office

def staff : Table :=
  { name := "staff"
    columns := ["name", "team"]
    rows := [["Ann", "1"], ["Bob", "2"], ["Cal", "1.0"]].map
      (Table.rowOfTexts ["name", "team"]) }

def teams : Table :=
  { name := "teams"
    columns := ["id", "title"]
    rows := [["1", "Red"], ["3", "Blue"]].map (Table.rowOfTexts ["id", "title"]) }

def source : Source :=
  ((Store.empty.put staff).put teams).load

def membership : Link :=
  { left := "teams.id", right := "staff.team" }

def fields : List Field :=
  [.column "staff.name", .column "teams.title"]

theorem membership_ties : membership.Ties staff.name teams.name :=
  ⟨"team", "id", Or.inr rfl⟩

theorem isColumnOf_of_mem_fields : ∀ f ∈ fields, f.IsColumnOf staff.name teams.name := by
  simp only [fields, List.forall_mem_cons, List.not_mem_nil, false_implies, implies_true, and_true]
  exact ⟨⟨"name", Or.inl rfl⟩, ⟨"title", Or.inr rfl⟩⟩

end Office
end TableQuery
