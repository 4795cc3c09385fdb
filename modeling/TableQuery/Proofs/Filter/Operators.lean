import TableQuery.Filter
import TableQuery.Proofs.Cell.Literals
import TableQuery.Proofs.Decimal.Values
import TableQuery.Proofs.Row.Filling

/-!
# Operators against each other

All operators ask for the one order between the cell at a field and the literal.  Between
finite cells of one kind that order is linear, and between any others there is none.  So what
one operator keeps of a list of rows is divided between others, and a literal that is further
up keeps no fewer rows below it.
-/

namespace TableQuery

/-!
## The order of finite cells
-/

namespace Cell

/-- Both are numbers, or both are texts. -/
inductive SameKind : Cell → Cell → Prop where
  | numbers (x y : Float) : SameKind (number x) (number y)
  | texts (s t : String) : SameKind (text s) (text t)

/-- The number has a lesser value, or the text comes first. -/
inductive Below : Cell → Cell → Prop where
  | numbers {x y : Float} : Decimal.value x < Decimal.value y → Below (number x) (number y)
  | texts {s t : String} : s < t → Below (text s) (text t)

section Order

variable {c d e : Cell}

theorem Below.trans (hcd : c.Below d) (hde : d.Below e) : c.Below e := by
  cases hcd with
  | numbers hcd =>
      cases hde with
      | numbers hde =>
          exact Below.numbers (hcd.trans hde)
  | texts hcd =>
      cases hde with
      | texts hde =>
          exact Below.texts (lt_trans hcd hde)

theorem compareNumbers?_eq_cmp {x y : Float} (hx : Decimal.isFinite x = true)
    (hy : Decimal.isFinite y = true) :
    compareNumbers? x y = some (cmp (Decimal.value x) (Decimal.value y)) := by
  rw [compareNumbers?_eq_compare, Decimal.compare_eq_cmp_value hx hy]

theorem compare?_eq_lt_iff (hc : c.IsFinite) (hd : d.IsFinite) :
    c.compare? d = some .lt ↔ c.Below d := by
  constructor
  · intro h
    cases c with
    | null =>
        cases d <;> cases h
    | number x =>
        cases d with
        | null =>
            cases h
        | number y =>
            rw [compare?, compareNumbers?_eq_cmp hc hd, Option.some_inj, cmp_eq_lt_iff] at h
            exact Below.numbers h
        | text t =>
            cases h
    | text s =>
        cases d with
        | null =>
            cases h
        | number y =>
            cases h
        | text t =>
            rw [compare?, Option.some_inj, compareOfLessAndEq_eq_lt] at h
            exact Below.texts h
  · intro h
    cases h with
    | numbers h =>
        rw [compare?, compareNumbers?_eq_cmp hc hd, h.cmp_eq_lt]
    | texts h =>
        rw [compare?, compareOfLessAndEq_eq_lt.mpr h]

theorem compare?_eq_gt_iff (hc : c.IsFinite) (hd : d.IsFinite) :
    c.compare? d = some .gt ↔ d.Below c := by
  rw [← compare?_eq_lt_iff hd hc, compare?_swap c d]
  cases c.compare? d with
  | none =>
      simp
  | some order =>
      cases order <;> simp

theorem sameKind_of_isSome (hnull : d ≠ null) (h : (c.compare? d).isSome = true) :
    c.SameKind d := by
  cases c with
  | null =>
      cases d with
      | null =>
          exact absurd rfl hnull
      | number y =>
          cases h
      | text t =>
          cases h
  | number x =>
      cases d with
      | null =>
          cases h
      | number y =>
          exact SameKind.numbers x y
      | text t =>
          cases h
  | text s =>
      cases d with
      | null =>
          cases h
      | number y =>
          cases h
      | text t =>
          exact SameKind.texts s t

/-- Finite cells of one kind are ordered; no cell is ordered with one of another kind. -/
theorem isSome_compare?_iff (hc : c.IsFinite) (hd : d.IsFinite) (hnull : d ≠ null) :
    (c.compare? d).isSome = true ↔ c.SameKind d := by
  constructor
  · exact sameKind_of_isSome hnull
  · intro h
    cases h with
    | numbers x y =>
        rw [compare?, compareNumbers?_eq_cmp hc hd]
        rfl
    | texts s t =>
        rfl

end Order

end Cell

/-!
## Divided lists
-/

section Lists

variable {α : Type} {p q r : α → Bool}

/-- The two lists have nothing in common, each stands in the order of the whole, and together
they have all of it. -/
structure Divides (left right whole : List α) : Prop where
  left_sublist : left.Sublist whole
  right_sublist : right.Sublist whole
  disjoint : left.Disjoint right
  covers : (left ++ right).Perm whole

theorem divides_filter (p : α → Bool) (whole : List α) :
    Divides (whole.filter p) (whole.filter fun a => !p a) whole where
  left_sublist := List.filter_sublist
  right_sublist := List.filter_sublist
  disjoint := by
    intro a hleft hright
    rw [List.mem_filter] at hleft hright
    simp [hleft.2] at hright
  covers := List.filter_append_perm p whole

/-- What has one property or another is divided by them, if nothing has both. -/
theorem divides_of_or (hor : ∀ a, r a = (p a || q a)) (hnot : ∀ a, (p a && q a) = false)
    (whole : List α) : Divides (whole.filter p) (whole.filter q) (whole.filter r) := by
  have hdivides := divides_filter p (whole.filter r)
  have hleft : ∀ a, (p a && r a) = p a := by
    intro a
    rw [hor]
    cases p a <;> rfl
  have hright : ∀ a, (!p a && r a) = q a := by
    intro a
    have ha := hnot a
    rw [hor]
    cases hp : p a with
    | false =>
        rfl
    | true =>
        rw [hp, Bool.true_and] at ha
        rw [ha]
        rfl
  rwa [List.filter_filter, List.filter_filter, funext hleft, funext hright] at hdivides

end Lists

/-!
## Operators
-/

namespace Comparison

theorem holds_atMost (order : Option Ordering) :
    atMost.holds order = (less.holds order || equal.holds order) :=
  rfl

theorem holds_atLeast (order : Option Ordering) :
    atLeast.holds order = (greater.holds order || equal.holds order) :=
  rfl

/-- Of these three operators, an order meets at most one. -/
theorem holds_exclusive (order : Option Ordering) :
    (less.holds order && equal.holds order) = false ∧
      (greater.holds order && equal.holds order) = false ∧
      (less.holds order && greater.holds order) = false := by
  cases order with
  | none =>
      exact ⟨rfl, rfl, rfl⟩
  | some order =>
      cases order <;> exact ⟨rfl, rfl, rfl⟩

/-- Without an order nothing but being different is met. -/
theorem isSome_of_holds {op : Comparison} (hop : op ≠ notEqual) {order : Option Ordering}
    (h : op.holds order = true) : order.isSome = true := by
  cases order with
  | none =>
      cases op <;> simp [holds] at h hop
  | some order =>
      rfl

theorem holds_any (order : Option Ordering) :
    (less.holds order = true ∨ equal.holds order = true ∨ greater.holds order = true) ↔
      order.isSome = true := by
  cases order with
  | none =>
      simp [holds]
  | some order =>
      cases order <;> simp [holds]

end Comparison

/-!
## Rows
-/

namespace Row

/-- No cell of the row is an infinite or an undefined number. -/
def IsFinite (row : Row) : Prop :=
  ∀ entry ∈ row.entries, entry.2.IsFinite

instance : DecidablePred IsFinite :=
  fun row => inferInstanceAs (Decidable (∀ entry ∈ row.entries, entry.2.IsFinite))

theorem IsFinite.coerce? {row : Row} (h : row.IsFinite) (key : String) :
    (Cell.coerce? (row.get? key)).IsFinite := by
  cases hcell : row.get? key with
  | none =>
      trivial
  | some cell =>
      exact (h _ (get?_eq_some_iff.mp hcell)).coerce

theorem IsFinite.isSome_compare?_iff {row : Row} (h : row.IsFinite) (key literal : String) :
    ((Cell.coerce? (row.get? key)).compare? (Cell.ofLiteral literal)).isSome = true ↔
      (Cell.coerce? (row.get? key)).SameKind (Cell.ofLiteral literal) := by
  exact Cell.isSome_compare?_iff (h.coerce? key) (Cell.isFinite_ofLiteral literal)
    (Cell.ofLiteral_ne_null literal)

end Row

section Kept

variable {rows : List Row} {field literal : String} {row : Row}

/-- The rows that a condition keeps. -/
def kept (rows : List Row) (field : String) (op : Comparison) (literal : String) : List Row :=
  chooseRows [⟨field, op, literal⟩] rows

theorem kept_eq_filter (rows : List Row) (field : String) (op : Comparison) (literal : String) :
    kept rows field op literal = rows.filter fun row =>
      op.holds ((Cell.coerce? (row.get? field)).compare? (Cell.ofLiteral literal)) := by
  rw [kept, chooseRows]
  congr
  funext row
  rw [meetsAll, List.all_cons, List.all_nil, Bool.and_true]
  rfl

theorem mem_kept_iff {op : Comparison} :
    row ∈ kept rows field op literal ↔ row ∈ rows ∧
      op.holds ((Cell.coerce? (row.get? field)).compare? (Cell.ofLiteral literal)) = true := by
  rw [kept_eq_filter, List.mem_filter]

theorem kept_sublist_of_imp {op : Comparison} {u v : String}
    (h : ∀ row ∈ rows,
      op.holds ((Cell.coerce? (row.get? field)).compare? (Cell.ofLiteral u)) = true →
        op.holds ((Cell.coerce? (row.get? field)).compare? (Cell.ofLiteral v)) = true) :
    (kept rows field op u).Sublist (kept rows field op v) := by
  have hboth : kept rows field op u = (kept rows field op v).filter fun row =>
      op.holds ((Cell.coerce? (row.get? field)).compare? (Cell.ofLiteral u)) := by
    rw [kept_eq_filter, kept_eq_filter, List.filter_filter]
    apply List.filter_congr
    intro row hrow
    cases hu : op.holds ((Cell.coerce? (row.get? field)).compare? (Cell.ofLiteral u)) with
    | false =>
        rfl
    | true =>
        rw [h row hrow hu]
        rfl
  rw [hboth]
  exact List.filter_sublist

/-- A row is kept by an operator that asks for an order if its cell is of the literal's kind. -/
theorem mem_kept_any_iff (hfinite : row.IsFinite) (hrow : row ∈ rows) :
    (row ∈ kept rows field .less literal ∨ row ∈ kept rows field .equal literal ∨
      row ∈ kept rows field .greater literal) ↔
        (Cell.coerce? (row.get? field)).SameKind (Cell.ofLiteral literal) := by
  rw [mem_kept_iff, mem_kept_iff, mem_kept_iff, ← and_or_left, ← and_or_left,
    Comparison.holds_any, and_iff_right hrow]
  exact hfinite.isSome_compare?_iff field literal

theorem kept_less_sublist (hrows : ∀ row ∈ rows, row.IsFinite) {u v : String}
    (huv : (Cell.ofLiteral u).Below (Cell.ofLiteral v)) :
    (kept rows field .less u).Sublist (kept rows field .less v) := by
  apply kept_sublist_of_imp
  intro row hrow h
  have hcell := (hrows row hrow).coerce? field
  rw [Comparison.holds, beq_iff_eq, Cell.compare?_eq_lt_iff hcell (Cell.isFinite_ofLiteral _)]
    at h ⊢
  exact h.trans huv

theorem kept_greater_sublist (hrows : ∀ row ∈ rows, row.IsFinite) {u v : String}
    (huv : (Cell.ofLiteral u).Below (Cell.ofLiteral v)) :
    (kept rows field .greater v).Sublist (kept rows field .greater u) := by
  apply kept_sublist_of_imp
  intro row hrow h
  have hcell := (hrows row hrow).coerce? field
  rw [Comparison.holds, beq_iff_eq, Cell.compare?_eq_gt_iff hcell (Cell.isFinite_ofLiteral _)]
    at h ⊢
  exact huv.trans h

/-- What the six operators keep of rows with finite cells.  Equal and not equal divide the
rows; at most, and at least, are each divided between equal and the strict operator; the two
strict operators have nothing in common; and only a cell of the literal's kind is below it,
above it or equal to it.  With a literal that is further up, no row is lost below and none is
won above. -/
theorem kept_operators (hrows : ∀ row ∈ rows, row.IsFinite) (field : String) :
    (∀ literal,
      Divides (kept rows field .equal literal) (kept rows field .notEqual literal) rows ∧
      Divides (kept rows field .greater literal) (kept rows field .equal literal)
        (kept rows field .atLeast literal) ∧
      Divides (kept rows field .less literal) (kept rows field .equal literal)
        (kept rows field .atMost literal) ∧
      (kept rows field .less literal).Disjoint (kept rows field .greater literal) ∧
      ∀ row ∈ rows, (row ∈ kept rows field .less literal ∨
        row ∈ kept rows field .equal literal ∨ row ∈ kept rows field .greater literal) ↔
          (Cell.coerce? (row.get? field)).SameKind (Cell.ofLiteral literal)) ∧
    ∀ u v, (Cell.ofLiteral u).Below (Cell.ofLiteral v) →
      (kept rows field .less u).Sublist (kept rows field .less v) ∧
      (kept rows field .greater v).Sublist (kept rows field .greater u) := by
  constructor
  · intro literal
    refine ⟨?_, ?_, ?_, ?_, ?_⟩
    · rw [kept_eq_filter, kept_eq_filter]
      exact divides_filter _ rows
    · rw [kept_eq_filter, kept_eq_filter, kept_eq_filter]
      exact divides_of_or (fun _ => Comparison.holds_atLeast _)
        (fun _ => (Comparison.holds_exclusive _).2.1) rows
    · rw [kept_eq_filter, kept_eq_filter, kept_eq_filter]
      exact divides_of_or (fun _ => Comparison.holds_atMost _)
        (fun _ => (Comparison.holds_exclusive _).1) rows
    · intro row hless hgreater
      have hnot := (Comparison.holds_exclusive
        ((Cell.coerce? (row.get? field)).compare? (Cell.ofLiteral literal))).2.2
      rw [(mem_kept_iff.mp hless).2, (mem_kept_iff.mp hgreater).2] at hnot
      cases hnot
    · intro row hrow
      exact mem_kept_any_iff (hrows row hrow) hrow
  · intro u v huv
    exact ⟨kept_less_sublist hrows huv, kept_greater_sublist hrows huv⟩

/-- Numbers and texts in one column, a null and a row without the column. -/
theorem kept_operators_mixed :
    let rows := [Row.ofList [("v", .text " 9 ")], Row.ofList [("v", .text "'1e1'")],
      Row.ofList [("v", .text "inf")], Row.ofList [("v", .null)], Row.ofList [("w", .text "3")],
      Row.ofList [("v", .number 2.5)]]
    (∀ row ∈ rows, row.IsFinite) ∧
      Divides (kept rows "v" .greater "9") (kept rows "v" .equal "9")
        (kept rows "v" .atLeast "9") ∧
      (Cell.ofLiteral "9").Below (Cell.ofLiteral "'10'") ∧
      (kept rows "v" .less "9").Sublist (kept rows "v" .less "'10'") := by
  intro rows
  have hrows : ∀ row ∈ rows, row.IsFinite := by decide +kernel
  have hcompare : (Cell.ofLiteral "9").compare? (Cell.ofLiteral "'10'") = some .lt := by
    decide +kernel
  have hbelow := (Cell.compare?_eq_lt_iff (Cell.isFinite_ofLiteral _)
    (Cell.isFinite_ofLiteral _)).mp hcompare
  rcases kept_operators hrows "v" with ⟨hoperators, hliterals⟩
  exact ⟨hrows, (hoperators "9").2.1, hbelow, (hliterals _ _ hbelow).1⟩

end Kept

end TableQuery
