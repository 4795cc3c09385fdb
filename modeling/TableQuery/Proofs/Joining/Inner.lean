import Mathlib.Data.List.Perm.Basic
import TableQuery.Proofs.Joining.Sides

/-!
# Inner joins

An inner join gives one row for each matching pair, and the row of a pair is the same
from either side.  So the two tables may be exchanged: the same rows result, in another
order.
-/

namespace TableQuery

/-!
## Pairs of two lists
-/

theorem map_filter_eq_flatMap {β γ : Type} (p : β → Bool) (f : β → γ) (ys : List β) :
    (ys.filter p).map f = ys.flatMap fun y => if p y then [f y] else [] := by
  induction ys with
  | nil =>
      rfl
  | cons y ys ih =>
      by_cases h : p y <;> simp [h, ih]

theorem flatMap_map_filter_perm {α β γ : Type} (p : α → β → Bool) (f : α → β → γ)
    (xs : List α) (ys : List β) :
    (xs.flatMap fun x => (ys.filter fun y => p x y).map fun y => f x y).Perm
      (ys.flatMap fun y => (xs.filter fun x => p x y).map fun x => f x y) := by
  induction xs with
  | nil =>
      simp
  | cons x xs ih =>
      -- Each list on the right begins with the pair of `x`, if it matches.
      have hcons : (ys.flatMap fun y => ((x :: xs).filter fun x => p x y).map fun x => f x y) =
          ys.flatMap fun y => (if p x y then [f x y] else []) ++
            (xs.filter fun x => p x y).map fun x => f x y := by
        apply List.flatMap_congr
        intro y _
        by_cases h : p x y <;> simp [h]
      rw [List.flatMap_cons, hcons, map_filter_eq_flatMap]
      exact (ih.append_left _).trans (List.flatMap_append_perm ys _ _)

/-!
## Exchanging the tables
-/

namespace Joining

theorem narrowRow_swap {a b : String} (ha : Name.IsBare a) (hb : Name.IsBare b) (hne : a ≠ b)
    {fields : List Field} (hfields : ∀ f ∈ fields, f.IsColumnOf a b) (r s : Row) :
    narrowRow b fields s (some r) = narrowRow a fields r (some s) := by
  unfold narrowRow requested
  congr 1
  apply List.map_congr_left
  intro name hname
  rw [cellFor_swap ha hb hne r s (Field.exists_of_mem_sources hfields hname)]

theorem innerJoin_perm_flip {a b : Table} (ha : Name.IsBare a.name) (hb : Name.IsBare b.name)
    (hne : a.name ≠ b.name) {fields : List Field}
    (hfields : ∀ f ∈ fields, f.IsColumnOf a.name b.name) (link : Link) :
    (innerJoin a b.rows link fields).Perm (innerJoin b a.rows link.flip fields) := by
  unfold innerJoin partners
  simp only [Link.matches?_flip, narrowRow_swap ha hb hne hfields]
  exact flatMap_map_filter_perm link.matches?
    (fun r s => narrowRow a.name fields r (some s)) a.rows b.rows

end Joining

theorem projectRows_perm {fields : List Field} {conditions : List Condition}
    {rows rows' : List Row} (h : rows.Perm rows') :
    (projectRows fields (chooseRows conditions rows)).Perm
      (projectRows fields (chooseRows conditions rows')) :=
  (h.filter _).map _

/-- Two tables give the same rows to an inner join whichever of them is named first, but
for the order of the rows. -/
theorem run_innerJoin_perm_swap (source : Source) (a b : Table)
    (hloadA : source a.name = .ok a) (hloadB : source b.name = .ok b)
    (ha : Name.IsBare a.name) (hb : Name.IsBare b.name) (hne : a.name ≠ b.name)
    (link : Link) (hlink : link.Ties a.name b.name) (fields : List Field)
    (hfields : ∀ f ∈ fields, f.IsColumnOf a.name b.name) (conditions : List Condition) :
    ∃ rows rows',
      (Query.ofJoin .inner a.name b.name link fields conditions).run source = .ok rows ∧
      (Query.ofJoin .inner b.name a.name link fields conditions).run source = .ok rows' ∧
      rows.Perm rows' := by
  refine ⟨_, _, Query.run_ofJoin hloadA hloadB hfields .inner link conditions,
    Query.run_ofJoin hloadB hloadA hfields .inner link conditions, ?_⟩
  rw [hlink.oriented_swap ha hb hne]
  exact projectRows_perm (Joining.innerJoin_perm_flip ha hb hne hfields _)

theorem run_innerJoin_perm_swap_office :
    Name.IsBare "staff" ∧ Name.IsBare "teams" ∧ "staff" ≠ "teams" ∧
    ∃ rows rows',
      (Query.ofJoin .inner "staff" "teams" Office.membership Office.fields
        [⟨"teams.title", .notEqual, "Blue"⟩]).run Office.source = .ok rows ∧
      (Query.ofJoin .inner "teams" "staff" Office.membership Office.fields
        [⟨"teams.title", .notEqual, "Blue"⟩]).run Office.source = .ok rows' ∧
      rows.Perm rows' :=
  ⟨by decide, by decide, by decide,
    run_innerJoin_perm_swap Office.source Office.staff Office.teams rfl rfl (by decide)
      (by decide) (by decide) Office.membership Office.membership_ties Office.fields
      Office.isColumnOf_of_mem_fields [⟨"teams.title", .notEqual, "Blue"⟩]⟩

end TableQuery
